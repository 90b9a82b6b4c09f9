import RoleCatalog.Proofs.Text.LowerCase
import RoleCatalog.Registry.Identifier

/-! # Reading an identifier

An identifier is read from the first word of a text. Blanks before the word, a semicolon
at its end, what follows it after a blank, quotation marks and the case of ASCII letters
make no difference. Plain names among separators are read as these names in lower case.
-/

namespace RoleCatalog

namespace Identifier

/-! ## The first word -/

/-- A word without its quotation marks and with its ASCII letters in lower case. -/
def bare (word : List Char) : List Char :=
  (dropQuotes word).map Char.toLower

/-- The normal form of a word that has lost its semicolon. -/
def canonical (word : List Char) : List Char :=
  replace '/' '.' (Text.lower (replace '\\' '/' (dropQuotes word)))

theorem normalize_eq (text : List Char) :
    normalize text = canonical (dropSemicolon (firstWord text)) :=
  rfl

theorem firstWord_append {blanks word tail : List Char}
    (blank : ∀ character ∈ blanks, Text.isBlank character = true) (isWord : Text.IsWord word)
    (ends : tail.head?.all Text.isBlank = true) :
    firstWord (blanks ++ word ++ tail) = word := by
  have started : Text.trimStart (blanks ++ word ++ tail) = word ++ tail := by
    rw [Text.trimStart, List.append_assoc, List.dropWhile_append_of_pos blank]
    cases word with
    | nil => exact absurd rfl isWord.nonempty
    | cons first rest =>
        have nonblank := isWord.unbroken first List.mem_cons_self
        simp [nonblank]
  have stopped : tail.takeWhile (fun character => !Text.isBlank character) = [] := by
    cases tail with
    | nil => rfl
    | cons first rest =>
        have blankness : Text.isBlank first = true := ends
        simp [blankness]
  rw [firstWord, started, List.takeWhile_append_of_pos, stopped, List.append_nil]
  intro character member
  rw [isWord.unbroken character member]
  rfl

theorem dropSemicolon_of_not_mem {word : List Char} (absent : ';' ∉ word) :
    dropSemicolon word = word :=
  if_neg fun last => absent (List.mem_of_getLast? last)

theorem dropSemicolon_append (word : List Char) : dropSemicolon (word ++ [';']) = word := by
  simp [dropSemicolon]

/-- The word is what is left of a text that it stands in. -/
theorem normalize_append {blanks word ending tail : List Char}
    (blank : ∀ character ∈ blanks, Text.isBlank character = true) (isWord : Text.IsWord word)
    (absent : ';' ∉ word) (optional : ending = [] ∨ ending = [';'])
    (ends : tail.head?.all Text.isBlank = true) :
    normalize (blanks ++ word ++ ending ++ tail) = canonical word := by
  rcases optional with rfl | rfl
  · rw [normalize_eq, List.append_nil, firstWord_append blank isWord ends,
      dropSemicolon_of_not_mem absent]
  · have longer : Text.IsWord (word ++ [';']) := isWord.append_left (by decide)
    rw [normalize_eq, List.append_assoc blanks, firstWord_append blank longer ends,
      dropSemicolon_append]

theorem normalize_of_isWord {word : List Char} (isWord : Text.IsWord word)
    (absent : ';' ∉ word) : normalize word = canonical word := by
  have alone : normalize ([] ++ word ++ [] ++ []) = canonical word :=
    normalize_append (fun _ member => nomatch member) isWord absent (.inl rfl) rfl
  simpa using alone

/-! ## Quotation marks and letter case -/

theorem map_toLower_replace {old new : Char}
    (keepsOld : ∀ character : Char, character.toLower = old ↔ character = old)
    (keepsNew : new.toLower = new) (word : List Char) :
    (replace old new word).map Char.toLower = replace old new (word.map Char.toLower) := by
  simp only [replace, List.map_map]
  apply List.map_congr_left
  intro character _
  simp only [Function.comp_apply, keepsOld, apply_ite Char.toLower, keepsNew]

theorem canonical_eq_of_bare_eq {left right : List Char} (alike : bare left = bare right) :
    canonical left = canonical right := by
  have lowered (word : List Char) : Text.lower (replace '\\' '/' (dropQuotes word)) =
      Text.lower (replace '\\' '/' (bare word)) := by
    -- no backslash is the lower case of another character, so replacing it can wait
    rw [← Text.lower_map_toLower, map_toLower_replace _ (by decide)]
    · rfl
    · exact fun character => Text.toLower_eq_iff (by decide)
  rw [canonical, canonical, lowered, lowered, alike]

/-- Another spelling of a token: letters of ASCII may change their case, and quotation
marks may come and go. -/
inductive Respelled : List Char → List Char → Prop where
  | done : Respelled [] []
  | letter {old new : Char} {token spelling : List Char} (same : new.toLower = old.toLower)
      (rest : Respelled token spelling) : Respelled (old :: token) (new :: spelling)
  | quoteAdded {quote : Char} {token spelling : List Char} (mark : quote = '"' ∨ quote = '\'')
      (rest : Respelled token spelling) : Respelled token (quote :: spelling)
  | quoteRemoved {quote : Char} {token spelling : List Char} (mark : quote = '"' ∨ quote = '\'')
      (rest : Respelled token spelling) : Respelled (quote :: token) spelling

theorem isQuote_iff {character : Char} :
    isQuote character = true ↔ character = '"' ∨ character = '\'' := by
  simp [isQuote]

theorem bare_cons_of_isQuote {quote : Char} (mark : isQuote quote = true)
    (word : List Char) : bare (quote :: word) = bare word := by
  simp [bare, dropQuotes, mark]

theorem bare_cons_of_not_isQuote {character : Char} (other : isQuote character = false)
    (word : List Char) : bare (character :: word) = character.toLower :: bare word := by
  simp [bare, dropQuotes, other]

theorem isQuote_eq_of_toLower_eq {left right : Char} (same : left.toLower = right.toLower) :
    isQuote left = isQuote right := by
  rw [← Text.apply_toLower isQuote (by decide) left, same,
    Text.apply_toLower isQuote (by decide) right]

theorem Respelled.bare_eq {token spelling : List Char} (respelled : Respelled token spelling) :
    bare spelling = bare token := by
  induction respelled with
  | done => rfl
  | @letter old new token spelling same _ induction =>
      have alike := isQuote_eq_of_toLower_eq same
      cases quote : isQuote old with
      | true => rw [bare_cons_of_isQuote quote, bare_cons_of_isQuote (alike.trans quote), induction]
      | false =>
          rw [bare_cons_of_not_isQuote quote, bare_cons_of_not_isQuote (alike.trans quote), same,
            induction]
  | quoteAdded mark _ induction => rw [bare_cons_of_isQuote (isQuote_iff.mpr mark), induction]
  | quoteRemoved mark _ induction => rw [bare_cons_of_isQuote (isQuote_iff.mpr mark), induction]

/-- What holds of quotation marks and does not see letter case passes on to spellings. -/
theorem Respelled.forall_mem {token spelling : List Char}
    (respelled : Respelled token spelling) (holds : Char → Bool)
    (quotes : holds '"' = true ∧ holds '\'' = true)
    (lower : ∀ character : Char, holds character.toLower = holds character)
    (all : ∀ character ∈ token, holds character = true) :
    ∀ character ∈ spelling, holds character = true := by
  induction respelled with
  | done => exact all
  | @letter old new token spelling same _ induction =>
      rw [List.forall_mem_cons] at all ⊢
      refine ⟨?_, induction all.2⟩
      -- through the lower case that the two letters share
      rw [← lower, same, lower]
      exact all.1
  | quoteAdded mark _ induction =>
      refine List.forall_mem_cons.mpr ⟨?_, induction all⟩
      rcases mark with rfl | rfl
      · exact quotes.1
      · exact quotes.2
  | quoteRemoved _ _ induction => exact induction (List.forall_mem_cons.mp all).2

theorem Respelled.unbroken {token spelling : List Char}
    (respelled : Respelled token spelling) (unbroken : Text.Unbroken token) :
    Text.Unbroken spelling := by
  intro character member
  have holds := respelled.forall_mem (fun character => !Text.isBlank character)
    (by decide) (fun character => by rw [Text.isBlank_toLower])
    (fun character member => by rw [unbroken character member]; rfl) character member
  exact Bool.not_eq_true' _ ▸ holds

theorem Respelled.semicolon_not_mem {token spelling : List Char}
    (respelled : Respelled token spelling) (absent : ';' ∉ token) : ';' ∉ spelling := by
  intro member
  have holds := respelled.forall_mem (· != ';')
    (by decide) (Text.apply_toLower (· != ';') (by decide))
    (fun character member => bne_iff_ne.mpr fun equal => absent (equal ▸ member)) ';' member
  exact absurd holds (by decide)

/-- A token is read alike under all its spellings, and wherever it is the first word. -/
theorem ofText_append {token spelling blanks ending tail : List Char}
    (isWord : Text.IsWord token) (absent : ';' ∉ token) (respelled : Respelled token spelling)
    (nonempty : spelling ≠ [])
    (blank : ∀ character ∈ blanks, Text.isBlank character = true)
    (optional : ending = [] ∨ ending = [';']) (ends : tail.head?.all Text.isBlank = true) :
    ofText (String.ofList (blanks ++ spelling ++ ending ++ tail)) =
      ofText (String.ofList token) := by
  have spelled : normalize (blanks ++ spelling ++ ending ++ tail) = canonical spelling :=
    normalize_append blank ⟨nonempty, respelled.unbroken isWord.unbroken⟩
      (respelled.semicolon_not_mem absent) optional ends
  rw [ofText, ofText, String.toList_ofList, String.toList_ofList, parts, parts, spelled,
    normalize_of_isWord isWord absent, canonical_eq_of_bare_eq respelled.bare_eq]

/-! ## Parts between separators -/

def isSeparator (character : Char) : Bool :=
  character == '.' || character == '/' || character == '\\'

/-- The parts of a normal form. -/
def pieces (word : List Char) : List (List Char) :=
  (word.splitOn '.').filter fun part => !part.isEmpty

theorem parts_eq (text : List Char) : parts text = pieces (normalize text) :=
  rfl

theorem pieces_append_dot (left right : List Char) :
    pieces (left ++ '.' :: right) = pieces left ++ pieces right := by
  simp [pieces, List.splitOn_eq_splitOnP, List.splitOnP_append_cons left right]

theorem pieces_of_solid {word : List Char} (nonempty : word ≠ []) (solid : '.' ∉ word) :
    pieces word = [word] := by
  have whole : word.splitOn '.' = [word] := by
    rw [List.splitOn_eq_splitOnP]
    refine List.splitOnP_eq_singleton fun character member => ?_
    exact beq_false_of_ne fun equal => solid (equal ▸ member)
  simp [pieces, whole, nonempty]

theorem pieces_dots_append {dots : List Char} (areDots : ∀ dot ∈ dots, dot = '.')
    (rest : List Char) : pieces (dots ++ rest) = pieces rest := by
  induction dots with
  | nil => rfl
  | cons dot dots induction =>
      rw [List.forall_mem_cons] at areDots
      rw [areDots.1, List.cons_append, ← induction areDots.2]
      exact pieces_append_dot [] (dots ++ rest)

theorem pieces_append_dots_append {dots : List Char} (areDots : ∀ dot ∈ dots, dot = '.')
    (nonempty : dots ≠ []) (left right : List Char) :
    pieces (left ++ dots ++ right) = pieces left ++ pieces right := by
  cases dots with
  | nil => exact absurd rfl nonempty
  | cons dot dots =>
      rw [List.forall_mem_cons] at areDots
      rw [areDots.1, List.append_assoc, List.cons_append, pieces_append_dot,
        pieces_dots_append areDots.2]

theorem pieces_append_dots {dots : List Char} (areDots : ∀ dot ∈ dots, dot = '.')
    (left : List Char) : pieces (left ++ dots) = pieces left := by
  cases dots with
  | nil => rw [List.append_nil]
  | cons dot dots =>
      have split := pieces_append_dots_append areDots (List.cons_ne_nil dot dots) left []
      rw [List.append_nil] at split
      exact split.trans (List.append_nil _)

/-! ## Plain names -/

/-- A character of ASCII that only its letter case or its being a separator can change. -/
def Plain (character : Char) : Prop :=
  character.toNat < 128 ∧ Text.isBlank character = false ∧ character ≠ ';' ∧
    isQuote character = false

instance (character : Char) : Decidable (Plain character) :=
  inferInstanceAs (Decidable (_ ∧ _ ∧ _ ∧ _))

structure PlainName (name : List Char) : Prop where
  nonempty : name ≠ []
  plain : ∀ character ∈ name, Plain character
  whole : ∀ character ∈ name, isSeparator character = false

instance (name : List Char) : Decidable (PlainName name) :=
  letI := List.decidableBAll Plain name
  letI := List.decidableBAll (isSeparator · = false) name
  decidable_of_iff (name ≠ [] ∧ (∀ character ∈ name, Plain character) ∧
      ∀ character ∈ name, isSeparator character = false)
    ⟨fun ⟨nonempty, plain, whole⟩ => ⟨nonempty, plain, whole⟩,
      fun name => ⟨name.nonempty, name.plain, name.whole⟩⟩

/-- ASCII letters change to lower case, and separators become full stops. -/
def plainCharacter (character : Char) : Char :=
  if isSeparator character then '.' else character.toLower

theorem plainCharacter_of_whole {character : Char} (whole : isSeparator character = false) :
    plainCharacter character = character.toLower :=
  if_neg (by rw [whole]; decide)

theorem isSeparator_iff {character : Char} :
    isSeparator character = true ↔ character = '.' ∨ character = '/' ∨ character = '\\' := by
  simp [isSeparator, or_assoc]

theorem plain_of_isSeparator {character : Char} (separator : isSeparator character = true) :
    Plain character := by
  rcases isSeparator_iff.mp separator with rfl | rfl | rfl <;> decide

theorem plain_of_separators {separators : List Char}
    (separate : ∀ character ∈ separators, isSeparator character = true) :
    ∀ character ∈ separators, Plain character :=
  fun character member => plain_of_isSeparator (separate character member)

/-- The two replacements around the change of letter case unify the separators. -/
theorem replace_toLower_replace (character : Char) :
    let slashed := (if character = '\\' then '/' else character).toLower
    (if slashed = '/' then '.' else slashed) = plainCharacter character := by
  cases separator : isSeparator character with
  | true => rcases isSeparator_iff.mp separator with rfl | rfl | rfl <;> decide
  | false =>
      have other := mt isSeparator_iff.mpr (by rw [separator]; decide)
      simp only [not_or] at other
      have slash : character.toLower = '/' ↔ character = '/' :=
        Text.toLower_eq_iff (by decide)
      rw [plainCharacter_of_whole separator]
      simp only [other.2.2, if_false, slash, other.2.1]

theorem canonical_of_plain {word : List Char} (plain : ∀ character ∈ word, Plain character) :
    canonical word = word.map plainCharacter := by
  have unquoted : dropQuotes word = word :=
    List.filter_eq_self.mpr fun character member => by
      rw [(plain character member).2.2.2]
      rfl
  have slashed : Text.IsAscii (replace '\\' '/' word) := by
    intro character member
    rcases List.mem_map.mp member with ⟨original, originalMember, rfl⟩
    split
    · decide
    · exact (plain original originalMember).1
  rw [canonical, unquoted, Text.lower_of_ascii slashed, replace, replace, List.map_map,
    List.map_map]
  apply List.map_congr_left
  intro character _
  exact replace_toLower_replace character

theorem normalize_of_plain {word : List Char} (nonempty : word ≠ [])
    (plain : ∀ character ∈ word, Plain character) :
    normalize word = word.map plainCharacter := by
  have isWord : Text.IsWord word :=
    ⟨nonempty, fun character member => (plain character member).2.1⟩
  rw [normalize_of_isWord isWord fun member => (plain ';' member).2.2.1 rfl,
    canonical_of_plain plain]

theorem map_plainCharacter_of_separators {separators : List Char}
    (separate : ∀ character ∈ separators, isSeparator character = true) :
    ∀ dot ∈ separators.map plainCharacter, dot = '.' := by
  intro dot member
  rcases List.mem_map.mp member with ⟨separator, separatorMember, rfl⟩
  exact if_pos (separate separator separatorMember)

theorem pieces_map_plainCharacter {name : List Char} (plainName : PlainName name) :
    pieces (name.map plainCharacter) = [name.map Char.toLower] := by
  have lowered : name.map plainCharacter = name.map Char.toLower :=
    List.map_congr_left fun character member =>
      plainCharacter_of_whole (plainName.whole character member)
  rw [lowered]
  refine pieces_of_solid (by simp [plainName.nonempty]) ?_
  intro member
  rcases List.mem_map.mp member with ⟨original, originalMember, equal⟩
  rw [(Text.toLower_eq_iff (by decide)).mp equal] at originalMember
  exact absurd (plainName.whole '.' originalMember) (by decide)

/-! ## Names among separators -/

section Separators

variable {schema name left middle right : List Char}
  (leftSeparates : ∀ character ∈ left, isSeparator character = true)
  (middleSeparates : ∀ character ∈ middle, isSeparator character = true)
  (rightSeparates : ∀ character ∈ right, isSeparator character = true)

include leftSeparates rightSeparates in
theorem parts_of_name (plainName : PlainName name) :
    parts (left ++ name ++ right) = [name.map Char.toLower] := by
  have plain : ∀ character ∈ left ++ name ++ right, Plain character := by
    simp only [List.forall_mem_append]
    exact ⟨⟨plain_of_separators leftSeparates, plainName.plain⟩,
      plain_of_separators rightSeparates⟩
  rw [parts_eq, normalize_of_plain (by simp [plainName.nonempty]) plain, List.map_append,
    List.map_append, pieces_append_dots (map_plainCharacter_of_separators rightSeparates),
    pieces_dots_append (map_plainCharacter_of_separators leftSeparates),
    pieces_map_plainCharacter plainName]

include leftSeparates middleSeparates rightSeparates in
theorem parts_of_schema_and_name (plainSchema : PlainName schema) (plainName : PlainName name)
    (nonempty : middle ≠ []) :
    parts (left ++ schema ++ middle ++ name ++ right) =
      [schema.map Char.toLower, name.map Char.toLower] := by
  have plain : ∀ character ∈ left ++ schema ++ middle ++ name ++ right, Plain character := by
    simp only [List.forall_mem_append]
    exact ⟨⟨⟨⟨plain_of_separators leftSeparates, plainSchema.plain⟩,
      plain_of_separators middleSeparates⟩, plainName.plain⟩,
      plain_of_separators rightSeparates⟩
  rw [parts_eq, normalize_of_plain (by simp [plainName.nonempty]) plain]
  simp only [List.map_append]
  rw [pieces_append_dots (map_plainCharacter_of_separators rightSeparates),
    pieces_append_dots_append (map_plainCharacter_of_separators middleSeparates)
      (by simp [nonempty]),
    pieces_dots_append (map_plainCharacter_of_separators leftSeparates),
    pieces_map_plainCharacter plainSchema, pieces_map_plainCharacter plainName]
  rfl

end Separators

end Identifier

end RoleCatalog

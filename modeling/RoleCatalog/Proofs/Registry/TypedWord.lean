import RoleCatalog.Proofs.Registry.QualifiedName

/-! # The word that was typed

What stands for an identifier in a text is one word of it. Characters of this word are read
one by one, each in its context, and separators become full stops. A change that only
leads from separators to separators passes from the text to the word.
-/

namespace RoleCatalog

namespace Identifier

/-- The first word without a semicolon at its end and without quotation marks. -/
def typedWord (text : List Char) : List Char :=
  dropQuotes (dropSemicolon (firstWord text))

/-- Separators may become other separators, and nothing else changes. -/
def ChangesSeparators (change : Char → Char) : Prop :=
  ∀ character, change character = character ∨
    isSeparator character = true ∧ isSeparator (change character) = true

/-- A full stop for every separator. -/
def dotted (character : Char) : Char :=
  if isSeparator character then '.' else character

theorem changesSeparators_dotted : ChangesSeparators dotted := by
  intro character
  unfold dotted
  split
  · exact .inr ⟨‹_›, rfl⟩
  · exact .inl rfl

theorem changesSeparators_slash :
    ChangesSeparators fun character => if character = '\\' then '/' else character := by
  intro character
  dsimp only
  split
  · rename_i backslash
    exact .inr ⟨backslash ▸ rfl, rfl⟩
  · exact .inl rfl

namespace ChangesSeparators

variable {change : Char → Char} (changes : ChangesSeparators change)
include changes

/-- What does not tell separators apart does not see the change. -/
theorem apply_eq {α : Type} (view : Char → α)
    (alike : view '/' = view '.' ∧ view '\\' = view '.') (character : Char) :
    view (change character) = view character := by
  have separator {character : Char} (isSeparator : isSeparator character = true) :
      view character = view '.' := by
    rcases isSeparator_iff.mp isSeparator with rfl | rfl | rfl
    · rfl
    · exact alike.1
    · exact alike.2
  rcases changes character with same | ⟨old, new⟩
  · rw [same]
  · rw [separator old, separator new]

theorem firstWord_map (text : List Char) :
    firstWord (text.map change) = (firstWord text).map change := by
  have blankness : Text.isBlank ∘ change = Text.isBlank :=
    funext (changes.apply_eq Text.isBlank (by decide))
  have letters : (fun character => !Text.isBlank character) ∘ change =
      fun character => !Text.isBlank character := congrArg (Bool.not ∘ ·) blankness
  rw [firstWord, firstWord, Text.trimStart, Text.trimStart, List.dropWhile_map, blankness,
    List.takeWhile_map, letters]

theorem dropSemicolon_map (word : List Char) :
    dropSemicolon (word.map change) = (dropSemicolon word).map change := by
  have semicolon (character : Char) : change character = ';' ↔ character = ';' :=
    decide_eq_decide.mp
      (changes.apply_eq (fun character => decide (character = ';')) (by decide) character)
  have last : Option.map change word.getLast? = some ';' ↔ word.getLast? = some ';' := by
    cases word.getLast? <;> simp [semicolon]
  simp only [dropSemicolon, List.getLast?_map, last, apply_ite (List.map change),
    List.map_dropLast]

theorem typedWord_map (text : List Char) :
    typedWord (text.map change) = (typedWord text).map change := by
  have quotes : (fun character => !isQuote character) ∘ change =
      fun character => !isQuote character :=
    congrArg (Bool.not ∘ ·) (funext (changes.apply_eq isQuote (by decide)))
  rw [typedWord, typedWord, changes.firstWord_map, changes.dropSemicolon_map, dropQuotes,
    dropQuotes, List.filter_map, quotes]

end ChangesSeparators

theorem isSeparator_dotted (character : Char) :
    isSeparator (dotted character) = isSeparator character :=
  changesSeparators_dotted.apply_eq isSeparator (by decide) character

/-- Slashes and backslashes are read alike. -/
theorem normalize_eq_of_replace_eq {text other : List Char}
    (alike : replace '\\' '/' text = replace '\\' '/' other) :
    normalize text = normalize other := by
  have slashed (text : List Char) :
      replace '\\' '/' (typedWord text) = typedWord (replace '\\' '/' text) :=
    (changesSeparators_slash.typedWord_map text).symm
  have words := congrArg typedWord alike
  rw [← slashed, ← slashed] at words
  exact congrArg (fun word => replace '/' '.' (Text.lower word)) words

/-! ## Reading in one go -/

/-- A separator is read as a full stop, and another character as its lower case. -/
def readCharacter (preceding : List Char) (character : Char) (following : List Char) :
    List Char :=
  if isSeparator character then ['.'] else Text.lowerCharacter preceding character following

def readFrom (preceding : List Char) : List Char → List Char
  | [] => []
  | character :: rest =>
      readCharacter preceding character rest ++ readFrom (character :: preceding) rest

theorem meetsCased_replace (characters : List Char) :
    Text.meetsCased (replace '\\' '/' characters) = Text.meetsCased characters := by
  refine Text.meetsCased_map ?_ ?_ characters
  · exact changesSeparators_slash.apply_eq Text.isCased (by decide +kernel)
  · -- a full stop is ignorable, but it does not take part in this change
    intro character
    split
    · rename_i backslash
      rw [backslash]
      decide +kernel
    · rfl

/-- The two replacements around the change of letter case, at one character. -/
theorem replace_lowerCharacter (preceding : List Char) (character : Char)
    (following : List Char) :
    replace '/' '.' (Text.lowerCharacter (replace '\\' '/' preceding)
        (if character = '\\' then '/' else character) (replace '\\' '/' following)) =
      readCharacter preceding character following := by
  rw [readCharacter]
  by_cases separator : isSeparator character = true
  · rw [if_pos separator]
    rcases isSeparator_iff.mp separator with rfl | rfl | rfl <;>
      · rw [Text.lowerCharacter_of_ascii (by decide)]
        rfl
  · have distinct := mt isSeparator_iff.mpr separator
    simp only [not_or] at distinct
    have slash : '/' ∉ Text.lowerCharacter preceding character following :=
      fun member => distinct.2.1 (Text.eq_of_mem_lowerCharacter (.inr rfl) member)
    rw [if_neg separator, if_neg distinct.2.2, ← replace_of_not_mem slash '.',
      Text.lowerCharacter, Text.lowerCharacter, Text.lowerSigma, Text.lowerSigma,
      meetsCased_replace, meetsCased_replace]

theorem replace_lowerFrom (preceding word : List Char) :
    replace '/' '.' (Text.lowerFrom (replace '\\' '/' preceding) (replace '\\' '/' word)) =
      readFrom preceding word := by
  induction word generalizing preceding with
  | nil => rfl
  | cons character rest induction =>
      have step := congrArg₂ (· ++ ·) (replace_lowerCharacter preceding character rest)
        (induction (character :: preceding))
      exact List.map_append.trans step

theorem normalize_eq_readFrom (text : List Char) :
    normalize text = readFrom [] (typedWord text) :=
  replace_lowerFrom [] (typedWord text)

theorem dot_not_mem_readCharacter {character : Char} (other : isSeparator character = false)
    (preceding following : List Char) : '.' ∉ readCharacter preceding character following := by
  rw [readCharacter, if_neg (by rw [other]; decide)]
  intro member
  rw [Text.eq_of_mem_lowerCharacter (.inl rfl) member] at other
  cases other

theorem readCharacter_ne_nil (preceding : List Char) (character : Char)
    (following : List Char) : readCharacter preceding character following ≠ [] := by
  unfold readCharacter
  split
  · exact List.cons_ne_nil _ _
  · exact Text.lowerCharacter_ne_nil _ _ _

theorem readFrom_of_isSeparator {character : Char} (separator : isSeparator character = true)
    (preceding rest : List Char) :
    readFrom preceding (character :: rest) = '.' :: readFrom (character :: preceding) rest := by
  rw [readFrom, readCharacter, if_pos separator, List.singleton_append]

theorem readCharacter_eq_iff {character : Char} (other : isSeparator character = false)
    (preceding following otherPreceding otherFollowing : List Char) :
    readCharacter preceding character following =
        readCharacter otherPreceding character otherFollowing ↔
      (character = 'Σ' → Text.lowerSigma preceding following =
        Text.lowerSigma otherPreceding otherFollowing) := by
  simp only [readCharacter, other, Bool.false_eq_true, if_false, Text.lowerCharacter]
  split <;> simp [*]

theorem length_readCharacter (character : Char)
    (preceding following otherPreceding otherFollowing : List Char) :
    (readCharacter preceding character following).length =
      (readCharacter otherPreceding character otherFollowing).length := by
  simp only [readCharacter, Text.lowerCharacter]
  split
  · rfl
  · split <;> rfl

end Identifier

end RoleCatalog

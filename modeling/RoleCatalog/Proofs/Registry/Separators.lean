import RoleCatalog.Proofs.Registry.Resolution
import RoleCatalog.Proofs.Registry.TypedWord

/-! # Separators

A full stop, a slash and a backslash separate the parts of an identifier. They are not alike
to the change of letter case that comes first: the search for the letters around a sigma
looks through a full stop and stops at a slash. So a text with other separators is looked up
alike exactly when the sigmas in its last two parts keep their form.
-/

namespace RoleCatalog

namespace Identifier

/-! ## The first piece and the later ones -/

/-- The characters before the first full stop. -/
def stem (word : List Char) : List Char :=
  word.takeWhile fun character => !(character == '.')

/-- The pieces after the first full stop. -/
def laterPieces (word : List Char) : List (List Char) :=
  pieces (word.dropWhile fun character => !(character == '.'))

theorem pieces_dot (word : List Char) : pieces ('.' :: word) = pieces word :=
  pieces_append_dot [] word

theorem dot_not_mem_stem (word : List Char) : '.' ∉ stem word := by
  intro member
  have kept := List.all_eq_true.mp (List.all_takeWhile (l := word)) '.' member
  cases kept

theorem pieces_eq (word : List Char) :
    pieces word = if stem word = [] then laterPieces word else stem word :: laterPieces word := by
  have whole : stem word ++ word.dropWhile (fun character => !(character == '.')) = word :=
    List.takeWhile_append_dropWhile
  have first : pieces (stem word) = if stem word = [] then [] else [stem word] := by
    split
    · rename_i empty
      rw [empty]
      rfl
    · rename_i nonempty
      exact pieces_of_solid nonempty (dot_not_mem_stem word)
  have split : pieces word = pieces (stem word) ++ laterPieces word := by
    unfold laterPieces
    cases rest : word.dropWhile fun character => !(character == '.') with
    | nil =>
        rw [rest, List.append_nil] at whole
        rw [whole]
        exact (List.append_nil _).symm
    | cons dot later =>
        have isDot : dot = '.' := by
          have stops := List.head?_dropWhile_not (fun character => !(character == '.')) word
          rw [rest] at stops
          simpa using stops
        rw [rest, isDot] at whole
        rw [isDot, pieces_dot, ← pieces_append_dot, whole]
  rw [split, first]
  split <;> rfl

/-! ## The parts that count -/

theorem stem_append {cell : List Char} (solid : '.' ∉ cell) (rest : List Char) :
    stem (cell ++ rest) = cell ++ stem rest := by
  refine List.takeWhile_append_of_pos fun character member => ?_
  simpa using fun equal : character = '.' => solid (equal ▸ member)

theorem laterPieces_append {cell : List Char} (solid : '.' ∉ cell) (rest : List Char) :
    laterPieces (cell ++ rest) = laterPieces rest := by
  refine congrArg pieces (List.dropWhile_append_of_pos fun character member => ?_)
  simpa using fun equal : character = '.' => solid (equal ▸ member)

theorem laterPieces_dot (word : List Char) : laterPieces ('.' :: word) = pieces word :=
  pieces_dot word

/-- How many parts of a word begin after its first character. -/
def laterParts : List Char → Nat
  | first :: second :: rest =>
      laterParts (second :: rest) + if isSeparator first && !isSeparator second then 1 else 0
  | _ => 0

example : laterParts "a.b//c\\".toList = 2 := by decide

theorem laterParts_cons_of_not_isSeparator {character : Char}
    (other : isSeparator character = false) (rest : List Char) :
    laterParts (character :: rest) = laterParts rest := by
  cases rest with
  | nil => rfl
  | cons next later =>
      rw [laterParts, other, Bool.false_and, if_neg Bool.false_ne_true, Nat.add_zero]

theorem laterParts_map_dotted (word : List Char) :
    laterParts (word.map dotted) = laterParts word := by
  induction word with
  | nil => rfl
  | cons first rest induction =>
      cases rest with
      | nil => rfl
      | cons second later =>
          rw [List.map_cons] at induction
          rw [List.map_cons, List.map_cons, laterParts, laterParts, isSeparator_dotted,
            isSeparator_dotted, induction]

theorem all_head?_map_dotted (word : List Char) :
    (word.map dotted).head?.all isSeparator = word.head?.all isSeparator := by
  cases word with
  | nil => rfl
  | cons character rest => exact isSeparator_dotted character

theorem stem_readFrom_eq_nil_iff (preceding word : List Char) :
    stem (readFrom preceding word) = [] ↔ word.head?.all isSeparator = true := by
  cases word with
  | nil => exact iff_of_true rfl rfl
  | cons character rest =>
      rw [List.head?_cons, Option.all_some]
      cases separator : isSeparator character with
      | true =>
          rw [readFrom_of_isSeparator separator]
          exact iff_of_true rfl rfl
      | false =>
          rw [readFrom, stem_append (dot_not_mem_readCharacter separator _ _)]
          simp [readCharacter_ne_nil]

theorem length_laterPieces_readFrom (preceding word : List Char) :
    (laterPieces (readFrom preceding word)).length = laterParts word := by
  induction word generalizing preceding with
  | nil => rfl
  | cons character rest induction =>
      cases separator : isSeparator character with
      | false =>
          rw [readFrom, laterPieces_append (dot_not_mem_readCharacter separator _ _), induction,
            laterParts_cons_of_not_isSeparator separator]
      | true =>
          rw [readFrom_of_isSeparator separator, laterPieces_dot, pieces_eq]
          cases rest with
          | nil => rfl
          | cons next later =>
              simp only [stem_readFrom_eq_nil_iff, List.head?_cons, Option.all_some, laterParts,
                separator, Bool.true_and]
              cases isSeparator next <;> simp [induction]

section Alike

variable {word other : List Char} (alike : word.map dotted = other.map dotted)
include alike

theorem laterParts_eq_of_alike : laterParts word = laterParts other := by
  rw [← laterParts_map_dotted, alike, laterParts_map_dotted]

theorem stem_readFrom_eq_nil_iff_of_alike (preceding otherPreceding : List Char) :
    stem (readFrom preceding word) = [] ↔ stem (readFrom otherPreceding other) = [] := by
  rw [stem_readFrom_eq_nil_iff, stem_readFrom_eq_nil_iff, ← all_head?_map_dotted, alike,
    all_head?_map_dotted]

theorem length_laterPieces_eq_of_alike (preceding otherPreceding : List Char) :
    (laterPieces (readFrom preceding word)).length =
      (laterPieces (readFrom otherPreceding other)).length := by
  rw [length_laterPieces_readFrom, length_laterPieces_readFrom, laterParts_eq_of_alike alike]

theorem length_pieces_eq_of_alike (preceding otherPreceding : List Char) :
    (pieces (readFrom preceding word)).length =
      (pieces (readFrom otherPreceding other)).length := by
  rw [pieces_eq, pieces_eq, apply_ite List.length, apply_ite List.length, List.length_cons,
    List.length_cons, length_laterPieces_eq_of_alike alike preceding otherPreceding]
  simp only [stem_readFrom_eq_nil_iff_of_alike alike preceding otherPreceding]

end Alike

/-- The last two pieces, the last one first. -/
def lastPieces (word : List Char) : List (List Char) :=
  (pieces word).reverse.take 2

theorem take_reverse_cons_eq_iff {α : Type} {first second : α} {left right : List α}
    (same : left.length = right.length) :
    (first :: left).reverse.take 2 = (second :: right).reverse.take 2 ↔
      (left.length < 2 → first = second) ∧ left.reverse.take 2 = right.reverse.take 2 := by
  have lengths : (left.reverse.take 2).length = (right.reverse.take 2).length := by simp [same]
  have added : [first].take (2 - left.length) = [second].take (2 - left.length) ↔
      (left.length < 2 → first = second) := by
    rcases Nat.lt_or_ge left.length 2 with few | many
    · rw [List.take_of_length_le (by simp; omega), List.take_of_length_le (by simp; omega)]
      simp [few]
    · rw [Nat.sub_eq_zero_of_le many]
      exact iff_of_true rfl fun few => absurd few (Nat.not_lt.mpr many)
  rw [List.reverse_cons, List.reverse_cons, List.take_append, List.take_append,
    List.length_reverse, List.length_reverse, ← same, ← added, and_comm]
  exact ⟨fun equal => List.append_inj equal lengths, fun ⟨last, head⟩ => last ▸ head ▸ rfl⟩

/-- Every sigma in the last two parts of the first word has the same form in the second. What
precedes each word comes with the nearest character first. -/
def SameSigmas (preceding otherPreceding : List Char) : List Char → List Char → Prop
  | character :: rest, other :: otherRest =>
      (character = 'Σ' → laterParts rest < 2 →
        Text.lowerSigma preceding rest = Text.lowerSigma otherPreceding otherRest) ∧
      SameSigmas (character :: preceding) (other :: otherPreceding) rest otherRest
  | _, _ => True

instance decidableSameSigmas : ∀ preceding otherPreceding word other : List Char,
    Decidable (SameSigmas preceding otherPreceding word other)
  | preceding, otherPreceding, character :: rest, other :: otherRest =>
      letI := decidableSameSigmas (character :: preceding) (other :: otherPreceding) rest otherRest
      inferInstanceAs (Decidable (_ ∧ _))
  | _, _, [], _ => .isTrue trivial
  | _, _, _ :: _, [] => .isTrue trivial

/-- A cell counts as long as fewer than two pieces begin after it. -/
theorem lastPieces_append_eq_iff {cell otherCell rest otherRest : List Char}
    (solid : '.' ∉ cell) (otherSolid : '.' ∉ otherCell) (nonempty : cell ≠ [])
    (lengths : cell.length = otherCell.length) (stems : stem rest = [] ↔ stem otherRest = [])
    (later : (laterPieces rest).length = (laterPieces otherRest).length) :
    lastPieces (cell ++ rest) = lastPieces (otherCell ++ otherRest) ↔
      ((laterPieces rest).length < 2 → cell = otherCell) ∧
        lastPieces rest = lastPieces otherRest := by
  have split {cell : List Char} (solid : '.' ∉ cell) (nonempty : cell ≠ []) (rest : List Char) :
      pieces (cell ++ rest) = (cell ++ stem rest) :: laterPieces rest := by
    rw [pieces_eq, stem_append solid, laterPieces_append solid,
      if_neg (List.append_ne_nil_of_left_ne_nil nonempty _)]
  have otherNonempty : otherCell ≠ [] := by
    rwa [← List.length_pos_iff, ← lengths, List.length_pos_iff]
  rw [lastPieces, lastPieces, split solid nonempty, split otherSolid otherNonempty,
    take_reverse_cons_eq_iff later, lastPieces, lastPieces, pieces_eq rest, pieces_eq otherRest]
  by_cases empty : stem rest = []
  · rw [if_pos empty, if_pos (stems.mp empty), empty, stems.mp empty, List.append_nil,
      List.append_nil]
  · rw [if_neg empty, if_neg (mt stems.mpr empty), take_reverse_cons_eq_iff later, ← and_assoc]
    refine and_congr_left' ⟨fun equal => ⟨fun few => ?_, fun few => ?_⟩, fun equal few => ?_⟩
    · exact (List.append_inj (equal few) lengths).1
    · exact (List.append_inj (equal few) lengths).2
    · rw [equal.1 few, equal.2 few]

/-- The induction is on the words. A separator adds no piece, and any other character is a
cell before what is read later. -/
theorem lastPieces_readFrom_eq_iff {word other : List Char}
    (alike : word.map dotted = other.map dotted) (preceding otherPreceding : List Char) :
    lastPieces (readFrom preceding word) = lastPieces (readFrom otherPreceding other) ↔
      SameSigmas preceding otherPreceding word other := by
  induction word generalizing other preceding otherPreceding with
  | nil =>
      rw [List.map_nil, eq_comm, List.map_eq_nil_iff] at alike
      rw [alike]
      exact iff_of_true rfl trivial
  | cons character rest induction =>
      cases other with
      | nil => cases alike
      | cons otherCharacter otherRest =>
          rcases List.cons.inj alike with ⟨same, alikeRest⟩
          have sameSeparator : isSeparator character = isSeparator otherCharacter := by
            rw [← isSeparator_dotted, same, isSeparator_dotted]
          have later := induction alikeRest (character :: preceding)
            (otherCharacter :: otherPreceding)
          refine Iff.trans ?_ (and_congr_right' later)
          cases separator : isSeparator character with
          | true =>
              have notSigma : character ≠ 'Σ' := by
                rintro rfl
                cases separator
              rw [readFrom_of_isSeparator separator,
                readFrom_of_isSeparator (sameSeparator.symm.trans separator), lastPieces,
                lastPieces, pieces_dot, pieces_dot]
              exact (and_iff_right fun sigma => absurd sigma notSigma).symm
          | false =>
              have sameCharacter : character = otherCharacter := by
                unfold dotted at same
                rwa [← sameSeparator, separator] at same
              rw [← sameCharacter, readFrom, readFrom, lastPieces_append_eq_iff
                (dot_not_mem_readCharacter separator preceding rest)
                (dot_not_mem_readCharacter separator otherPreceding otherRest)
                (readCharacter_ne_nil preceding character rest)
                (length_readCharacter character preceding rest otherPreceding otherRest),
                length_laterPieces_readFrom, readCharacter_eq_iff separator]
              · exact and_congr_left' imp.swap
              · exact stem_readFrom_eq_nil_iff_of_alike alikeRest _ _
              · exact length_laterPieces_eq_of_alike alikeRest _ _

/-! ## Identifiers -/

/-- Identifiers from equally many parts have the last two of them in common. -/
theorem ofReversedParts_eq_iff {left right : List (List Char)}
    (same : left.length = right.length) :
    (ofReversedParts left).schema = (ofReversedParts right).schema ∧
        (ofReversedParts left).name = (ofReversedParts right).name ↔
      left.take 2 = right.take 2 := by
  match left, right, same with
  | [], [], _ => simp
  | [_], [_], _ => simp [ofReversedParts, schema, String.ofList_inj]
  | _ :: _ :: _, _ :: _ :: _, _ => simp [ofReversedParts, schema, String.ofList_inj, and_comm]

/-- The texts are the same but for their separators. -/
def SameButSeparators (text other : String) : Prop :=
  text.toList.map dotted = other.toList.map dotted

instance (text other : String) : Decidable (SameButSeparators text other) :=
  inferInstanceAs (Decidable (_ = _))

/-- The sigmas in the words that were typed. -/
def SigmasAgree (text other : String) : Prop :=
  SameSigmas [] [] (typedWord text.toList) (typedWord other.toList)

instance (text other : String) : Decidable (SigmasAgree text other) :=
  decidableSameSigmas _ _ _ _

theorem SameButSeparators.typedWord {text other : String} (alike : SameButSeparators text other) :
    (typedWord text.toList).map dotted = (Identifier.typedWord other.toList).map dotted := by
  rw [← changesSeparators_dotted.typedWord_map, alike, changesSeparators_dotted.typedWord_map]

/-- Texts with other separators are read alike exactly when their sigmas are. -/
theorem ofText_alike_iff {text other : String} (alike : SameButSeparators text other) :
    (ofText text).schema = (ofText other).schema ∧ (ofText text).name = (ofText other).name ↔
      SigmasAgree text other := by
  have words := alike.typedWord
  have count := length_pieces_eq_of_alike words [] []
  rw [ofText, ofText, parts_eq, parts_eq, normalize_eq_readFrom, normalize_eq_readFrom,
    ofReversedParts_eq_iff (by rw [List.length_reverse, List.length_reverse, count])]
  exact lastPieces_readFrom_eq_iff words [] []

theorem sameSigmas_of_not_mem {word : List Char} (absent : 'Σ' ∉ word)
    (preceding otherPreceding other : List Char) :
    SameSigmas preceding otherPreceding word other := by
  induction word generalizing preceding otherPreceding other with
  | nil => trivial
  | cons character rest induction =>
      rw [List.mem_cons, not_or] at absent
      cases other with
      | nil => trivial
      | cons otherCharacter otherRest =>
          exact ⟨fun sigma => absurd sigma.symm absent.1, induction absent.2 _ _ otherRest⟩

theorem typedWord_sublist (text : List Char) : (typedWord text).Sublist text := by
  have word : (firstWord text).Sublist text :=
    (List.takeWhile_sublist _).trans (List.dropWhile_sublist _)
  have shorter : (dropSemicolon (firstWord text)).Sublist (firstWord text) := by
    unfold dropSemicolon
    split
    · exact List.dropLast_sublist _
    · exact List.Sublist.refl _
  exact List.filter_sublist.trans (shorter.trans word)

theorem sigmasAgree_of_not_mem {text : String} (absent : 'Σ' ∉ text.toList) (other : String) :
    SigmasAgree text other :=
  sameSigmas_of_not_mem (fun member => absent ((typedWord_sublist _).subset member)) [] [] _

end Identifier

namespace Registry

open Identifier

/-- Texts that differ in their separators are looked up alike in all states that can be
reached exactly when the sigmas in the last two parts have the same forms in both. So are
texts without a sigma, and texts that differ in slashes and backslashes only, by any
registry. -/
theorem lookup_separators_iff_sigmasAgree (text other : String)
    (alike : SameButSeparators text other) :
    ((∀ steps : List Step, ((fresh.run steps).1.step (.lookup text)).2 =
      ((fresh.run steps).1.step (.lookup other)).2) ↔ SigmasAgree text other) ∧
    ('Σ' ∉ text.toList → ∀ registry : Registry,
      (registry.step (.lookup text)).2 = (registry.step (.lookup other)).2) ∧
    (replace '\\' '/' text.toList = replace '\\' '/' other.toList → ∀ registry : Registry,
      (registry.step (.lookup text)).2 = (registry.step (.lookup other)).2) := by
  refine ⟨(lookups_agree_iff text other).trans (ofText_alike_iff alike), ?_, ?_⟩
  · intro absent registry
    have same := (ofText_alike_iff alike).mpr (sigmasAgree_of_not_mem absent other)
    exact congrArg Answer.table (registry.ensureDefaults.lookup?_eq_of_alike same.1 same.2)
  · intro slashes registry
    have same : ofText text = ofText other := by
      rw [ofText, ofText, parts, parts, normalize_eq_of_replace_eq slashes]
    exact congrArg (fun identifier => Answer.table (registry.ensureDefaults.resolve? identifier))
      same

/-- A sigma at the beginning of a word is never final. A name of ASCII has none, and slashes
stop the search for letters as backslashes do. -/
theorem lookup_separators_of_initial_sigma :
    (SameButSeparators "ΣΑ.Β" "ΣΑ/Β" ∧
      ∀ steps : List Step, ((fresh.run steps).1.step (.lookup "ΣΑ.Β")).2 =
        ((fresh.run steps).1.step (.lookup "ΣΑ/Β")).2) ∧
    (SameButSeparators "PG_Catalog.pg_roles" "PG_Catalog/pg_roles" ∧
      (fresh.step (.lookup "PG_Catalog.pg_roles")).2 =
        (fresh.step (.lookup "PG_Catalog/pg_roles")).2) ∧
    SameButSeparators "ΑΣ\\Α" "ΑΣ/Α" ∧
      (fresh.step (.lookup "ΑΣ\\Α")).2 = (fresh.step (.lookup "ΑΣ/Α")).2 := by
  have initial := lookup_separators_iff_sigmasAgree "ΣΑ.Β" "ΣΑ/Β" (by decide)
  have ascii := lookup_separators_iff_sigmasAgree "PG_Catalog.pg_roles" "PG_Catalog/pg_roles"
    (by decide)
  have slashes := lookup_separators_iff_sigmasAgree "ΑΣ\\Α" "ΑΣ/Α" (by decide)
  exact ⟨⟨by decide, initial.1.mpr (by decide +kernel)⟩,
    ⟨by decide, ascii.2.1 (by decide) fresh⟩, by decide, slashes.2.2 (by decide) fresh⟩

/-- A full stop lets a sigma see the letter of the next part, and a slash does not. -/
theorem not_lookup_eq_of_sameButSeparators :
    ¬ ∀ (steps : List Step) (text other : String), SameButSeparators text other →
      ((fresh.run steps).1.step (.lookup text)).2 =
        ((fresh.run steps).1.step (.lookup other)).2 := by
  intro law
  have same := law [.register (.ofColumns "ασ" "α" [])] "ΑΣ.Α" "ΑΣ/Α" (by decide)
  have looksThrough : ofText "ΑΣ.Α" = ⟨some "ασ", "α"⟩ := by decide +kernel
  have stops : ofText "ΑΣ/Α" = ⟨some "ας", "α"⟩ := by decide +kernel
  have answers := Answer.table.inj same
  rw [lookup?, lookup?, looksThrough, stops] at answers
  have found : ((fresh.run [.register (.ofColumns "ασ" "α" [])]).1.after
      (.lookup "ΑΣ.Α")).resolve? ⟨some "ασ", "α"⟩ = some (.ofColumns "ασ" "α" []) := rfl
  have missed : ((fresh.run [.register (.ofColumns "ασ" "α" [])]).1.after
      (.lookup "ΑΣ/Α")).resolve? ⟨some "ας", "α"⟩ = none := rfl
  exact Option.some_ne_none _ (found.symm.trans (answers.trans missed))

end Registry

end RoleCatalog

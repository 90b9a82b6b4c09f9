import RoleCatalog.Proofs.Text.Word
import RoleCatalog.Text.LowerCase

/-! # Lower case and ASCII letters

Lower case does not depend on the ASCII case of the letters in a text: an ASCII letter
and its other form are cased alike, so a sigma beside them takes the same form. On a
text of ASCII characters it is the lower case of every single letter.
-/

namespace RoleCatalog.Text

theorem toLower_of_not_isUpper {character : Char} (other : character.isUpper = false) :
    character.toLower = character :=
  dif_neg (of_decide_eq_false other)

theorem exists_code_of_isUpper {character : Char} (upper : character.isUpper = true) :
    ∃ code ∈ List.range' 65 26, character = Char.ofNat code := by
  have bounds : 65 ≤ character.toNat ∧ character.toNat ≤ 90 := of_decide_eq_true upper
  refine ⟨character.toNat, List.mem_range'_1.mpr (by omega), ?_⟩
  exact (Char.ofNat_toNat character).symm

/-- What does not tell apart the two forms of the ASCII letters does not see ASCII case. -/
theorem apply_toLower {α : Type} (view : Char → α)
    (letters : ∀ code ∈ List.range' 65 26,
      view (Char.ofNat code).toLower = view (Char.ofNat code)) (character : Char) :
    view character.toLower = view character := by
  cases upper : character.isUpper with
  | false => rw [toLower_of_not_isUpper upper]
  | true =>
      rcases exists_code_of_isUpper upper with ⟨code, member, rfl⟩
      exact letters code member

theorem toLower_toLower (character : Char) : character.toLower.toLower = character.toLower :=
  apply_toLower Char.toLower (by decide) character

theorem isBlank_toLower (character : Char) : isBlank character.toLower = isBlank character :=
  apply_toLower isBlank (by decide) character

theorem isCased_toLower (character : Char) : isCased character.toLower = isCased character :=
  apply_toLower isCased (by decide +kernel) character

/-- No range of ignorable characters reaches into the letters of ASCII. -/
theorem isCaseIgnorable_of_letter {character : Char}
    (letter : 65 ≤ character.toNat ∧ character.toNat ≤ 90 ∨
      97 ≤ character.toNat ∧ character.toNat ≤ 122) : isCaseIgnorable character = false := by
  have apart : ∀ range ∈ caseIgnorableRanges, range.last < 65 ∨
      90 < range.first ∧ range.last < 97 ∨ 122 < range.first := by decide +kernel
  rw [← Bool.not_eq_true, isCaseIgnorable, inRanges_eq_true]
  rintro ⟨range, member, first, last⟩
  have bounds := apart range member
  omega

theorem isCaseIgnorable_toLower (character : Char) :
    isCaseIgnorable character.toLower = isCaseIgnorable character := by
  have letters : ∀ code ∈ List.range' 65 26,
      (65 ≤ (Char.ofNat code).toNat ∧ (Char.ofNat code).toNat ≤ 90) ∧
        97 ≤ (Char.ofNat code).toLower.toNat ∧ (Char.ofNat code).toLower.toNat ≤ 122 := by
    decide
  apply apply_toLower
  intro code member
  rw [isCaseIgnorable_of_letter (.inl (letters code member).1),
    isCaseIgnorable_of_letter (.inr (letters code member).2)]

theorem lowerLetter_toLower (character : Char) :
    lowerLetter character.toLower = lowerLetter character :=
  apply_toLower lowerLetter (by decide +kernel) character

theorem toLower_eq_iff {character other : Char}
    (letters : ∀ code ∈ List.range' 65 26,
      Char.ofNat code ≠ other ∧ (Char.ofNat code).toLower ≠ other) :
    character.toLower = other ↔ character = other := by
  have same := apply_toLower (fun character => decide (character = other)) (fun code member => by
    rw [decide_eq_false (letters code member).1, decide_eq_false (letters code member).2])
    character
  exact decide_eq_decide.mp same

/-! ## Lower case of a text -/

theorem meetsCased_map {change : Char → Char}
    (cased : ∀ character, isCased (change character) = isCased character)
    (ignorable : ∀ character, isCaseIgnorable (change character) = isCaseIgnorable character)
    (characters : List Char) : meetsCased (characters.map change) = meetsCased characters := by
  unfold meetsCased
  rw [List.dropWhile_map, show isCaseIgnorable ∘ change = isCaseIgnorable from funext ignorable]
  cases characters.dropWhile isCaseIgnorable with
  | nil => rfl
  | cons character rest => exact cased character

theorem lowerCharacter_toLower (preceding : List Char) (character : Char)
    (following : List Char) :
    lowerCharacter (preceding.map Char.toLower) character.toLower
        (following.map Char.toLower) = lowerCharacter preceding character following := by
  have sigma : character.toLower = 'Σ' ↔ character = 'Σ' := toLower_eq_iff (by decide)
  have dotted : character.toLower = '\u0130' ↔ character = '\u0130' :=
    toLower_eq_iff (by decide)
  simp only [lowerCharacter, lowerSigma, meetsCased_map isCased_toLower isCaseIgnorable_toLower,
    lowerLetter_toLower, sigma, dotted]

theorem lowerFrom_map_toLower (preceding text : List Char) :
    lowerFrom (preceding.map Char.toLower) (text.map Char.toLower) =
      lowerFrom preceding text := by
  -- over all preceding texts, since a sigma looks back as well as ahead
  induction text generalizing preceding with
  | nil => rfl
  | cons character rest induction =>
      rw [List.map_cons, lowerFrom, lowerFrom, lowerCharacter_toLower]
      exact congrArg _ (induction (character :: preceding))

theorem lower_map_toLower (text : List Char) : lower (text.map Char.toLower) = lower text :=
  lowerFrom_map_toLower [] text

/-! ## ASCII texts -/

def IsAscii (text : List Char) : Prop :=
  ∀ character ∈ text, character.toNat < 128

theorem lowerLetter_of_ascii {character : Char} (ascii : character.toNat < 128) :
    lowerLetter character = character.toLower := by
  have each : ∀ code ∈ List.range 128,
      lowerLetter (Char.ofNat code) = (Char.ofNat code).toLower := by decide +kernel
  rw [← Char.ofNat_toNat character]
  exact each character.toNat (List.mem_range.mpr ascii)

theorem lowerCharacter_of_ascii {character : Char} (ascii : character.toNat < 128)
    (preceding following : List Char) :
    lowerCharacter preceding character following = [character.toLower] := by
  have notSigma : character ≠ 'Σ' := by
    rintro rfl
    exact absurd ascii (by decide)
  have notDotted : character ≠ '\u0130' := by
    rintro rfl
    exact absurd ascii (by decide)
  rw [lowerCharacter, if_neg notSigma, if_neg notDotted, lowerLetter_of_ascii ascii]

theorem lowerFrom_of_ascii {text : List Char} (ascii : IsAscii text) (preceding : List Char) :
    lowerFrom preceding text = text.map Char.toLower := by
  induction text generalizing preceding with
  | nil => rfl
  | cons character rest induction =>
      have parts := List.forall_mem_cons.mp ascii
      rw [lowerFrom, lowerCharacter_of_ascii parts.1, induction parts.2]
      rfl

theorem lower_of_ascii {text : List Char} (ascii : IsAscii text) :
    lower text = text.map Char.toLower :=
  lowerFrom_of_ascii ascii []

end RoleCatalog.Text

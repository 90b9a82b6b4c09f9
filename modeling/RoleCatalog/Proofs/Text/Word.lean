import RoleCatalog.Text.AsciiCase
import RoleCatalog.Text.Blank

/-! Texts without a blank, and texts that are one word. -/

namespace RoleCatalog.Text

def Unbroken (text : List Char) : Prop :=
  ∀ character ∈ text, isBlank character = false

instance (text : List Char) : Decidable (Unbroken text) :=
  List.decidableBAll _ text

structure IsWord (text : List Char) : Prop where
  nonempty : text ≠ []
  unbroken : Unbroken text

instance (text : List Char) : Decidable (IsWord text) :=
  decidable_of_iff (text ≠ [] ∧ Unbroken text)
    ⟨fun ⟨nonempty, unbroken⟩ => ⟨nonempty, unbroken⟩,
      fun word => ⟨word.nonempty, word.unbroken⟩⟩

theorem unbroken_append {left right : List Char} :
    Unbroken (left ++ right) ↔ Unbroken left ∧ Unbroken right :=
  List.forall_mem_append

theorem IsWord.append_left {left : List Char} (word : IsWord left) {right : List Char}
    (unbroken : Unbroken right) : IsWord (left ++ right) where
  nonempty := by simp [word.nonempty]
  unbroken := unbroken_append.mpr ⟨word.unbroken, unbroken⟩

theorem Unbroken.newline_not_mem {text : List Char} (unbroken : Unbroken text) :
    '\n' ∉ text := fun member =>
  absurd (unbroken '\n' member) (by decide)

theorem words_of_isWord {word : List Char} (isWord : IsWord word) : words word = [word] :=
  words_of_nonblank isWord.nonempty isWord.unbroken

theorem words_isWord_append {word : List Char} (isWord : IsWord word) {blank : Char}
    (blankness : isBlank blank = true) (rest : List Char) :
    words (word ++ blank :: rest) = word :: words rest := by
  rw [words_append_blank blankness, words_of_isWord isWord]
  rfl

theorem exists_words_eq_of_nonblank {first : Char} (nonblank : isBlank first = false)
    (rest : List Char) : ∃ word others, words (first :: rest) = (first :: word) :: others := by
  rw [words, List.splitOnP_cons_eq_if_modifyHead]
  cases pieces : rest.splitOnP isBlank with
  | nil => exact absurd pieces (List.splitOnP_ne_nil isBlank rest)
  | cons word others =>
      refine ⟨word, others.filter fun later => !later.isEmpty, ?_⟩
      simp [nonblank]

/-- The visible characters of ASCII are not blank. -/
theorem isBlank_eq_false_of_visible {character : Char} (lower : 0x21 ≤ character.toNat)
    (upper : character.toNat ≤ 0x7E) : isBlank character = false := by
  rw [← Bool.not_eq_true, isBlank, inRanges_eq_true]
  rintro ⟨range, member, first, last⟩
  simp only [blankRanges, List.mem_cons, List.not_mem_nil, or_false] at member
  rcases member with rfl | rfl | rfl | rfl | rfl | rfl | rfl | rfl | rfl | rfl <;>
    simp only at first last <;> omega

theorem isBlank_eq_false_of_isDigit {character : Char} (digit : character.isDigit = true) :
    isBlank character = false := by
  rcases Char.isDigit_iff_toNat.mp digit with ⟨lower, upper⟩
  exact isBlank_eq_false_of_visible (Nat.le_trans (by decide) lower)
    (Nat.le_trans upper (by decide))

theorem isBlank_toUpper {character : Char} (nonblank : isBlank character = false) :
    isBlank character.toUpper = false := by
  unfold Char.toUpper
  split
  · rename_i letter
    have lower : 97 ≤ character.val.toNat := UInt32.le_iff_toNat_le.mp letter.1
    have upper : character.val.toNat ≤ 122 := UInt32.le_iff_toNat_le.mp letter.2
    have offset : ('A'.val - 'a'.val).toNat = 4294967264 := rfl
    have code : (character.val + ('A'.val - 'a'.val)).toNat = character.val.toNat - 32 := by
      rw [UInt32.toNat_add]
      omega
    apply isBlank_eq_false_of_visible
    · change 0x21 ≤ (character.val + ('A'.val - 'a'.val)).toNat
      omega
    · change (character.val + ('A'.val - 'a'.val)).toNat ≤ 0x7E
      omega
  · exact nonblank

theorem eq_newline_of_toUpper {character : Char} (equal : character.toUpper = '\n') :
    character = '\n' := by
  cases blank : isBlank character with
  | false =>
      have nonblank := isBlank_toUpper blank
      rw [equal] at nonblank
      exact absurd nonblank (by decide)
  | true =>
      unfold Char.toUpper at equal
      split at equal
      · rename_i letter
        have lower : 97 ≤ character.toNat := UInt32.le_iff_toNat_le.mp letter.1
        have upper : character.toNat ≤ 122 := UInt32.le_iff_toNat_le.mp letter.2
        have nonblank := isBlank_eq_false_of_visible (Nat.le_trans (by decide) lower)
          (Nat.le_trans upper (by decide))
        exact absurd (blank.symm.trans nonblank) (by decide)
      · exact equal

theorem newline_not_mem_asciiUpper {text : String} (newline : '\n' ∉ text.toList) :
    '\n' ∉ (asciiUpper text).toList := by
  rw [asciiUpper, String.toList_ofList]
  intro member
  rcases List.mem_map.mp member with ⟨original, originalMember, equal⟩
  exact newline (eq_newline_of_toUpper equal ▸ originalMember)

theorem unbroken_asciiUpper {text : String} (unbroken : Unbroken text.toList) :
    Unbroken (asciiUpper text).toList := by
  rw [asciiUpper, String.toList_ofList]
  intro character member
  rcases List.mem_map.mp member with ⟨original, originalMember, rfl⟩
  exact isBlank_toUpper (unbroken original originalMember)

end RoleCatalog.Text

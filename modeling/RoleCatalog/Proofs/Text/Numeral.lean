import RoleCatalog.Proofs.Text.Word
import RoleCatalog.Text.Numeral
import Mathlib.Data.Nat.Digits.Defs

/-! Integers are written as one word each, which reads back as the integer if that fits
into 64 bits and does not read otherwise. Besides what is written so, a numeral can have
a plus sign and zeros in front. -/

namespace RoleCatalog.Text

theorem readSigned_of_digits {digits : List Char}
    (isDigits : ∀ character ∈ digits, character.isDigit = true) :
    readSigned digits = (readNatural digits).map fun value => (value : Int) := by
  unfold readSigned
  split
  · exact absurd (isDigits '-' List.mem_cons_self) (by decide)
  · exact absurd (isDigits '+' List.mem_cons_self) (by decide)
  · rfl

theorem isDigit_of_mem_toDigits {value : Nat} {character : Char}
    (member : character ∈ Nat.toDigits 10 value) : character.isDigit = true :=
  Nat.isDigit_of_mem_toDigits (by decide) (by decide) member

theorem toList_toString_ofNat (value : Nat) :
    (toString (value : Int)).toList = Nat.toDigits 10 value :=
  Nat.toList_repr

theorem toList_toString_negSucc (value : Nat) :
    (toString (Int.negSucc value)).toList = '-' :: Nat.toDigits 10 (value + 1) := by
  rw [Int.toString_eq_repr, Int.repr, String.toList_append, Nat.toList_repr]
  rfl

theorem readSigned_toString (value : Int) : readSigned (toString value).toList = some value := by
  cases value with
  | ofNat value =>
      rw [Int.ofNat_eq_natCast, toList_toString_ofNat,
        readSigned_of_digits fun _ => isDigit_of_mem_toDigits, readNatural_toDigits]
      rfl
  | negSucc value =>
      rw [toList_toString_negSucc, readSigned, readNatural_toDigits]
      rfl

theorem toString_int_injective {value other : Int} (equal : toString value = toString other) :
    value = other := by
  have read := readSigned_toString value
  rw [equal, readSigned_toString] at read
  exact (Option.some.inj read).symm

theorem readInt64_toString (value : Int) :
    readInt64 (toString value).toList = if FitsInt64 value then some value else none := by
  rw [readInt64, readSigned_toString, Option.filter_some]
  simp only [decide_eq_true_eq]

theorem isWord_toString (value : Int) : IsWord (toString value).toList := by
  have digits (number : Nat) : IsWord (Nat.toDigits 10 number) :=
    ⟨Nat.toDigits_ne_nil, fun character member =>
      isBlank_eq_false_of_isDigit (isDigit_of_mem_toDigits member)⟩
  cases value with
  | ofNat value =>
      rw [Int.ofNat_eq_natCast, toList_toString_ofNat]
      exact digits value
  | negSucc value =>
      rw [toList_toString_negSucc]
      have sign : IsWord ['-'] := ⟨by decide, by decide⟩
      exact sign.append_left (digits _).unbroken

/-! ## The numerals that can be read -/

structure IsDigits (digits : List Char) : Prop where
  nonempty : digits ≠ []
  all : ∀ digit ∈ digits, digit.isDigit = true

/-- The number that digits give by their places, where the last digit counts ones. -/
def placeValue (digits : List Char) : Nat :=
  Nat.ofDigits 10 (digits.reverse.map fun digit => digit.toNat - '0'.toNat)

/-- At most one sign and then digits, as many as are wanted. -/
inductive Numeral : List Char → Int → Prop
  | unsigned {digits : List Char} (isDigits : IsDigits digits) :
      Numeral digits (placeValue digits)
  | plus {digits : List Char} (isDigits : IsDigits digits) :
      Numeral ('+' :: digits) (placeValue digits)
  | minus {digits : List Char} (isDigits : IsDigits digits) :
      Numeral ('-' :: digits) (-(placeValue digits : Int))

theorem ofDigitChars_eq_placeValue (digits : List Char) :
    Nat.ofDigitChars 10 digits 0 = placeValue digits := by
  rw [Nat.ofDigitChars, List.foldl_eq_foldr_reverse, placeValue, Nat.ofDigits_eq_foldr,
    List.foldr_map]
  congr 1
  funext digit higher
  exact Nat.add_comm _ _

theorem readNatural_eq_some_iff {digits : List Char} {value : Nat} :
    readNatural digits = some value ↔ IsDigits digits ∧ value = placeValue digits := by
  have all : digits.all Char.isDigit = true ↔ ∀ digit ∈ digits, digit.isDigit = true :=
    List.all_eq_true
  rw [readNatural, ofDigitChars_eq_placeValue]
  constructor
  · intro read
    split_ifs at read with empty isDigits
    exact ⟨⟨fun equal => empty (List.isEmpty_iff.mpr equal), all.mp isDigits⟩,
      (Option.some.inj read).symm⟩
  · rintro ⟨isDigits, rfl⟩
    rw [if_neg (fun empty => isDigits.nonempty (List.isEmpty_iff.mp empty)),
      if_pos (all.mpr isDigits.all)]

theorem readSigned_eq_some_iff {text : List Char} {value : Int} :
    readSigned text = some value ↔ Numeral text value := by
  constructor
  · intro read
    unfold readSigned at read
    split at read
    all_goals
      rcases Option.map_eq_some_iff.mp read with ⟨_, natural, rfl⟩
      rcases Option.bind_eq_some_iff.mp natural with ⟨magnitude, digits, equal⟩
      rcases readNatural_eq_some_iff.mp digits with ⟨isDigits, rfl⟩
      rw [← Option.some.inj equal]
    · exact .minus isDigits
    · exact .plus isDigits
    · exact .unsigned isDigits
  · have read {digits : List Char} (isDigits : IsDigits digits) :
        readNatural digits = some (placeValue digits) :=
      readNatural_eq_some_iff.mpr ⟨isDigits, rfl⟩
    rintro (isDigits | isDigits | isDigits)
    · rw [readSigned_of_digits isDigits.all, read isDigits]
      rfl
    · rw [readSigned, read isDigits]
      rfl
    · rw [readSigned, read isDigits]
      rfl

theorem readInt64_eq_some_iff {text : List Char} {value : Int} :
    readInt64 text = some value ↔ Numeral text value ∧ FitsInt64 value := by
  rw [readInt64, Option.filter_eq_some_iff, readSigned_eq_some_iff, decide_eq_true_eq]

end RoleCatalog.Text

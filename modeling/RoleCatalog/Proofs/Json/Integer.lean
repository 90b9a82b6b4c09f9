import RoleCatalog.Json.NumberText
import RoleCatalog.Proofs.Json.Spelling
import Mathlib.Data.List.TakeWhile

/-! # Integers in JSON text

An integer is written as its digits, with a minus in front if it is negative. Up to 64 bits
it is read as itself: the digits have no needless zero in front, and the number is far
below the largest double.
-/

namespace RoleCatalog.Json

/-! ## Digits of a natural number -/

theorem exists_toDigits_eq {value : Nat} (positive : 0 < value) :
    ∃ first rest, Nat.toDigits 10 value = first :: rest ∧ first ≠ '0' := by
  induction value using Nat.strongRecOn with
  | ind value induction =>
      by_cases small : value < 10
      · have nonzero : ∀ digit < 10, 0 < digit → Nat.digitChar digit ≠ '0' := by decide
        exact ⟨_, [], Nat.toDigits_of_lt_base small, nonzero value small positive⟩
      · rcases induction (value / 10) (by omega) (by omega) with ⟨first, rest, digits, nonzero⟩
        have last := Nat.toDigits_append_toDigits (b := 10) (n := value / 10) (d := value % 10)
          (by decide) (by omega) (by omega)
        rw [Nat.div_add_mod, digits] at last
        exact ⟨first, _, last.symm, nonzero⟩

theorem isWhole_toDigits (value : Nat) : isWhole (Nat.toDigits 10 value) = true := by
  rcases Nat.eq_zero_or_pos value with zero | positive
  · rw [zero]
    rfl
  · rcases exists_toDigits_eq positive with ⟨first, rest, digits, nonzero⟩
    rw [digits]
    unfold isWhole
    split
    · contradiction
    · rfl
    · rename_i same
      cases same
      exact bne_iff_ne.mpr nonzero

theorem takeWhile_isDigit_toDigits (value : Nat) :
    (Nat.toDigits 10 value).takeWhile Char.isDigit = Nat.toDigits 10 value :=
  List.takeWhile_eq_self_iff.mpr fun _ member => Text.isDigit_of_mem_toDigits member

theorem dropWhile_isDigit_toDigits (value : Nat) :
    (Nat.toDigits 10 value).dropWhile Char.isDigit = [] :=
  List.dropWhile_eq_nil_iff.mpr fun _ member => Text.isDigit_of_mem_toDigits member

theorem ofUnsigned?_toDigits (negative : Bool) (value : Nat) :
    NumberText.ofUnsigned? negative (Nat.toDigits 10 value) =
      some ⟨negative, Nat.toDigits 10 value, [], 0⟩ := by
  simp only [NumberText.ofUnsigned?, takeWhile_isDigit_toDigits, dropWhile_isDigit_toDigits,
    isWhole_toDigits, Bool.not_true, Bool.false_eq_true, if_false]
  rfl

/-! ## The size of a number -/

theorem le_ofDigitChars (value : Nat) (digits : List Char) :
    value ≤ Nat.ofDigitChars 10 digits value := by
  induction digits generalizing value with
  | nil => exact Nat.le_refl value
  | cons digit rest induction =>
      have later := induction (10 * value + (digit.toNat - '0'.toNat))
      rw [Nat.ofDigitChars_cons]
      omega

/-- All digits of a number that fits are read. -/
theorem readLeading_eq {value : Nat} {digits : List Char}
    (fits : Nat.ofDigitChars 10 digits value < 0x10000000000000000) :
    readLeading value digits = (Nat.ofDigitChars 10 digits value, 0) := by
  induction digits generalizing value with
  | nil => rfl
  | cons digit rest induction =>
      rw [Nat.ofDigitChars_cons] at fits ⊢
      have longer := le_ofDigitChars (10 * value + (digit.toNat - '0'.toNat)) rest
      rw [readLeading, if_pos (Nat.lt_of_le_of_lt longer fits), induction fits]

/-- A number of two binary places or more is at least the unit it is rounded to. -/
theorem unit_le (value : Nat) : 1 <<< (value.log2 + 1 - 53) ≤ value + 1 := by
  rw [Nat.one_shiftLeft]
  rcases Nat.eq_zero_or_pos value with zero | positive
  · rw [zero]
    decide
  · calc
      2 ^ (value.log2 + 1 - 53) ≤ 2 ^ value.log2 :=
        Nat.pow_le_pow_right (by decide) (by omega)
      _ ≤ value := Nat.log2_self_le (by omega)
      _ ≤ value + 1 := Nat.le_succ value

theorem roundTo53_le (value : Nat) : roundTo53 value ≤ 2 * value + 1 := by
  have unit := unit_le value
  have quotient := Nat.div_mul_le_self value (1 <<< (value.log2 + 1 - 53))
  simp only [roundTo53]
  split
  · rw [Nat.add_mul]
    omega
  · omega

theorem log2_roundTo53_lt {value : Nat} (fits : value < 2 ^ 66) :
    (roundTo53 value).log2 < 1024 := by
  have bound := roundTo53_le value
  by_cases zero : roundTo53 value = 0
  · rw [zero]
    decide
  · have short : (roundTo53 value).log2 < 68 := (Nat.log2_lt zero).mpr (by omega)
    omega

theorem exceedsDouble_eq_false {value : Nat} (fits : value < 0x10000000000000000) :
    exceedsDouble value 0 = false := by
  have one : roundTo53 (Nat.pow 10 (0 : Int).toNat) = 1 := by decide
  have bound := roundTo53_le value
  have short : (roundTo53 (roundTo53 value)).log2 < 1024 := log2_roundTo53_lt (by omega)
  unfold exceedsDouble
  split
  · rfl
  · rw [if_neg (by decide), one, Nat.mul_one]
    exact decide_eq_false (Nat.not_le.mpr short)

/-! ## Integers -/

/-- As wide as unsigned or signed words of 64 bits. -/
abbrev FitsWord (value : Int) : Prop :=
  value.natAbs < 0x10000000000000000

theorem text_ofInt (value : Int) : (Decimal.ofInt value).text = (toString value).toList := by
  rw [Decimal.text]
  exact if_pos rfl

theorem not_tooLarge_toDigits (negative : Bool) {value : Nat}
    (fits : value < 0x10000000000000000) :
    NumberText.tooLarge ⟨negative, Nat.toDigits 10 value, [], 0⟩ = false := by
  have leading : readLeading 0 (Nat.toDigits 10 value) = (value, 0) := by
    have whole : Nat.ofDigitChars 10 (Nat.toDigits 10 value) 0 = value :=
      Nat.ofDigitChars_ten_toDigits
    rw [readLeading_eq (whole.symm ▸ fits), whole]
  simp only [NumberText.tooLarge, leading, readLeading]
  exact exceedsDouble_eq_false fits

theorem value_toDigits (negative : Bool) (value : Nat) :
    NumberText.value ⟨negative, Nat.toDigits 10 value, [], 0⟩ =
      .ofInt (if negative then -value else value) := by
  simp only [NumberText.value, List.append_nil, Nat.ofDigitChars_ten_toDigits]
  rfl

theorem readNumber_of_ofText? {text : List Char} {negative : Bool} {value : Nat}
    (read : NumberText.ofText? text = some ⟨negative, Nat.toDigits 10 value, [], 0⟩)
    (fits : value < 0x10000000000000000) :
    readNumber text = some (.ofInt (if negative then -value else value)) := by
  rw [readNumber, read, Option.filter_some, not_tooLarge_toDigits negative fits,
    Bool.not_false, if_pos rfl, Option.map_some, value_toDigits]

theorem readNumber_toString {value : Int} (fits : FitsWord value) :
    readNumber (toString value).toList = some (.ofInt value) := by
  cases value with
  | ofNat value =>
      have read : NumberText.ofText? (Nat.toDigits 10 value) =
          some ⟨false, Nat.toDigits 10 value, [], 0⟩ := by
        unfold NumberText.ofText?
        split
        · rename_i rest digits
          have sign : '-' ∈ Nat.toDigits 10 value := digits ▸ List.mem_cons_self
          exact absurd (Text.isDigit_of_mem_toDigits sign) (by decide)
        · exact ofUnsigned?_toDigits false value
      rw [Int.ofNat_eq_natCast, Text.toList_toString_ofNat, readNumber_of_ofText? read fits]
      rfl
  | negSucc value =>
      have read : NumberText.ofText? ('-' :: Nat.toDigits 10 (value + 1)) =
          some ⟨true, Nat.toDigits 10 (value + 1), [], 0⟩ :=
        ofUnsigned?_toDigits true (value + 1)
      rw [Text.toList_toString_negSucc, readNumber_of_ofText? read fits]
      rfl

theorem legible_ofInt {value : Int} (fits : FitsWord value) :
    (Token.number (.ofInt value)).Legible := by
  change readNumber (Decimal.ofInt value).text = some (.ofInt value)
  rw [text_ofInt, readNumber_toString fits]

end RoleCatalog.Json

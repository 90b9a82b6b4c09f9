/-! Decimal numerals, and numerals with an optional sign read into the signed
64-bit range. -/

namespace RoleCatalog.Text

def readNatural (digits : List Char) : Option Nat :=
  if digits.isEmpty then none
  else if digits.all Char.isDigit then some (Nat.ofDigitChars 10 digits 0)
  else none

theorem readNatural_toDigits (value : Nat) :
    readNatural (Nat.toDigits 10 value) = some value := by
  have digits : (Nat.toDigits 10 value).all Char.isDigit = true :=
    List.all_eq_true.mpr fun _ member =>
      Nat.isDigit_of_mem_toDigits (by decide) (by decide) member
  simp [readNatural, digits, Nat.ofDigitChars_ten_toDigits]

def readSigned : List Char → Option Int
  | '-' :: digits => (readNatural digits).map fun value => -(value : Int)
  | '+' :: digits => (readNatural digits).map fun value => (value : Int)
  | digits => (readNatural digits).map fun value => (value : Int)

abbrev FitsInt64 (value : Int) : Prop :=
  -0x8000000000000000 ≤ value ∧ value < 0x8000000000000000

def readInt64 (text : List Char) : Option Int :=
  (readSigned text).filter fun value => decide (FitsInt64 value)

example : readInt64 "-0042".toList = some (-42) ∧ readInt64 "+7".toList = some 7 := by decide
example : readInt64 "-9223372036854775808".toList = some (-9223372036854775808) := by decide
example : readInt64 "9223372036854775808".toList = none := by decide
example : readInt64 "+-1".toList = none ∧ readInt64 "-".toList = none := by decide

end RoleCatalog.Text

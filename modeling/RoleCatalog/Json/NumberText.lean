import RoleCatalog.Json.Value
import RoleCatalog.Text.Numeral

/-! The text of a number: an optional minus, whole digits without a needless zero in
front, an optional fraction and an optional exponent. A number whose size is beyond
every double is refused; one that is merely too precise or too small is not. -/

namespace RoleCatalog.Json

structure NumberText where
  negative : Bool
  whole : List Char
  fraction : List Char
  exponent : Int
deriving Repr, DecidableEq

def readExponent : List Char → Option Int
  | [] => some 0
  | 'e' :: numeral => Text.readSigned numeral
  | 'E' :: numeral => Text.readSigned numeral
  | _ => none

def isWhole (digits : List Char) : Bool :=
  match digits with
  | [] => false
  | ['0'] => true
  | first :: _ => first != '0'

namespace NumberText

def ofUnsigned? (negative : Bool) (text : List Char) : Option NumberText :=
  let whole := text.takeWhile Char.isDigit
  if !isWhole whole then none
  else
    match text.dropWhile Char.isDigit with
    | '.' :: rest =>
        let fraction := rest.takeWhile Char.isDigit
        if fraction.isEmpty then none
        else (readExponent (rest.dropWhile Char.isDigit)).map (NumberText.mk negative whole fraction)
    | rest => (readExponent rest).map (NumberText.mk negative whole [])

def ofText? : List Char → Option NumberText
  | '-' :: rest => ofUnsigned? true rest
  | text => ofUnsigned? false text

def value (number : NumberText) : Decimal :=
  let digits : Int := Nat.ofDigitChars 10 (number.whole ++ number.fraction) 0
  ⟨if number.negative then -digits else digits, number.exponent - number.fraction.length⟩

end NumberText

/-! The size of a number is judged by the leading digits that fit an unsigned 64-bit
word, times a power of ten. The factors and their product are each rounded to 53
binary places, ties to even, and the product must stay below the power 1024 of two. -/

/-- The value after the digits that fit, and how many are left. -/
def readLeading (value : Nat) : List Char → Nat × Nat
  | [] => (value, 0)
  | digit :: rest =>
      let longer := 10 * value + (digit.toNat - '0'.toNat)
      if longer < 0x10000000000000000 then readLeading longer rest else (value, rest.length + 1)

def roundTo53 (value : Nat) : Nat :=
  let unit := 1 <<< (value.log2 + 1 - 53)
  let quotient := value / unit
  let doubled := 2 * (value % unit)
  if unit < doubled ∨ (doubled = unit ∧ quotient % 2 = 1) then (quotient + 1) * unit
  else quotient * unit

def exceedsDouble (leading : Nat) (exponent : Int) : Bool :=
  if leading = 0 ∨ exponent < 0 then false
  else if 308 < exponent then true
  else 1024 ≤ (roundTo53 (roundTo53 leading * roundTo53 (Nat.pow 10 exponent.toNat))).log2

def NumberText.tooLarge (number : NumberText) : Bool :=
  let whole := readLeading 0 number.whole
  let all := readLeading whole.1 number.fraction
  exceedsDouble all.1 (whole.2 + all.2 - number.fraction.length + number.exponent)

def readNumber (text : List Char) : Option Decimal :=
  ((NumberText.ofText? text).filter fun number => !number.tooLarge).map NumberText.value

example : readNumber "-12.50e+3".toList = some ⟨-1250, 1⟩ := by decide
example : readNumber "01".toList = none ∧ readNumber "1.".toList = none ∧
    readNumber "+1".toList = none ∧ readNumber "-".toList = none := by decide
example : readNumber "1e309".toList = none ∧ readNumber "0e999".toList = some ⟨0, 999⟩ ∧
    readNumber "1e-999".toList = some ⟨1, -999⟩ := by decide +kernel
example : readNumber "17976931348623157e292".toList = some ⟨17976931348623157, 292⟩ ∧
    readNumber "17976931348623159e292".toList = none := by decide +kernel

end RoleCatalog.Json

import RoleCatalog.Json.Value

/-! Tokens of JSON text and the text of each. In a string the quotation mark and the
backslash are written after a backslash, the characters below a blank by a short
name or a code, and all others as themselves. -/

namespace RoleCatalog.Json

inductive Token where
  | openArray
  | closeArray
  | openObject
  | closeObject
  | comma
  | colon
  | null
  | bool (value : Bool)
  | number (value : Decimal)
  | string (value : String)
deriving Repr, DecidableEq

def hexDigit (value : Nat) : Char :=
  Char.ofNat (if value < 10 then 48 + value else 87 + value)

def escapeCharacter (character : Char) : List Char :=
  match character with
  | '"' => ['\\', '"']
  | '\\' => ['\\', '\\']
  | '\x08' => ['\\', 'b']
  | '\x09' => ['\\', 't']
  | '\x0a' => ['\\', 'n']
  | '\x0c' => ['\\', 'f']
  | '\x0d' => ['\\', 'r']
  | other =>
      if other.toNat < 32 then
        ['\\', 'u', '0', '0', hexDigit (other.toNat / 16), hexDigit (other.toNat % 16)]
      else [other]

def quoted (text : String) : List Char :=
  '"' :: (text.toList.flatMap escapeCharacter ++ ['"'])

example : String.ofList (quoted "a\"\n\x1f/é") = "\"a\\\"\\n\\u001f/é\"" := by decide

def Decimal.text (number : Decimal) : List Char :=
  let digits := (toString number.significand).toList
  if number.exponent = 0 then digits
  else digits ++ 'e' :: (toString number.exponent).toList

example : String.ofList (Decimal.mk (-12) 0).text = "-12" := by decide
example : String.ofList (Decimal.mk 15 (-1)).text = "15e-1" := by decide

def Token.text : Token → List Char
  | .openArray => ['[']
  | .closeArray => [']']
  | .openObject => ['\x7b']
  | .closeObject => ['\x7d']
  | .comma => [',']
  | .colon => [':']
  | .null => "null".toList
  | .bool true => "true".toList
  | .bool false => "false".toList
  | .number value => value.text
  | .string value => quoted value

end RoleCatalog.Json

import RoleCatalog.Json.Token
import RoleCatalog.Json.NumberText

/-! JSON text is cut into tokens by an automaton that reads a character at a time.
Literals and numbers are words, which end at the first character that is of no
word. A string may not hold a character below a blank as it is, and the codes of
surrogates come in pairs. -/

namespace RoleCatalog.Json

def isJsonBlank (character : Char) : Bool :=
  character == ' ' || character == '\n' || character == '\t' || character == '\r'

def isWordCharacter (character : Char) : Bool :=
  character.isAlphanum || character == '-' || character == '+' || character == '.'

def punctuation? : Char → Option Token
  | '[' => some .openArray
  | ']' => some .closeArray
  | '\x7b' => some .openObject
  | '\x7d' => some .closeObject
  | ',' => some .comma
  | ':' => some .colon
  | _ => none

def wordToken? (word : List Char) : Option Token :=
  if word = "null".toList then some .null
  else if word = "true".toList then some (.bool true)
  else if word = "false".toList then some (.bool false)
  else (readNumber word).map .number

/-- The character that a short name after a backslash stands for. -/
def namedEscape? : Char → Option Char
  | '"' => some '"'
  | '\\' => some '\\'
  | '/' => some '/'
  | 'b' => some '\x08'
  | 'f' => some '\x0c'
  | 'n' => some '\n'
  | 'r' => some '\r'
  | 't' => some '\t'
  | _ => none

def hexValue? (digit : Char) : Option Nat :=
  if digit.isDigit then some (digit.toNat - 48)
  else if 'a' ≤ digit ∧ digit ≤ 'f' then some (digit.toNat - 87)
  else if 'A' ≤ digit ∧ digit ≤ 'F' then some (digit.toNat - 55)
  else none

abbrev IsHighSurrogate (code : Nat) : Prop :=
  0xD800 ≤ code ∧ code < 0xDC00

abbrev IsLowSurrogate (code : Nat) : Prop :=
  0xDC00 ≤ code ∧ code < 0xE000

namespace Lexer

/-- What has been read of the token at hand, the latest character first. -/
inductive Mode where
  | idle
  | word (read : List Char)
  | text (read : List Char)
  | escape (read : List Char)
  | code (read : List Char) (high : Option Nat) (missing value : Nat)
  | lowEscape (read : List Char) (high : Nat)
  | lowCode (read : List Char) (high : Nat)
deriving Repr, DecidableEq

/-- The finished tokens stand with the latest first. -/
structure State where
  mode : Mode
  tokens : List Token
deriving Repr, DecidableEq

def start (tokens : List Token) (character : Char) : Option State :=
  if isJsonBlank character then some ⟨.idle, tokens⟩
  else if character = '"' then some ⟨.text [], tokens⟩
  else if isWordCharacter character then some ⟨.word [character], tokens⟩
  else (punctuation? character).map fun token => ⟨.idle, token :: tokens⟩

def finishCode (read : List Char) (high : Option Nat) (value : Nat) : Option Mode :=
  match high with
  | none =>
      if IsHighSurrogate value then some (.lowEscape read value)
      else if IsLowSurrogate value then none
      else some (.text (Char.ofNat value :: read))
  | some first =>
      if IsLowSurrogate value then
        some (.text (Char.ofNat (0x10000 + 0x400 * (first - 0xD800) + (value - 0xDC00)) :: read))
      else none

def stepCode (read : List Char) (high : Option Nat) (missing value : Nat) (character : Char) :
    Option Mode :=
  (hexValue? character).bind fun digit =>
    match missing with
    | 0 | 1 => finishCode read high (16 * value + digit)
    | more + 2 => some (.code read high (more + 1) (16 * value + digit))

def step (state : State) (character : Char) : Option State :=
  match state.mode with
  | .idle => start state.tokens character
  | .word read =>
      if isWordCharacter character then some ⟨.word (character :: read), state.tokens⟩
      else
        (wordToken? read.reverse).bind fun token => start (token :: state.tokens) character
  | .text read =>
      if character = '"' then some ⟨.idle, .string (String.ofList read.reverse) :: state.tokens⟩
      else if character = '\\' then some ⟨.escape read, state.tokens⟩
      else if character.toNat < 32 then none
      else some ⟨.text (character :: read), state.tokens⟩
  | .escape read =>
      if character = 'u' then some ⟨.code read none 4 0, state.tokens⟩
      else
        (namedEscape? character).map fun meaning => ⟨.text (meaning :: read), state.tokens⟩
  | .code read high missing value =>
      (stepCode read high missing value character).map fun mode => ⟨mode, state.tokens⟩
  | .lowEscape read high =>
      if character = '\\' then some ⟨.lowCode read high, state.tokens⟩ else none
  | .lowCode read high =>
      if character = 'u' then some ⟨.code read (some high) 4 0, state.tokens⟩ else none

def run (state : State) (text : List Char) : Option State :=
  text.foldlM step state

def finish (state : State) : Option (List Token) :=
  match state.mode with
  | .idle => some state.tokens.reverse
  | .word read => (wordToken? read.reverse).map fun token => (token :: state.tokens).reverse
  | _ => none

end Lexer

def tokens? (text : List Char) : Option (List Token) :=
  (Lexer.run ⟨.idle, []⟩ text).bind Lexer.finish

example : tokens? " [1,\"a\\u00e9\\ud83d\\ude00\\/\"\n]".toList =
    some [.openArray, .number ⟨1, 0⟩, .comma, .string "aé😀/", .closeArray] := by decide
example : tokens? "\"\\ud83d\"".toList = none ∧ tokens? "\"\t\"".toList = none ∧
    tokens? "nul".toList = none := by decide

end RoleCatalog.Json

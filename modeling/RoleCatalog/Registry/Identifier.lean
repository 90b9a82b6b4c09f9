import RoleCatalog.Text.Blank
import RoleCatalog.Text.LowerCase

/-! An identifier as a person types it: a table name, perhaps with a schema before it.
Only the first word counts, without one semicolon at its end and without quotation
marks. The parts are in lower case, and a full stop, a slash or a backslash
separates them; of more than two parts the last two count. -/

namespace RoleCatalog

structure Identifier where
  schema? : Option String
  name : String
deriving Repr, DecidableEq

namespace Identifier

def firstWord (text : List Char) : List Char :=
  (Text.trimStart text).takeWhile fun character => !Text.isBlank character

def dropSemicolon (word : List Char) : List Char :=
  if word.getLast? = some ';' then word.dropLast else word

def isQuote (character : Char) : Bool :=
  character == '"' || character == '\''

def dropQuotes (word : List Char) : List Char :=
  word.filter fun character => !isQuote character

def replace (old new : Char) (word : List Char) : List Char :=
  word.map fun character => if character = old then new else character

/-- Backslashes become slashes before the letters change case, and slashes become full
stops after it. -/
def normalize (text : List Char) : List Char :=
  replace '/' '.' (Text.lower (replace '\\' '/' (dropQuotes (dropSemicolon (firstWord text)))))

def parts (text : List Char) : List (List Char) :=
  ((normalize text).splitOn '.').filter fun part => !part.isEmpty

/-- The parts come with the last one first. -/
def ofReversedParts : List (List Char) → Identifier
  | [] => ⟨none, ""⟩
  | [name] => ⟨none, String.ofList name⟩
  | name :: schema :: _ => ⟨some (String.ofList schema), String.ofList name⟩

def ofText (text : String) : Identifier :=
  ofReversedParts (parts text.toList).reverse

example : ofText " \"PG_Catalog\"/pg_roles; r" = ⟨some "pg_catalog", "pg_roles"⟩ := by
  decide +kernel
example : ofText ".a..b\\c." = ⟨some "b", "c"⟩ ∧ ofText " ;" = ⟨none, ""⟩ := by decide +kernel

end Identifier

end RoleCatalog

import RoleCatalog.Text.CasedLetter
import RoleCatalog.Text.CaseIgnorable
import RoleCatalog.Text.LowerRun

/-! Lower case of a whole text. Every character stands for its own lower case
letter, with two exceptions: a dotted capital I becomes two characters, and the
form of a sigma depends on the letters around it. -/

namespace RoleCatalog.Text

/-- The next character that is not ignorable is a cased one. -/
def meetsCased (characters : List Char) : Bool :=
  match characters.dropWhile isCaseIgnorable with
  | [] => false
  | character :: _ => isCased character

/-- A sigma is final when a cased letter comes before it and none comes after. -/
def lowerSigma (preceding following : List Char) : Char :=
  if meetsCased preceding && !meetsCased following then 'ς' else 'σ'

/-- `preceding` holds what was read before, the nearest character first. -/
def lowerCharacter (preceding : List Char) (character : Char) (following : List Char) :
    List Char :=
  if character = 'Σ' then [lowerSigma preceding following]
  else if character = '\u0130' then ['i', '\u0307']
  else [lowerLetter character]

def lowerFrom (preceding : List Char) : List Char → List Char
  | [] => []
  | character :: rest =>
      lowerCharacter preceding character rest ++ lowerFrom (character :: preceding) rest

def lower (text : List Char) : List Char :=
  lowerFrom [] text

example : lower "PG_Authid".toList = "pg_authid".toList := by decide
example : lower "\u0130".toList = "i\u0307".toList := by decide

/-! A full stop does not end a word, a slash does. -/

example : lower "ΟΔΟΣ".toList = "οδος".toList := by decide +kernel
example : lower "ΑΣ.Α".toList = "ασ.α".toList := by decide +kernel
example : lower "ΑΣ/Α".toList = "ας/α".toList := by decide +kernel

end RoleCatalog.Text

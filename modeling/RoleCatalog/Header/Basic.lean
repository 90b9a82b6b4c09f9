import RoleCatalog.Report.Basic
import RoleCatalog.Text.Blank
import RoleCatalog.Text.Numeral

/-! A header binds symbols to integers, one `#define` line for each. Reading takes the
lines whose first word is `#define` and which have two more words; the third word
has to be a numeral. All other lines are passed over. -/

namespace RoleCatalog

namespace Header

structure Binding where
  symbol : String
  value : Int
deriving Repr, DecidableEq

def defineWord : String :=
  "#define"

def Binding.line (binding : Binding) : String :=
  defineWord ++ " " ++ binding.symbol ++ " " ++ toString binding.value

example : (Binding.mk "Natts_t" 3).line = "#define Natts_t 3" := by decide

structure BadDefine where
  lineNumber : Nat
  value : String
  symbol : String
deriving Repr, DecidableEq

def BadDefine.report (cause : BadDefine) : Report :=
  ⟨.userInput, "bad_define",
    s!"line {cause.lineNumber}: value '{cause.value}' of {cause.symbol} is not an integer"⟩

/-- The symbol and the text of its value, on a line that gives both. -/
def definition? (line : List Char) : Option (List Char × List Char) :=
  match Text.words line with
  | keyword :: symbol :: value :: _ =>
      if keyword = defineWord.toList then some (symbol, value) else none
  | _ => none

def lines (text : List Char) : List (List Char) :=
  text.splitOn '\n'

def readLines (lineNumber : Nat) : List (List Char) → Except BadDefine (List Binding)
  | [] => .ok []
  | line :: rest =>
      match definition? line with
      | none => readLines (lineNumber + 1) rest
      | some (symbol, value) =>
          match Text.readInt64 value with
          | none => .error ⟨lineNumber, String.ofList value, String.ofList symbol⟩
          | some number =>
              (readLines (lineNumber + 1) rest).map (⟨String.ofList symbol, number⟩ :: ·)

/-- Lines are counted from one. A carriage return at the end of a line is blank, so it
is part of no word. -/
def parse (text : String) : Except BadDefine (List Binding) :=
  readLines 1 (lines text.toList)

end Header

end RoleCatalog

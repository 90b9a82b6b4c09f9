import RoleCatalog.Json.Reader
import RoleCatalog.Json.Writer
import RoleCatalog.Report.Basic

/-! Reports as JSON. A report is written as an object with its kind, code and message.
It is read from an object that gives each of the three once, among any other
members, or from an array of exactly the three in that order. -/

namespace RoleCatalog.Report

open Json

def toJson (report : Report) : Value :=
  .ofMembers [("type", .string report.kind.label), ("code", .string report.code),
    ("message", .string report.message)]

def toText (report : Report) : String :=
  report.toJson.compact

example : toText ⟨.conflict, "c", "a \"b\""⟩ =
    "\x7b\"type\":\"conflict\",\"code\":\"c\",\"message\":\"a \\\"b\\\"\"\x7d" := by decide

/-- The text under a key that occurs once. -/
def soleText? (members : List (String × Value)) (key : String) : Option String :=
  match members.filter fun member => member.1 == key with
  | [(_, .string text)] => some text
  | _ => none

def ofParts? (label code message : String) : Option Report :=
  (Kind.ofLabel? label).map fun kind => ⟨kind, code, message⟩

def ofMembers? (members : List (String × Value)) : Option Report := do
  let label ← soleText? members "type"
  let code ← soleText? members "code"
  let message ← soleText? members "message"
  ofParts? label code message

def ofItems? : List Value → Option Report
  | [.string label, .string code, .string message] => ofParts? label code message
  | _ => none

def ofJson? : Value → Option Report
  | .object members => ofMembers? members.toList
  | .array items => ofItems? items.toList
  | _ => none

/-- The report of a text that is not the JSON form of a report. -/
def unreadable : Report :=
  ⟨.internal, "json_encode", "the text does not hold a report"⟩

def ofText (text : String) : Except Report Report :=
  match (Value.ofText? text).bind ofJson? with
  | some report => .ok report
  | none => .error unreadable

end RoleCatalog.Report

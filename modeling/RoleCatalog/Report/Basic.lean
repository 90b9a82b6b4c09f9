/-! A report is what a caller is told about a failure: its kind, a stable code and
a message. The kind decides the SQLSTATE. Each part of the library has causes of
failure of its own, and every cause has a report. -/

namespace RoleCatalog

namespace Report

inductive Kind where
  | userInput
  | notFound
  | conflict
  | internal
deriving Repr, DecidableEq

namespace Kind

def all : List Kind :=
  [.userInput, .notFound, .conflict, .internal]

def label : Kind → String
  | .userInput => "user_input"
  | .notFound => "not_found"
  | .conflict => "conflict"
  | .internal => "internal"

def ofLabel? (label : String) : Option Kind :=
  all.find? fun kind => kind.label == label

theorem ofLabel?_label (kind : Kind) : ofLabel? kind.label = some kind := by
  cases kind <;> decide

/-- Invalid parameter value, undefined object, duplicate object, internal error. -/
def sqlstate : Kind → String
  | .userInput => "22023"
  | .notFound => "42704"
  | .conflict => "42710"
  | .internal => "XX000"

end Kind

end Report

structure Report where
  kind : Report.Kind
  code : String
  message : String
deriving Repr, DecidableEq

namespace Report

def sqlstate (report : Report) : String :=
  report.kind.sqlstate

def severity : String :=
  "ERROR"

def display (report : Report) : String :=
  report.code ++ ": " ++ report.message

/-- The report of a text that could not be written out. -/
def renderFailed : Report :=
  ⟨.internal, "render_failed", "an error occurred when formatting an argument"⟩

example : (Report.mk .notFound "unknown_role" "no role").display = "unknown_role: no role" := by
  decide

end Report

end RoleCatalog

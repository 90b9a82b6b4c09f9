import RoleCatalog.Report.Basic

/-! A frame is a list of named columns of typed cells. Its columns have different names
and equal heights, which is checked when it is made. Up to four columns are compared
in pairs; with more, each is compared with the first for its height and with all
before it for its name. The two orders can report different columns. -/

namespace RoleCatalog

inductive Dtype where
  | uint32
  | int32
  | boolean
  | string
deriving Repr, DecidableEq

def Dtype.label : Dtype → String
  | .uint32 => "UInt32"
  | .int32 => "Int32"
  | .boolean => "Boolean"
  | .string => "String"

inductive Cell where
  | null
  | uint32 (value : UInt32)
  | int32 (value : Int32)
  | boolean (value : Bool)
  | string (value : String)
deriving Repr, DecidableEq

def Cell.text : Cell → String
  | .null => "null"
  | .uint32 value => toString value.toNat
  | .int32 value => toString value.toInt
  | .boolean value => toString value
  | .string value => value

/-! The cells of one column share a type. A missing value is a null cell. -/

inductive Cells where
  | uint32 (values : List (Option UInt32))
  | int32 (values : List (Option Int32))
  | boolean (values : List (Option Bool))
  | string (values : List (Option String))
deriving Repr, DecidableEq

namespace Cells

def dtype : Cells → Dtype
  | .uint32 _ => .uint32
  | .int32 _ => .int32
  | .boolean _ => .boolean
  | .string _ => .string

def toList : Cells → List Cell
  | .uint32 values => values.map fun value => value.elim .null .uint32
  | .int32 values => values.map fun value => value.elim .null .int32
  | .boolean values => values.map fun value => value.elim .null .boolean
  | .string values => values.map fun value => value.elim .null .string

end Cells

namespace Frame

structure Column where
  name : String
  cells : Cells
deriving Repr, DecidableEq

namespace Column

def dtype (column : Column) : Dtype :=
  column.cells.dtype

def height (column : Column) : Nat :=
  column.cells.toList.length

/-! Columns without null cells. -/

def ofOids (name : String) (values : List UInt32) : Column :=
  ⟨name, .uint32 (values.map some)⟩

def ofInts (name : String) (values : List Int32) : Column :=
  ⟨name, .int32 (values.map some)⟩

def ofBools (name : String) (values : List Bool) : Column :=
  ⟨name, .boolean (values.map some)⟩

def ofTexts (name : String) (values : List String) : Column :=
  ⟨name, .string (values.map some)⟩

def ofOptionalTexts (name : String) (values : List (Option String)) : Column :=
  ⟨name, .string values⟩

end Column

inductive Defect where
  | duplicateName (name : String)
  | unequalHeights (name : String) (height : Nat) (reference : String) (referenceHeight : Nat)
deriving Repr, DecidableEq

namespace Defect

def message : Defect → String
  | .duplicateName name =>
      s!"duplicate: could not create a new DataFrame: column with name '{name}' " ++
        "has more than one occurrence"
  | .unequalHeights name height reference referenceHeight =>
      "lengths don't match: could not create a new DataFrame: " ++
        s!"height of column '{name}' ({height}) does not match " ++
        s!"height of column '{reference}' ({referenceHeight})"

def report (defect : Defect) : Report :=
  ⟨.internal, "frame_build", defect.message⟩

end Defect

def heightDefect? (reference column : Column) : Option Defect :=
  if column.height = reference.height then none
  else some (.unequalHeights column.name column.height reference.name reference.height)

def pairDefect? (left right : Column) : Option Defect :=
  if left.name = right.name then some (.duplicateName left.name)
  else heightDefect? left right

def pairwiseDefect? : List Column → Option Defect
  | [] => none
  | column :: rest => (rest.findSome? (pairDefect? column)).or (pairwiseDefect? rest)

def sequentialDefect? (first : Column) (seen : List String) : List Column → Option Defect
  | [] => none
  | column :: rest =>
      (heightDefect? first column).or <|
        if column.name ∈ seen then some (.duplicateName column.name)
        else sequentialDefect? first (column.name :: seen) rest

/-- The largest number of columns that are compared in pairs. -/
def pairwiseLimit : Nat :=
  4

def defect? : List Column → Option Defect
  | [] => none
  | first :: rest =>
      if (first :: rest).length ≤ pairwiseLimit then pairwiseDefect? (first :: rest)
      else sequentialDefect? first [first.name] rest

end Frame

structure Frame where
  columns : List Frame.Column
deriving Repr, DecidableEq

namespace Frame

def ofColumns (columns : List Column) : Except Defect Frame :=
  match defect? columns with
  | some defect => .error defect
  | none => .ok ⟨columns⟩

theorem ofColumns_eq_ok_iff {columns : List Column} {frame : Frame} :
    ofColumns columns = .ok frame ↔ defect? columns = none ∧ frame.columns = columns := by
  unfold ofColumns
  constructor
  · intro built
    split at built <;> cases built
    exact ⟨by assumption, rfl⟩
  · rintro ⟨sound, rfl⟩
    simp [sound]

def height (frame : Frame) : Nat :=
  frame.columns.head?.elim 0 Column.height

def width (frame : Frame) : Nat :=
  frame.columns.length

def column? (frame : Frame) (name : String) : Option Column :=
  frame.columns.find? fun column => column.name == name

def row (frame : Frame) (index : Nat) : List Cell :=
  frame.columns.map fun column => column.cells.toList.getD index .null

def rows (frame : Frame) : List (List Cell) :=
  (List.range frame.height).map frame.row

/-- The height and width, then the names, the types and the rows, a line each. -/
def listing (frame : Frame) : String :=
  let line := "\t".intercalate
  "\n".intercalate <|
    s!"shape: ({frame.height}, {frame.width})" ::
      line (frame.columns.map Column.name) ::
      line (frame.columns.map fun column => column.dtype.label) ::
      frame.rows.map fun cells => line (cells.map Cell.text)

example : (Frame.mk [.ofOids "oid" [10, 11], .ofTexts "name" ["a", "b"]]).listing =
    "shape: (2, 2)\noid\tname\nUInt32\tString\n10\ta\n11\tb" := by decide

end Frame

end RoleCatalog

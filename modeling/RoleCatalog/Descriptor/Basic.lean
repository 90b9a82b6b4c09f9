import RoleCatalog.Oid
import RoleCatalog.Report.Basic
import RoleCatalog.Text.AsciiCase

/-! A descriptor states what a catalog relation is: its object identifiers, its
columns in order and the indexes over them. Columns are addressed by attribute
number, or by name without regard to ASCII case. -/

namespace RoleCatalog

inductive ColumnType where
  | oid
  | name
  | bool
  | int4
  | text
  | timestampTz
deriving Repr, DecidableEq

namespace ColumnType

def all : List ColumnType :=
  [.oid, .name, .bool, .int4, .text, .timestampTz]

/-- The identifier of the type itself in the catalog of types. -/
def typeOid : ColumnType → Oid
  | .bool => 16
  | .name => 19
  | .int4 => 23
  | .text => 25
  | .oid => 26
  | .timestampTz => 1184

def typeName : ColumnType → String
  | .bool => "bool"
  | .name => "name"
  | .int4 => "int4"
  | .text => "text"
  | .oid => "oid"
  | .timestampTz => "timestamptz"

end ColumnType

structure ColumnDef where
  name : String
  columnType : ColumnType
  attnum : AttrNumber
  nullable : Bool := false
deriving Repr, DecidableEq

structure IndexDef where
  oid : Oid
  name : String
  keys : List String
  unique : Bool
deriving Repr, DecidableEq

structure Descriptor where
  schema : String
  relname : String
  relationId : Oid
  rowtypeId : Oid
  toastTable : Oid
  toastIndex : Oid
  shared : Bool
  natts : UInt64
  indexes : List IndexDef
  columns : List ColumnDef
deriving Repr, DecidableEq

namespace Descriptor

structure UnknownColumn where
  name : String
  relname : String
deriving Repr, DecidableEq

def UnknownColumn.report (cause : UnknownColumn) : Report :=
  ⟨.notFound, "unknown_column",
    "column \"" ++ cause.name ++ "\" of relation \"" ++ cause.relname ++ "\" does not exist"⟩

def column? (descriptor : Descriptor) (attnum : AttrNumber) : Option ColumnDef :=
  if attnum < 1 then none else descriptor.columns.find? fun column => column.attnum == attnum

def columnByName? (descriptor : Descriptor) (name : String) : Option ColumnDef :=
  descriptor.columns.find? fun column => decide (Text.SameFold column.name name)

def attnumOf (descriptor : Descriptor) (name : String) : Except UnknownColumn AttrNumber :=
  match descriptor.columnByName? name with
  | some column => .ok column.attnum
  | none => .error ⟨name, descriptor.relname⟩

theorem attnumOf_eq_ok_iff {descriptor : Descriptor} {name : String} {attnum : AttrNumber} :
    descriptor.attnumOf name = .ok attnum ↔
      ∃ column, descriptor.columnByName? name = some column ∧ column.attnum = attnum := by
  unfold attnumOf
  cases descriptor.columnByName? name <;> simp

/-- Every object the relation consists of, under the name it goes by here. -/
def relationOids (descriptor : Descriptor) : List NamedOid :=
  [⟨"relation", descriptor.relationId⟩, ⟨"rowtype", descriptor.rowtypeId⟩,
   ⟨"toast_table", descriptor.toastTable⟩, ⟨"toast_index", descriptor.toastIndex⟩] ++
    descriptor.indexes.map fun index => ⟨index.name, index.oid⟩

end Descriptor

end RoleCatalog

import RoleCatalog.Descriptor.Basic
import RoleCatalog.Json.Writer

/-! Descriptors as JSON: every field under its name, columns and indexes in order. -/

namespace RoleCatalog

open Json

namespace ColumnType

/-- The name of the type in the JSON form of a column. -/
def label : ColumnType → String
  | .oid => "oid"
  | .name => "name"
  | .bool => "bool"
  | .int4 => "int4"
  | .text => "text"
  | .timestampTz => "timestamptz"

def ofLabel? (label : String) : Option ColumnType :=
  all.find? fun columnType => columnType.label == label

theorem ofLabel?_label (columnType : ColumnType) : ofLabel? columnType.label = some columnType := by
  cases columnType <;> decide

end ColumnType

def ColumnDef.toJson (column : ColumnDef) : Value :=
  .ofMembers [("name", .string column.name), ("coltype", .string column.columnType.label),
    ("attnum", .ofInt column.attnum.toInt), ("nullable", .bool column.nullable)]

def IndexDef.toJson (index : IndexDef) : Value :=
  .ofMembers [("oid", .ofInt index.oid.toNat), ("name", .string index.name),
    ("keys", .ofList (index.keys.map .string)), ("unique", .bool index.unique)]

def Descriptor.toJson (descriptor : Descriptor) : Value :=
  .ofMembers [("schema", .string descriptor.schema), ("relname", .string descriptor.relname),
    ("relation_id", .ofInt descriptor.relationId.toNat),
    ("rowtype_id", .ofInt descriptor.rowtypeId.toNat),
    ("toast_table", .ofInt descriptor.toastTable.toNat),
    ("toast_index", .ofInt descriptor.toastIndex.toNat),
    ("shared", .bool descriptor.shared), ("natts", .ofInt descriptor.natts.toNat),
    ("indexes", .ofList (descriptor.indexes.map IndexDef.toJson)),
    ("columns", .ofList (descriptor.columns.map ColumnDef.toJson))]

end RoleCatalog

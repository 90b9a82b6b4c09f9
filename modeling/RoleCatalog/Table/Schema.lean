import RoleCatalog.Descriptor.Basic
import RoleCatalog.Frame

/-! The type that the cells of a column have in a frame, and frames without rows. A
timestamp is held as text. -/

namespace RoleCatalog

def ColumnType.dtype : ColumnType → Dtype
  | .oid => .uint32
  | .int4 => .int32
  | .bool => .boolean
  | .name | .text | .timestampTz => .string

namespace ColumnDef

def emptyColumn (column : ColumnDef) : Frame.Column :=
  match column.columnType with
  | .oid => .ofOids column.name []
  | .int4 => .ofInts column.name []
  | .bool => .ofBools column.name []
  | .name | .text | .timestampTz => .ofOptionalTexts column.name []

@[simp] theorem name_emptyColumn (column : ColumnDef) : column.emptyColumn.name = column.name := by
  unfold emptyColumn
  cases column.columnType <;> rfl

/-- An empty column is made by a choice of its own, and its cells have the type that
`dtype` gives. -/
@[simp] theorem dtype_emptyColumn (column : ColumnDef) :
    column.emptyColumn.dtype = column.columnType.dtype := by
  unfold emptyColumn
  cases column.columnType <;> rfl

@[simp] theorem toList_cells_emptyColumn (column : ColumnDef) :
    column.emptyColumn.cells.toList = [] := by
  unfold emptyColumn
  cases column.columnType <;> rfl

end ColumnDef

def Frame.ofSchema (columns : List ColumnDef) : Except Frame.Defect Frame :=
  Frame.ofColumns (columns.map ColumnDef.emptyColumn)

/-- The type under each name; of columns with one name the last counts. -/
def schemaMap : List ColumnDef → List (String × Dtype)
  | [] => []
  | column :: rest =>
      if rest.any fun other => other.name == column.name then schemaMap rest
      else (column.name, column.columnType.dtype) :: schemaMap rest

end RoleCatalog

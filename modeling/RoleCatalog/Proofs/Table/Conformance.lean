import RoleCatalog.Proofs.Role.AuthidFrame
import Mathlib.Data.List.Forall2

/-! # Frames that keep to a declaration

A table declares its columns, and the columns of its frame are listed once more where
it is built. The two lists agree: names, order and types are the declared ones, and
only a column declared nullable has null cells. The frames of the default tables are
sound as well, so they are built under all settings.
-/

namespace RoleCatalog

namespace Frame

structure Column.Declared (column : Column) (declaration : ColumnDef) : Prop where
  name : column.name = declaration.name
  dtype : column.dtype = declaration.columnType.dtype
  nonnull : declaration.nullable = false → Cell.null ∉ column.cells.toList

/-- The columns are the declared ones in their order, and equally high. -/
structure Conforms (frame : Frame) (declarations : List ColumnDef) : Prop where
  declared : List.Forall₂ Column.Declared frame.columns declarations
  heights : ∀ column ∈ frame.columns, column.height = frame.height

/-- The columns with their types alone. -/
def dtypes (frame : Frame) : List (String × Dtype) :=
  frame.columns.map fun column => (column.name, column.dtype)

namespace Column

/-! ## One column -/

variable (name : String) (attnum : AttrNumber) (nullable : Bool)

theorem null_not_mem_map {α : Type} {cell : α → Cell} (nonnull : ∀ value, cell value ≠ .null)
    (values : List α) : Cell.null ∉ (values.map some).map fun value => value.elim .null cell := by
  simp [nonnull]

@[simp] theorem declared_ofOids (values : List UInt32) :
    (ofOids name values).Declared ⟨name, .oid, attnum, nullable⟩ :=
  ⟨rfl, rfl, fun _ => null_not_mem_map (fun _ => Cell.noConfusion) values⟩

@[simp] theorem declared_ofInts (values : List Int32) :
    (ofInts name values).Declared ⟨name, .int4, attnum, nullable⟩ :=
  ⟨rfl, rfl, fun _ => null_not_mem_map (fun _ => Cell.noConfusion) values⟩

@[simp] theorem declared_ofBools (values : List Bool) :
    (ofBools name values).Declared ⟨name, .bool, attnum, nullable⟩ :=
  ⟨rfl, rfl, fun _ => null_not_mem_map (fun _ => Cell.noConfusion) values⟩

theorem declared_ofTexts {columnType : ColumnType} (isText : columnType.dtype = .string)
    (values : List String) :
    (ofTexts name values).Declared ⟨name, columnType, attnum, nullable⟩ :=
  ⟨rfl, isText.symm, fun _ => null_not_mem_map (fun _ => Cell.noConfusion) values⟩

@[simp] theorem declared_ofTexts_name (values : List String) :
    (ofTexts name values).Declared ⟨name, .name, attnum, nullable⟩ :=
  declared_ofTexts name attnum nullable rfl values

@[simp] theorem declared_ofTexts_text (values : List String) :
    (ofTexts name values).Declared ⟨name, .text, attnum, nullable⟩ :=
  declared_ofTexts name attnum nullable rfl values

/-- A column with missing values has to be declared nullable. -/
theorem declared_ofOptionalTexts {columnType : ColumnType}
    (isText : columnType.dtype = .string) (values : List (Option String)) :
    (ofOptionalTexts name values).Declared ⟨name, columnType, attnum, true⟩ :=
  ⟨rfl, isText.symm, fun required => Bool.noConfusion required⟩

@[simp] theorem declared_ofOptionalTexts_text (values : List (Option String)) :
    (ofOptionalTexts name values).Declared ⟨name, .text, attnum, true⟩ :=
  declared_ofOptionalTexts name attnum rfl values

@[simp] theorem declared_ofOptionalTexts_timestampTz (values : List (Option String)) :
    (ofOptionalTexts name values).Declared ⟨name, .timestampTz, attnum, true⟩ :=
  declared_ofOptionalTexts name attnum rfl values

theorem declared_emptyColumn (declaration : ColumnDef) :
    declaration.emptyColumn.Declared declaration where
  name := declaration.name_emptyColumn
  dtype := declaration.dtype_emptyColumn
  nonnull _ := by simp

end Column

/-! ## All columns of a frame -/

theorem Sound.height_eq {columns : List Column} (sound : Sound columns) :
    ∀ column ∈ columns, column.height = (Frame.mk columns).height := by
  intro column member
  cases columns with
  | nil => cases member
  | cons first rest => exact sound.heights first rfl column member

theorem map_name_of_declared {columns : List Column} {declarations : List ColumnDef}
    (declared : List.Forall₂ Column.Declared columns declarations) :
    columns.map Column.name = declarations.map ColumnDef.name := by
  induction declared with
  | nil => rfl
  | cons head _ induction => rw [List.map_cons, List.map_cons, head.name, induction]

theorem dtypes_of_declared {columns : List Column} {declarations : List ColumnDef}
    (declared : List.Forall₂ Column.Declared columns declarations) :
    dtypes ⟨columns⟩ = declarations.map fun declaration =>
      (declaration.name, declaration.columnType.dtype) := by
  induction declared with
  | nil => rfl
  | cons head _ induction =>
      rw [dtypes] at induction ⊢
      rw [List.map_cons, List.map_cons, head.name, head.dtype, induction]

theorem sound_of_declared {columns : List Column} {declarations : List ColumnDef}
    (declared : List.Forall₂ Column.Declared columns declarations)
    (names : (declarations.map ColumnDef.name).Nodup)
    (heights : ∀ first ∈ columns.head?, ∀ column ∈ columns, column.height = first.height) :
    Sound columns :=
  ⟨map_name_of_declared declared ▸ names, heights⟩

theorem conforms_of_ofColumns {columns : List Column} {declarations : List ColumnDef}
    {frame : Frame} (declared : List.Forall₂ Column.Declared columns declarations)
    (built : ofColumns columns = .ok frame) : frame.Conforms declarations := by
  rcases ofColumns_eq_ok_iff.mp built with ⟨noDefect, rfl⟩
  exact ⟨declared, ((defect?_eq_none_iff frame.columns).mp noDefect).height_eq⟩

theorem nodup_of_ofColumns {columns : List Column} {frame : Frame}
    (built : ofColumns columns = .ok frame) : (frame.columns.map Column.name).Nodup := by
  rcases ofColumns_eq_ok_iff.mp built with ⟨noDefect, rfl⟩
  exact ((defect?_eq_none_iff frame.columns).mp noDefect).names

theorem declared_emptyColumns (declarations : List ColumnDef) :
    List.Forall₂ Column.Declared (declarations.map ColumnDef.emptyColumn) declarations := by
  rw [List.forall₂_map_left_iff, List.forall₂_same]
  exact fun declaration _ => Column.declared_emptyColumn declaration

theorem height_emptyColumn {declarations : List ColumnDef} {column : Column}
    (member : column ∈ declarations.map ColumnDef.emptyColumn) : column.height = 0 := by
  rcases List.mem_map.mp member with ⟨declaration, -, rfl⟩
  simp [Column.height]

theorem map_name_emptyColumns (declarations : List ColumnDef) :
    (declarations.map ColumnDef.emptyColumn).map Column.name =
      declarations.map ColumnDef.name :=
  map_name_of_declared (declared_emptyColumns declarations)

theorem sound_emptyColumns_iff {declarations : List ColumnDef} :
    Sound (declarations.map ColumnDef.emptyColumn) ↔
      (declarations.map ColumnDef.name).Nodup := by
  constructor
  · intro sound
    rw [← map_name_emptyColumns]
    exact sound.names
  · intro names
    apply sound_of_declared (declared_emptyColumns declarations) names
    intro first isFirst column member
    rw [height_emptyColumn (List.mem_of_mem_head? isFirst), height_emptyColumn member]

theorem ofSchema_eq_ok_iff {declarations : List ColumnDef} {frame : Frame} :
    ofSchema declarations = .ok frame ↔ (declarations.map ColumnDef.name).Nodup ∧
      frame.columns = declarations.map ColumnDef.emptyColumn := by
  rw [ofSchema, ofColumns_eq_ok_iff, defect?_eq_none_iff, sound_emptyColumns_iff]

theorem exists_ofSchema_eq_ok_iff {declarations : List ColumnDef} :
    (∃ frame, ofSchema declarations = .ok frame) ↔
      (declarations.map ColumnDef.name).Nodup := by
  simp only [ofSchema_eq_ok_iff, exists_and_left, and_iff_left_iff_imp]
  exact fun _ => ⟨⟨_⟩, rfl⟩

end Frame

/-- With different names no column hides another in the map. -/
theorem schemaMap_of_nodup {declarations : List ColumnDef}
    (names : (declarations.map ColumnDef.name).Nodup) :
    schemaMap declarations = declarations.map fun declaration =>
      (declaration.name, declaration.columnType.dtype) := by
  induction declarations with
  | nil => rfl
  | cons declaration rest induction =>
      rw [List.map_cons, List.nodup_cons] at names
      have unrepeated : (rest.any fun other => other.name == declaration.name) = false := by
        rw [List.any_eq_false]
        intro other member same
        exact names.1 (List.mem_map.mpr ⟨other, member, eq_of_beq same⟩)
      rw [schemaMap, unrepeated, if_neg Bool.false_ne_true, induction names.2, List.map_cons]

/-! ## The default tables -/

theorem RoleColumns.declared_toColumns (columns : RoleColumns) :
    List.Forall₂ Frame.Column.Declared columns.toColumns Authid.columns := by
  simp [toColumns, Authid.columns]

theorem RolesView.declared_ofColumns (columns : RoleColumns) :
    List.Forall₂ Frame.Column.Declared (ofColumns columns) Table.roles.columns := by
  simp [ofColumns, Table.roles]

theorem RolesView.sound_ofColumns_ofRows (rows : List RoleRow) :
    Frame.Sound (ofColumns (RoleColumns.ofRows rows)) := by
  refine Frame.sound_of_declared (declared_ofColumns _) (by decide) ?_
  intro first isFirst
  cases isFirst
  simp [ofColumns, RoleColumns.ofRows, RoleColumns.size]

theorem Membership.declared_toColumns (grants : List Membership) :
    List.Forall₂ Frame.Column.Declared (toColumns grants) Table.authMembers.columns := by
  simp [toColumns, Table.authMembers]

theorem Membership.sound_toColumns (grants : List Membership) :
    Frame.Sound (toColumns grants) := by
  refine Frame.sound_of_declared (declared_toColumns grants) (by decide) ?_
  intro first isFirst
  cases isFirst
  simp [toColumns]

namespace Table

theorem build_roles (settings : Settings) :
    roles.build settings = .ok ⟨RolesView.ofColumns (RoleColumns.synthesize settings)⟩ :=
  Frame.mapError_report_eq_ok_iff.mpr <|
    Frame.ofColumns_of_sound (RolesView.sound_ofColumns_ofRows (RoleRow.synthesize settings))

theorem build_authMembers (settings : Settings) :
    authMembers.build settings = .ok ⟨Membership.toColumns (Membership.listed settings)⟩ :=
  Frame.mapError_report_eq_ok_iff.mpr <|
    Frame.ofColumns_of_sound (Membership.sound_toColumns (Membership.listed settings))

theorem exists_build_default (settings : Settings) :
    ∀ default ∈ defaults, ∃ frame, default.build settings = .ok frame :=
  forall_mem_defaults.mpr
    ⟨⟨_, build_authid settings⟩, ⟨_, build_roles settings⟩, ⟨_, build_authMembers settings⟩⟩

/-- The table brings no source of rows of its own. -/
def Stock (table : Table) : Prop :=
  table.source = .nothing ∨ table ∈ defaults

/-- Such a table is built from columns that are as declared. -/
theorem Stock.exists_build_eq {table : Table} (stock : table.Stock) (settings : Settings) :
    ∃ columns, List.Forall₂ Frame.Column.Declared columns table.columns ∧
      table.build settings = (Frame.ofColumns columns).mapError Frame.Defect.report := by
  rcases stock with noSource | isDefault
  · exact ⟨_, Frame.declared_emptyColumns table.columns, by rw [build, noSource, Frame.ofSchema]⟩
  · have each : ∀ default ∈ defaults, ∃ columns,
        List.Forall₂ Frame.Column.Declared columns default.columns ∧
          default.build settings = (Frame.ofColumns columns).mapError Frame.Defect.report :=
      forall_mem_defaults.mpr
        ⟨⟨_, RoleColumns.declared_toColumns (.synthesize settings), rfl⟩,
          ⟨_, RolesView.declared_ofColumns (.synthesize settings), rfl⟩,
          ⟨_, Membership.declared_toColumns (Membership.listed settings), rfl⟩⟩
    exact each table isDefault

theorem Stock.exists_ofColumns_eq {table : Table} (stock : table.Stock) {settings : Settings}
    {frame : Frame} (built : table.build settings = .ok frame) :
    ∃ columns, List.Forall₂ Frame.Column.Declared columns table.columns ∧
      Frame.ofColumns columns = .ok frame := by
  rcases stock.exists_build_eq settings with ⟨columns, declared, made⟩
  rw [made, Frame.mapError_report_eq_ok_iff] at built
  exact ⟨columns, declared, built⟩

theorem Stock.conforms {table : Table} (stock : table.Stock) {settings : Settings}
    {frame : Frame} (built : table.build settings = .ok frame) :
    frame.Conforms table.columns := by
  rcases stock.exists_ofColumns_eq built with ⟨columns, declared, made⟩
  exact Frame.conforms_of_ofColumns declared made

theorem Stock.schemaMap_eq {table : Table} (stock : table.Stock) {settings : Settings}
    {frame : Frame} (built : table.build settings = .ok frame) :
    table.schemaMap = frame.dtypes := by
  rcases stock.exists_ofColumns_eq built with ⟨columns, -, made⟩
  have declared := (stock.conforms built).declared
  have names := Frame.nodup_of_ofColumns made
  rw [Frame.map_name_of_declared declared] at names
  rw [schemaMap, schemaMap_of_nodup names, ← Frame.dtypes_of_declared declared]

/-- A table without a source is built exactly when its columns have different names. -/
theorem exists_build_eq_ok_iff {table : Table} (noSource : table.source = .nothing)
    (settings : Settings) :
    (∃ frame, table.build settings = .ok frame) ↔
      (table.columns.map ColumnDef.name).Nodup := by
  simp only [build, noSource, Frame.mapError_report_eq_ok_iff]
  exact Frame.exists_ofSchema_eq_ok_iff

end Table

end RoleCatalog

import RoleCatalog.Proofs.Frame.Rows
import RoleCatalog.Proofs.Role.MaskedView
import RoleCatalog.Proofs.Role.UniqueIndexes

/-! # What the settings change

The settings reach the tables about roles through one cell and one filter. The name of
the bootstrap superuser is shown as it is in the row of that role and nowhere else;
leaving out the predefined roles leaves the row of the bootstrap superuser; and no name,
not even that of a predefined role, gives a right to another role.
-/

namespace RoleCatalog

namespace Frame

/-- The frames have the same columns and, apart from one, the same cells. -/
structure AgreeExceptAt (left right : Frame) (row : Nat) (name : String) : Prop where
  dtypes : left.dtypes = right.dtypes
  cells : ∀ otherRow otherName, otherRow ≠ row ∨ otherName ≠ name →
    left.cell? otherRow otherName = right.cell? otherRow otherName

def superuserRows (frame : Frame) : List Nat :=
  frame.rowsWith "oid" (.uint32 RoleOid.bootstrapSuperuser)

end Frame

/-- The columns that say what a role has the right to do. -/
def Role.rights : List String :=
  ["rolsuper", "rolcreaterole", "rolcreatedb", "rolcanlogin", "rolreplication", "rolbypassrls"]

namespace Table

/-- The settings act on the table through one cell and one filter, and grant nothing. -/
structure Confined (table : Table) : Prop where
  name : ∀ (first second : String) (shown : Bool), ∃ left right row,
    table.build ⟨first, shown⟩ = .ok left ∧ table.build ⟨second, shown⟩ = .ok right ∧
    left.superuserRows = [row] ∧ right.superuserRows = [row] ∧
    left.cell? row "rolname" = some (.string first) ∧
    right.cell? row "rolname" = some (.string second) ∧
    left.AgreeExceptAt right row "rolname"
  listing : ∀ name : String, ∃ full alone,
    table.build ⟨name, true⟩ = .ok full ∧ table.build ⟨name, false⟩ = .ok alone ∧
    alone = full.select full.superuserRows
  rights : ∀ settings, ∃ frame row,
    table.build settings = .ok frame ∧ frame.superuserRows = [row] ∧
    ∀ right ∈ Role.rights, frame.rowsWith right (.boolean true) = [row]

end Table

/-! ## Cells of one row -/

def RoleRow.cell (row : RoleRow) : String → Cell
  | "oid" => .uint32 row.oid
  | "rolname" => .string row.rolname
  | "rolsuper" => .boolean row.rolsuper
  | "rolinherit" => .boolean row.rolinherit
  | "rolcreaterole" => .boolean row.rolcreaterole
  | "rolcreatedb" => .boolean row.rolcreatedb
  | "rolcanlogin" => .boolean row.rolcanlogin
  | "rolreplication" => .boolean row.rolreplication
  | "rolbypassrls" => .boolean row.rolbypassrls
  | "rolconnlimit" => .int32 row.rolconnlimit
  | "rolpassword" => row.rolpassword.elim .null .string
  | "rolvaliduntil" => row.rolvaliduntil.elim .null .string
  | _ => .null

def RolesView.cell (row : RoleRow) : String → Cell
  | "rolpassword" => .string passwordMask
  | name => row.cell name

namespace RoleRow

theorem cell_rename {name : String} (other : name ≠ "rolname") (row : RoleRow)
    (rolname : String) : { row with rolname := rolname }.cell name = row.cell name := by
  unfold cell
  grind

theorem cell_right (settings : Settings) (role : Role) :
    ∀ right ∈ Role.rights, (ofRole settings role).cell right = .boolean role.isBootstrap := by
  simp [Role.rights, cell, ofRole]

theorem cell_oid_beq (settings : Settings) (role : Role) :
    ((ofRole settings role).cell "oid" == .uint32 RoleOid.bootstrapSuperuser) =
      role.isBootstrap := by
  rw [Role.isBootstrap, Bool.eq_iff_iff, beq_iff_eq, beq_iff_eq]
  exact ⟨Cell.uint32.inj, congrArg Cell.uint32⟩

end RoleRow

/-! ## Tables over rows of roles -/

/-- The frame with these columns for the roles that are listed. -/
def Frame.ofRoles (columns : RoleColumns → List Frame.Column) (settings : Settings) : Frame :=
  ⟨columns (.synthesize settings)⟩

/-- What the two tables over rows of roles have in common. Their columns hold a cell for
each row, and `cell` says which. -/
structure Table.OverRoles (table : Table) (columns : RoleColumns → List Frame.Column)
    (cell : RoleRow → String → Cell) : Prop where
  build_eq : ∀ settings, table.build settings = .ok (.ofRoles columns settings)
  declared : ∀ source, List.Forall₂ Frame.Column.Declared (columns source) table.columns
  tabulates : ∀ rows, Frame.Tabulates ⟨columns (.ofRows rows)⟩ rows cell
  select_eq : ∀ rows positions,
    Frame.select ⟨columns (.ofRows rows)⟩ positions = ⟨columns (.ofRows (pick positions rows))⟩
  shown : "oid" :: "rolname" :: Role.rights ⊆ table.columns.map ColumnDef.name
  cell_eq : ∀ row, ∀ name ∈ "oid" :: "rolname" :: Role.rights, cell row name = row.cell name
  cell_rename : ∀ (row : RoleRow) (rolname name : String), name ≠ "rolname" →
    cell { row with rolname := rolname } name = cell row name

theorem Table.overRoles_authid :
    Table.authid.OverRoles RoleColumns.toColumns RoleRow.cell where
  build_eq := build_authid
  declared := RoleColumns.declared_toColumns
  tabulates rows := by
    simp [Frame.Tabulates, RoleColumns.toColumns, RoleColumns.ofRows, RoleRow.cell]
  select_eq rows positions := by
    simp [Frame.select, RoleColumns.toColumns, RoleColumns.ofRows, pick_map]
  shown := by decide
  cell_eq _ _ _ := rfl
  cell_rename row rolname name other := row.cell_rename other rolname

theorem Table.overRoles_roles :
    Table.roles.OverRoles RolesView.ofColumns RolesView.cell where
  build_eq := build_roles
  declared := RolesView.declared_ofColumns
  tabulates rows := by
    simp [Frame.Tabulates, RolesView.ofColumns, RoleColumns.size, RoleColumns.ofRows,
      RolesView.cell, RoleRow.cell]
  select_eq rows positions := by
    simp [Frame.select, RolesView.ofColumns, RoleColumns.size, RoleColumns.ofRows, pick_map]
  shown := by decide
  cell_eq row := by simp [Role.rights, RolesView.cell]
  cell_rename row rolname name other := by
    unfold RolesView.cell
    split
    · rfl
    · exact row.cell_rename other rolname

/-! ## Rows of the bootstrap superuser -/

namespace Role

/-- The bootstrap superuser is listed first under all settings, and once. -/
theorem findIdxs_isBootstrap_listed (settings : Settings) :
    (listed settings).findIdxs isBootstrap = [0] := by
  rcases settings with ⟨name, shown⟩
  have both : ∀ shown, (wellKnown.filter fun role => role.isBootstrap || shown).findIdxs
      isBootstrap = [0] := by
    decide +kernel
  exact both shown

theorem exists_listed_isBootstrap (settings : Settings) :
    ∃ role, (listed settings)[0]? = some role ∧ role.isBootstrap = true := by
  have first : 0 ∈ (listed settings).findIdxs isBootstrap := by
    rw [findIdxs_isBootstrap_listed]
    exact List.mem_singleton_self 0
  rcases List.mem_findIdxs_iff_exists_getElem_pos.mp first with ⟨bound, isFirst⟩
  exact ⟨(listed settings)[0], List.getElem?_eq_getElem bound, isFirst⟩

theorem isBootstrap_eq_false_of_ne_zero {settings : Settings} {row : Nat} {role : Role}
    (listed : (listed settings)[row]? = some role) (other : row ≠ 0) :
    role.isBootstrap = false := by
  rcases List.getElem?_eq_some_iff.mp listed with ⟨bound, rfl⟩
  rw [← Bool.not_eq_true]
  intro first
  have member := List.mem_findIdxs_iff_exists_getElem_pos.mpr ⟨bound, first⟩
  rw [findIdxs_isBootstrap_listed] at member
  exact other (List.mem_singleton.mp member)

theorem filter_isBootstrap_listed (name : String) :
    (listed ⟨name, true⟩).filter isBootstrap = listed ⟨name, false⟩ := by
  simp [listed]

end Role

namespace Table.OverRoles

section Frames

variable {table : Table} {columns : RoleColumns → List Frame.Column}
  {cell : RoleRow → String → Cell} (common : table.OverRoles columns cell)

include common

theorem dtypes_eq (first second : Settings) :
    (Frame.ofRoles columns first).dtypes = (Frame.ofRoles columns second).dtypes :=
  (Frame.dtypes_of_declared (common.declared _)).trans
    (Frame.dtypes_of_declared (common.declared _)).symm

theorem mem_names_iff {settings : Settings} {name : String} :
    name ∈ (Frame.ofRoles columns settings).columns.map Frame.Column.name ↔
      name ∈ table.columns.map ColumnDef.name := by
  rw [Frame.ofRoles, Frame.map_name_of_declared (common.declared _)]

theorem cell?_eq {name : String} (declared : name ∈ table.columns.map ColumnDef.name)
    (settings : Settings) (row : Nat) :
    (Frame.ofRoles columns settings).cell? row name =
      (Role.listed settings)[row]?.map fun role =>
        cell (RoleRow.ofRole settings role) name := by
  have tabulates := common.tabulates (RoleRow.synthesize settings)
  have cells := tabulates.cell?_eq (common.mem_names_iff.mpr declared) row
  rw [RoleRow.synthesize, List.getElem?_map, Option.map_map] at cells
  exact cells

theorem cell_ofRole_congr {role : Role} {name : String}
    (other : role.isBootstrap = false ∨ name ≠ "rolname") (first second : String)
    (shown : Bool) :
    cell (RoleRow.ofRole ⟨first, shown⟩ role) name =
      cell (RoleRow.ofRole ⟨second, shown⟩ role) name := by
  rcases other with predefined | other
  · have sameRow : RoleRow.ofRole ⟨first, shown⟩ role = RoleRow.ofRole ⟨second, shown⟩ role := by
      simp only [RoleRow.ofRole, Role.displayName_of_not_isBootstrap predefined]
    rw [sameRow]
  · exact common.cell_rename (RoleRow.ofRole ⟨second, shown⟩ role)
      (role.displayName ⟨first, shown⟩) name other

/-- Two names show in the row of the bootstrap superuser and in the column of names. -/
theorem agreeExceptAt (first second : String) (shown : Bool) :
    (Frame.ofRoles columns ⟨first, shown⟩).AgreeExceptAt (.ofRoles columns ⟨second, shown⟩) 0
      "rolname" where
  dtypes := common.dtypes_eq ⟨first, shown⟩ ⟨second, shown⟩
  cells row name other := by
    by_cases declared : name ∈ table.columns.map ColumnDef.name
    · rw [common.cell?_eq declared, common.cell?_eq declared]
      apply Option.map_congr
      intro role listed
      exact common.cell_ofRole_congr
        (other.imp_left (Role.isBootstrap_eq_false_of_ne_zero listed)) first second shown
    · rw [Frame.cell?_eq_none (mt common.mem_names_iff.mp declared),
        Frame.cell?_eq_none (mt common.mem_names_iff.mp declared)]

theorem cell?_rolname (settings : Settings) :
    (Frame.ofRoles columns settings).cell? 0 "rolname" =
      some (.string settings.bootstrapSuperuser) := by
  rcases Role.exists_listed_isBootstrap settings with ⟨role, listed, isFirst⟩
  have shown : "rolname" ∈ "oid" :: "rolname" :: Role.rights := by decide
  rw [common.cell?_eq (common.shown shown), listed, Option.map_some, common.cell_eq _ _ shown]
  exact congrArg (fun name => some (Cell.string name))
    (Role.displayName_of_isBootstrap isFirst settings)

theorem rowsWith_eq {name : String} (shown : name ∈ "oid" :: "rolname" :: Role.rights)
    (value : Cell) (settings : Settings) :
    (Frame.ofRoles columns settings).rowsWith name value =
      (RoleRow.synthesize settings).findIdxs fun row => row.cell name == value := by
  have tabulates := common.tabulates (RoleRow.synthesize settings)
  refine (tabulates.rowsWith_eq (common.mem_names_iff.mpr (common.shown shown)) value).trans ?_
  simp only [common.cell_eq _ name shown]

theorem rowsWith_eq_singleton {name : String}
    (shown : name ∈ "oid" :: "rolname" :: Role.rights) {value : Cell} {settings : Settings}
    (first : ∀ role, ((RoleRow.ofRole settings role).cell name == value) = role.isBootstrap) :
    (Frame.ofRoles columns settings).rowsWith name value = [0] := by
  rw [common.rowsWith_eq shown, RoleRow.synthesize, List.findIdxs_map,
    ← Role.findIdxs_isBootstrap_listed settings]
  exact congrArg (fun test => (Role.listed settings).findIdxs test) (funext first)

theorem superuserRows_eq (settings : Settings) :
    (Frame.ofRoles columns settings).superuserRows = [0] :=
  common.rowsWith_eq_singleton List.mem_cons_self (RoleRow.cell_oid_beq settings)

/-- The rows that stay when the predefined roles are left out. -/
theorem ofRoles_eq_select (name : String) :
    Frame.ofRoles columns ⟨name, false⟩ =
      (Frame.ofRoles columns ⟨name, true⟩).select
        (Frame.ofRoles columns ⟨name, true⟩).superuserRows := by
  have kept : (RoleRow.synthesize ⟨name, true⟩).filter
      (fun row => row.cell "oid" == .uint32 RoleOid.bootstrapSuperuser) =
        RoleRow.synthesize ⟨name, false⟩ := by
    rw [RoleRow.synthesize, List.filter_map, RoleRow.synthesize,
      ← Role.filter_isBootstrap_listed]
    simp only [Function.comp_def, RoleRow.cell_oid_beq]
    rfl
  rw [Frame.superuserRows, common.rowsWith_eq List.mem_cons_self]
  refine Eq.symm ((common.select_eq _ _).trans ?_)
  rw [pick_findIdxs, kept]
  rfl

theorem confined : table.Confined where
  name first second shown :=
    ⟨_, _, 0, common.build_eq ⟨first, shown⟩, common.build_eq ⟨second, shown⟩,
      common.superuserRows_eq _, common.superuserRows_eq _, common.cell?_rolname _,
      common.cell?_rolname _, common.agreeExceptAt first second shown⟩
  listing name :=
    ⟨_, _, common.build_eq ⟨name, true⟩, common.build_eq ⟨name, false⟩,
      common.ofRoles_eq_select name⟩
  rights settings := by
    refine ⟨_, 0, common.build_eq settings, common.superuserRows_eq settings, ?_⟩
    intro right member
    apply common.rowsWith_eq_singleton (List.mem_cons_of_mem _ (List.mem_cons_of_mem _ member))
    intro role
    rw [RoleRow.cell_right settings role right member]
    cases role.isBootstrap <;> rfl

end Frames

end Table.OverRoles

/-- Under two names of the bootstrap superuser the tables of roles differ in one cell at
most, in which the names are shown as they are; without the predefined roles they are
the rows of the bootstrap superuser alone; and that role alone has rights, all of them.
The grants do not depend on the name. -/
theorem Role.settings_reach_name_and_listing :
    Table.authid.Confined ∧ Table.roles.Confined ∧
      ∀ (first second : String) (shown : Bool), ∃ grants,
        Table.authMembers.build ⟨first, shown⟩ = .ok grants ∧
          Table.authMembers.build ⟨second, shown⟩ = .ok grants :=
  ⟨Table.overRoles_authid.confined, Table.overRoles_roles.confined, fun first second shown =>
    ⟨_, Table.build_authMembers ⟨first, shown⟩, Table.build_authMembers ⟨second, shown⟩⟩⟩

/-! The name of a predefined role stands in two rows, and only the first has rights. -/

example :
    let frame := Frame.ofRoles RoleColumns.toColumns ⟨"pg_monitor", true⟩
    frame.rowsWith "rolname" (.string "pg_monitor") = [0, 4] ∧
      frame.rowsWith "rolsuper" (.boolean true) = [0] := by decide +kernel

end RoleCatalog

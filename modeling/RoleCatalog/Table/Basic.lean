import RoleCatalog.Authid
import RoleCatalog.Role.Membership
import RoleCatalog.Role.RolesView
import RoleCatalog.Table.Schema

/-! A table has a qualified name, columns and a source of rows. The three tables about
roles take theirs from the settings. Another table is empty or brings a source of its
own, which can fail with any report. -/

namespace RoleCatalog

namespace Table

inductive Source where
  | nothing
  | authid
  | roles
  | authMembers
  | given (rows : Settings → Except Report Frame)

end Table

structure Table where
  schema : String
  name : String
  columns : List ColumnDef
  source : Table.Source

namespace Table

def ofColumns (schema name : String) (columns : List ColumnDef) : Table :=
  ⟨schema, name, columns, .nothing⟩

def defaultSchema : String :=
  "pg_catalog"

def authid : Table :=
  ⟨Authid.descriptor.schema, Authid.descriptor.relname, Authid.columns, .authid⟩

def roles : Table where
  schema := defaultSchema
  name := "pg_roles"
  columns :=
    [⟨"rolname", .name, 1, false⟩,
     ⟨"rolsuper", .bool, 2, false⟩,
     ⟨"rolinherit", .bool, 3, false⟩,
     ⟨"rolcreaterole", .bool, 4, false⟩,
     ⟨"rolcreatedb", .bool, 5, false⟩,
     ⟨"rolcanlogin", .bool, 6, false⟩,
     ⟨"rolreplication", .bool, 7, false⟩,
     ⟨"rolconnlimit", .int4, 8, false⟩,
     ⟨"rolpassword", .text, 9, false⟩,
     ⟨"rolvaliduntil", .timestampTz, 10, true⟩,
     ⟨"rolbypassrls", .bool, 11, false⟩,
     ⟨"rolconfig", .text, 12, true⟩,
     ⟨"oid", .oid, 13, false⟩]
  source := .roles

def authMembers : Table where
  schema := defaultSchema
  name := "pg_auth_members"
  columns :=
    [⟨"oid", .oid, 1, false⟩,
     ⟨"roleid", .oid, 2, false⟩,
     ⟨"member", .oid, 3, false⟩,
     ⟨"grantor", .oid, 4, false⟩,
     ⟨"admin_option", .bool, 5, false⟩,
     ⟨"inherit_option", .bool, 6, false⟩,
     ⟨"set_option", .bool, 7, false⟩]
  source := .authMembers

def defaults : List Table :=
  [authid, roles, authMembers]

theorem forall_mem_defaults {motive : Table → Prop} :
    (∀ table ∈ defaults, motive table) ↔ motive authid ∧ motive roles ∧ motive authMembers := by
  simp [defaults]

theorem authid_mem_defaults : authid ∈ defaults :=
  List.mem_cons_self

def build (table : Table) (settings : Settings) : Except Report Frame :=
  let columns := RoleColumns.synthesize settings
  let grants := Membership.listed settings
  match table.source with
  | .nothing => (Frame.ofSchema table.columns).mapError Frame.Defect.report
  | .authid => columns.toFrame.mapError Frame.Defect.report
  | .roles => (Frame.ofColumns (RolesView.ofColumns columns)).mapError Frame.Defect.report
  | .authMembers => (Frame.ofColumns (Membership.toColumns grants)).mapError Frame.Defect.report
  | .given rows => rows settings

def schemaMap (table : Table) : List (String × Dtype) :=
  RoleCatalog.schemaMap table.columns

end Table

end RoleCatalog

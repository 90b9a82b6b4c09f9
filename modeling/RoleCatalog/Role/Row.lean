import RoleCatalog.Frame
import RoleCatalog.Role.Basic

/-! Rows of the role tables. The bootstrap superuser holds every right; a predefined
role only inherits, and cannot log in. `RoleColumns` keeps the same data a list
per column; such lists can also come from elsewhere, with lengths that differ. -/

namespace RoleCatalog

structure RoleRow where
  oid : Oid
  rolname : String
  rolsuper : Bool
  rolinherit : Bool
  rolcreaterole : Bool
  rolcreatedb : Bool
  rolcanlogin : Bool
  rolreplication : Bool
  rolbypassrls : Bool
  rolconnlimit : Int32
  rolpassword : Option String
  rolvaliduntil : Option String
deriving Repr, DecidableEq

namespace RoleRow

def ofRole (settings : Settings) (role : Role) : RoleRow where
  oid := role.oid
  rolname := role.displayName settings
  rolsuper := role.isBootstrap
  rolinherit := true
  rolcreaterole := role.isBootstrap
  rolcreatedb := role.isBootstrap
  rolcanlogin := role.isBootstrap
  rolreplication := role.isBootstrap
  rolbypassrls := role.isBootstrap
  rolconnlimit := -1
  rolpassword := none
  rolvaliduntil := none

end RoleRow

def Role.listed (settings : Settings) : List Role :=
  Role.wellKnown.filter fun role => role.isBootstrap || settings.includePredefined

def RoleRow.synthesize (settings : Settings) : List RoleRow :=
  (Role.listed settings).map (RoleRow.ofRole settings)

structure RoleColumns where
  oid : List Oid
  rolname : List String
  rolsuper : List Bool
  rolinherit : List Bool
  rolcreaterole : List Bool
  rolcreatedb : List Bool
  rolcanlogin : List Bool
  rolreplication : List Bool
  rolbypassrls : List Bool
  rolconnlimit : List Int32
  rolpassword : List (Option String)
  rolvaliduntil : List (Option String)
deriving Repr, DecidableEq

namespace RoleColumns

def ofRows (rows : List RoleRow) : RoleColumns where
  oid := rows.map RoleRow.oid
  rolname := rows.map RoleRow.rolname
  rolsuper := rows.map RoleRow.rolsuper
  rolinherit := rows.map RoleRow.rolinherit
  rolcreaterole := rows.map RoleRow.rolcreaterole
  rolcreatedb := rows.map RoleRow.rolcreatedb
  rolcanlogin := rows.map RoleRow.rolcanlogin
  rolreplication := rows.map RoleRow.rolreplication
  rolbypassrls := rows.map RoleRow.rolbypassrls
  rolconnlimit := rows.map RoleRow.rolconnlimit
  rolpassword := rows.map RoleRow.rolpassword
  rolvaliduntil := rows.map RoleRow.rolvaliduntil

def synthesize (settings : Settings) : RoleColumns :=
  ofRows (RoleRow.synthesize settings)

/-- The identifiers set the number of rows. -/
def size (columns : RoleColumns) : Nat :=
  columns.oid.length

/-! The columns of `pg_authid`, in the order of their attribute numbers. -/

def toColumns (columns : RoleColumns) : List Frame.Column :=
  [.ofOids "oid" columns.oid,
   .ofTexts "rolname" columns.rolname,
   .ofBools "rolsuper" columns.rolsuper,
   .ofBools "rolinherit" columns.rolinherit,
   .ofBools "rolcreaterole" columns.rolcreaterole,
   .ofBools "rolcreatedb" columns.rolcreatedb,
   .ofBools "rolcanlogin" columns.rolcanlogin,
   .ofBools "rolreplication" columns.rolreplication,
   .ofBools "rolbypassrls" columns.rolbypassrls,
   .ofInts "rolconnlimit" columns.rolconnlimit,
   .ofOptionalTexts "rolpassword" columns.rolpassword,
   .ofOptionalTexts "rolvaliduntil" columns.rolvaliduntil]

def toFrame (columns : RoleColumns) : Except Frame.Defect Frame :=
  Frame.ofColumns columns.toColumns

end RoleColumns

end RoleCatalog

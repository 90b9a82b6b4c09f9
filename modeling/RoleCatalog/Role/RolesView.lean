import RoleCatalog.Role.Row

/-! The view `pg_roles` shows the same roles to everyone. It has a mask in place of
every password, and ends with the identifiers. -/

namespace RoleCatalog.RolesView

def passwordMask : String :=
  "********"

def ofColumns (columns : RoleColumns) : List Frame.Column :=
  [.ofTexts "rolname" columns.rolname,
   .ofBools "rolsuper" columns.rolsuper,
   .ofBools "rolinherit" columns.rolinherit,
   .ofBools "rolcreaterole" columns.rolcreaterole,
   .ofBools "rolcreatedb" columns.rolcreatedb,
   .ofBools "rolcanlogin" columns.rolcanlogin,
   .ofBools "rolreplication" columns.rolreplication,
   .ofInts "rolconnlimit" columns.rolconnlimit,
   .ofTexts "rolpassword" (List.replicate columns.size passwordMask),
   .ofOptionalTexts "rolvaliduntil" columns.rolvaliduntil,
   .ofBools "rolbypassrls" columns.rolbypassrls,
   .ofOptionalTexts "rolconfig" (List.replicate columns.size none),
   .ofOids "oid" columns.oid]

end RoleCatalog.RolesView

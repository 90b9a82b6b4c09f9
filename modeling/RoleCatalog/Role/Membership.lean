import RoleCatalog.Frame
import RoleCatalog.Role.Basic

/-! Grants made when the catalog is first set up, each of which says that `member`
belongs to `roleId`. They are between predefined roles, so `pg_auth_members` has
none when those are left out. -/

namespace RoleCatalog

structure Membership where
  oid : Oid
  roleId : Oid
  member : Oid
  grantor : Oid
  adminOption : Bool
  inheritOption : Bool
  setOption : Bool
deriving Repr, DecidableEq

namespace Membership

def bootstrap : List Membership :=
  [⟨6300, RoleOid.pgReadAllSettings, RoleOid.pgMonitor, RoleOid.bootstrapSuperuser,
      false, true, true⟩,
   ⟨6301, RoleOid.pgReadAllStats, RoleOid.pgMonitor, RoleOid.bootstrapSuperuser,
      false, true, true⟩,
   ⟨6302, RoleOid.pgStatScanTables, RoleOid.pgMonitor, RoleOid.bootstrapSuperuser,
      false, true, true⟩]

def listed (settings : Settings) : List Membership :=
  if settings.includePredefined then bootstrap else []

def toColumns (grants : List Membership) : List Frame.Column :=
  [.ofOids "oid" (grants.map Membership.oid),
   .ofOids "roleid" (grants.map Membership.roleId),
   .ofOids "member" (grants.map Membership.member),
   .ofOids "grantor" (grants.map Membership.grantor),
   .ofBools "admin_option" (grants.map Membership.adminOption),
   .ofBools "inherit_option" (grants.map Membership.inheritOption),
   .ofBools "set_option" (grants.map Membership.setOption)]

end Membership

/-- The roles that `member` belongs to through the bootstrap grants. -/
def Role.memberships (member : Oid) : List Role :=
  (Membership.bootstrap.filter fun grant => grant.member == member).filterMap
    fun grant => Role.ofOid? grant.roleId

end RoleCatalog

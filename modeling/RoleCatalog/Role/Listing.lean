import RoleCatalog.Json.Writer
import RoleCatalog.Role.Basic

/-! The well-known roles as JSON. A listing has an object for each role, with its keys in
alphabetical order. The object with the number of the bootstrap superuser is given the name
from the settings. -/

namespace RoleCatalog.Role

open Json

def members (role : Role) : List (String × Value) :=
  [("oid", .ofInt role.oid.toNat), ("symbol", .string role.symbol),
    ("name", .string role.name), ("description", .string role.description)]

def toJson (role : Role) : Value :=
  .ofMembers role.members

/-- The role is known by the number in its object. -/
def renameBootstrap (settings : Settings) (members : List (String × Value)) :
    List (String × Value) :=
  if members.lookup "oid" = some (.ofInt RoleOid.bootstrapSuperuser.toNat) then
    insertMember "name" (.string settings.bootstrapSuperuser) members
  else members

def listingEntry (settings : Settings) (role : Role) : Value :=
  .ofMembers (renameBootstrap settings (sortMembers role.members))

def listing (settings : Settings) : String :=
  (Value.ofList (wellKnown.map (listingEntry settings))).pretty

end RoleCatalog.Role

import RoleCatalog.Role.Basic
import RoleCatalog.Scan

/-! A table of well-known roles is consistent when no identifier and no name repeats,
every predefined role has a reserved name, and there is one bootstrap superuser.
The table of this library is. -/

namespace RoleCatalog.Role

inductive Defect where
  | duplicateOid (oid : Oid)
  | duplicateName (name : String)
  | unreservedName (name : String)
  | bootstrapCount (count : Nat)
deriving Repr, DecidableEq

def Defect.report : Defect → Report
  | .duplicateOid oid => ⟨.conflict, "duplicate_role_oid", s!"role OID {oid.toNat} assigned twice"⟩
  | .duplicateName name =>
      ⟨.conflict, "duplicate_role_name", s!"role name \"{name}\" assigned twice"⟩
  | .unreservedName name =>
      ⟨.internal, "unreserved_role_name", s!"predefined role \"{name}\" lacks the pg_ prefix"⟩
  | .bootstrapCount count =>
      ⟨.internal, "bootstrap_count", s!"expected one bootstrap superuser, found {count}"⟩

/-- The defect of one role, given the roles before it. -/
def roleDefect? (preceding : List Role) (role : Role) : Option Defect :=
  if preceding.any fun other => other.oid == role.oid then some (.duplicateOid role.oid)
  else if preceding.any fun other => other.name == role.name then some (.duplicateName role.name)
  else if !role.isBootstrap && !isReservedName role.name then some (.unreservedName role.name)
  else none

def countDefect? (roles : List Role) : Option Defect :=
  if roles.countP isBootstrap = 1 then none
  else some (.bootstrapCount (roles.countP isBootstrap))

def defect? (roles : List Role) : Option Defect :=
  (firstDefect? roleDefect? [] roles).or (countDefect? roles)

def validate (roles : List Role) : Except Defect Unit :=
  match defect? roles with
  | some defect => .error defect
  | none => .ok ()

theorem validate_eq_ok_iff {roles : List Role} :
    validate roles = .ok () ↔ defect? roles = none := by
  unfold validate
  split <;> simp_all

theorem validate_wellKnown : validate wellKnown = .ok () :=
  validate_eq_ok_iff.mpr (by decide +kernel)

end RoleCatalog.Role

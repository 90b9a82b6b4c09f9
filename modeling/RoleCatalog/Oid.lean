/-! Object identifiers and attribute numbers. -/

namespace RoleCatalog

abbrev Oid := UInt32

namespace Oid

def invalid : Oid :=
  0

def isValid (oid : Oid) : Bool :=
  oid != invalid

end Oid

structure NamedOid where
  name : String
  oid : Oid
deriving Repr, DecidableEq

/-! Attribute numbers count the columns of a row from one. -/

abbrev AttrNumber := Int16

end RoleCatalog

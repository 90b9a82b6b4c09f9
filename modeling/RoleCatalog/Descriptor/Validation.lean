import RoleCatalog.Descriptor.Basic
import RoleCatalog.Scan

/-! A descriptor is validated by a search for its first defect. The declared
number of columns comes first, then the columns in order, then the object
identifiers, then the indexes. That the attribute numbers have no gap is not
asked for by itself: numbers that are in range and do not repeat leave none. -/

namespace RoleCatalog.Descriptor

inductive Defect where
  | nattsMismatch (declared defined : Nat)
  | attnumOutOfRange (column : String) (attnum : AttrNumber) (count : Nat)
  | duplicateAttnum (attnum : AttrNumber)
  | duplicateColumn (column : String)
  | invalidOid (owner : String)
  | duplicateOid (oid : Oid) (owner : String)
  | emptyIndex (index : String)
  | unknownIndexKey (index key : String)
deriving Repr, DecidableEq

namespace Defect

def code : Defect → String
  | .nattsMismatch .. => "natts_mismatch"
  | .attnumOutOfRange .. => "attnum_out_of_range"
  | .duplicateAttnum .. => "duplicate_attnum"
  | .duplicateColumn .. => "duplicate_column"
  | .invalidOid .. => "invalid_oid"
  | .duplicateOid .. => "duplicate_oid"
  | .emptyIndex .. => "empty_index"
  | .unknownIndexKey .. => "unknown_index_key"

def message (relname : String) : Defect → String
  | .nattsMismatch declared defined =>
      s!"{relname}: declared {declared} attributes but defines {defined}"
  | .attnumOutOfRange column attnum count =>
      s!"{relname}.{column}: attribute number {attnum.toInt} outside 1..={count}"
  | .duplicateAttnum attnum => s!"{relname}: attribute number {attnum.toInt} used twice"
  | .duplicateColumn column => s!"{relname}: column \"{column}\" defined twice"
  | .invalidOid owner => s!"{relname}: {owner} has invalid OID"
  | .duplicateOid oid owner => s!"{relname}: OID {oid.toNat} assigned to {owner} is already used"
  | .emptyIndex index => s!"{relname}: index {index} has no key columns"
  | .unknownIndexKey index key => s!"{relname}: index {index} references missing column {key}"

def report (relname : String) (defect : Defect) : Report :=
  ⟨.internal, defect.code, defect.message relname⟩

end Defect

def nattsDefect? (descriptor : Descriptor) : Option Defect :=
  if descriptor.natts.toNat = descriptor.columns.length then none
  else some (.nattsMismatch descriptor.natts.toNat descriptor.columns.length)

abbrev InRange (attnum : AttrNumber) (count : Nat) : Prop :=
  1 ≤ attnum.toInt ∧ attnum.toInt ≤ count

/-- The defect of one column, given the columns before it. -/
def columnDefect? (count : Nat) (preceding : List ColumnDef) (column : ColumnDef) :
    Option Defect :=
  if ¬ InRange column.attnum count then
    some (.attnumOutOfRange column.name column.attnum count)
  else if preceding.any fun other => other.attnum == column.attnum then
    some (.duplicateAttnum column.attnum)
  else if preceding.any fun other => decide (Text.SameFold other.name column.name) then
    some (.duplicateColumn column.name)
  else none

/-- The defect of one object identifier, given those before it. -/
def oidDefect? (preceding : List NamedOid) (entry : NamedOid) : Option Defect :=
  if ¬ entry.oid.isValid then some (.invalidOid entry.name)
  else if preceding.any fun other => other.oid == entry.oid then
    some (.duplicateOid entry.oid entry.name)
  else none

def indexDefect? (descriptor : Descriptor) (index : IndexDef) : Option Defect :=
  if index.keys.isEmpty then some (.emptyIndex index.name)
  else
    (index.keys.find? fun key => (descriptor.columnByName? key).isNone).map
      (.unknownIndexKey index.name)

def defect? (descriptor : Descriptor) : Option Defect :=
  descriptor.nattsDefect?
    |>.or (firstDefect? (columnDefect? descriptor.columns.length) [] descriptor.columns)
    |>.or (firstDefect? oidDefect? [] descriptor.relationOids)
    |>.or (descriptor.indexes.findSome? descriptor.indexDefect?)

def validate (descriptor : Descriptor) : Except Defect Unit :=
  match descriptor.defect? with
  | some defect => .error defect
  | none => .ok ()

theorem validate_eq_ok_iff {descriptor : Descriptor} :
    descriptor.validate = .ok () ↔ descriptor.defect? = none := by
  unfold validate
  split <;> simp_all

end RoleCatalog.Descriptor

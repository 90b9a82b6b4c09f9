import RoleCatalog.Authid
import RoleCatalog.Descriptor.Validation
import Mathlib.Data.List.Nodup
import Mathlib.Data.List.Perm.Subperm

/-! # Well-formed descriptors

Validation accepts exactly the well-formed descriptors. It looks at one item after
another, so for each list there is a statement of when a scan finds no defect. That
the attribute numbers leave no gap is a matter of counting: as many different numbers
as columns, all between one and the number of columns, are all of those numbers.
-/

namespace RoleCatalog.Descriptor

/-- The numbers of the relation itself, then those of its indexes. -/
def objectOids (descriptor : Descriptor) : List Oid :=
  [descriptor.relationId, descriptor.rowtypeId, descriptor.toastTable, descriptor.toastIndex] ++
    descriptor.indexes.map IndexDef.oid

def attnums (descriptor : Descriptor) : List Int :=
  descriptor.columns.map fun column => column.attnum.toInt

/-- The numbers from one up to a count. -/
def ordinals (count : Nat) : List Int :=
  (List.range count).map fun index : Nat => (index : Int) + 1

structure WellFormed (descriptor : Descriptor) : Prop where
  natts : descriptor.natts.toNat = descriptor.columns.length
  attnums : descriptor.attnums.Perm (ordinals descriptor.columns.length)
  names : descriptor.columns.Pairwise fun left right => ¬ Text.SameFold left.name right.name
  oids_nonzero : ∀ oid ∈ descriptor.objectOids, oid ≠ 0
  oids_distinct : descriptor.objectOids.Nodup
  keys_nonempty : ∀ index ∈ descriptor.indexes, index.keys ≠ []
  keys_named : ∀ index ∈ descriptor.indexes, ∀ key ∈ index.keys,
    ∃ column ∈ descriptor.columns, Text.SameFold column.name key

/-! ## Attribute numbers -/

theorem mem_ordinals {count : Nat} {value : Int} :
    value ∈ ordinals count ↔ 1 ≤ value ∧ value ≤ count := by
  rw [ordinals, List.mem_map]
  constructor
  · rintro ⟨index, member, rfl⟩
    have bound := List.mem_range.mp member
    omega
  · rintro ⟨positive, bound⟩
    exact ⟨(value - 1).toNat, List.mem_range.mpr (by omega), by omega⟩

theorem nodup_ordinals (count : Nat) : (ordinals count).Nodup := by
  apply List.Nodup.map _ List.nodup_range
  intro left right equal
  have shifted : (left : Int) + 1 = (right : Int) + 1 := equal
  omega

@[simp] theorem length_ordinals (count : Nat) : (ordinals count).length = count := by
  simp [ordinals]

/-- Different numbers in a range that is no longer than their list are all of it. -/
theorem perm_ordinals_iff (values : List Int) :
    values.Perm (ordinals values.length) ↔
      values.Nodup ∧ ∀ value ∈ values, 1 ≤ value ∧ value ≤ values.length := by
  constructor
  · intro perm
    refine ⟨perm.nodup_iff.mpr (nodup_ordinals _), ?_⟩
    intro value member
    exact mem_ordinals.mp (perm.mem_iff.mp member)
  · rintro ⟨nodup, bounds⟩
    have subset : values ⊆ ordinals values.length := by
      intro value member
      exact mem_ordinals.mpr (bounds value member)
    apply (List.subperm_of_subset nodup subset).perm_of_length_le
    exact Nat.le_of_eq (length_ordinals _)

@[simp] theorem length_attnums (descriptor : Descriptor) :
    descriptor.attnums.length = descriptor.columns.length := by
  simp [Descriptor.attnums]

theorem nodup_attnums_iff (descriptor : Descriptor) :
    descriptor.attnums.Nodup ↔
      descriptor.columns.Pairwise fun left right => left.attnum ≠ right.attnum := by
  rw [Descriptor.attnums, List.Nodup, List.pairwise_map]
  simp only [ne_eq, Int16.toInt_inj]

theorem perm_attnums_iff (descriptor : Descriptor) :
    descriptor.attnums.Perm (ordinals descriptor.columns.length) ↔
      (descriptor.columns.Pairwise fun left right => left.attnum ≠ right.attnum) ∧
        ∀ column ∈ descriptor.columns, InRange column.attnum descriptor.columns.length := by
  have counted := perm_ordinals_iff descriptor.attnums
  rw [length_attnums, nodup_attnums_iff] at counted
  rw [counted]
  simp [Descriptor.attnums, InRange]

/-- A number that fits the type of attribute numbers has to be at the end of the range. -/
theorem length_le_of_perm_ordinals {descriptor : Descriptor}
    (perm : descriptor.attnums.Perm (ordinals descriptor.columns.length)) :
    descriptor.columns.length ≤ 32767 := by
  by_contra large
  have last : (descriptor.columns.length : Int) ∈ descriptor.attnums :=
    perm.mem_iff.mpr (mem_ordinals.mpr (by omega))
  rcases List.mem_map.mp last with ⟨column, -, equal⟩
  have bound := Int16.toInt_lt column.attnum
  omega

/-! ## Scans without a defect -/

theorem nattsDefect?_eq_none_iff (descriptor : Descriptor) :
    descriptor.nattsDefect? = none ↔ descriptor.natts.toNat = descriptor.columns.length := by
  simp [nattsDefect?]

theorem columnDefect?_eq_none_iff (count : Nat) (preceding : List ColumnDef)
    (column : ColumnDef) :
    columnDefect? count preceding column = none ↔
      InRange column.attnum count ∧ ∀ other ∈ preceding,
        other.attnum ≠ column.attnum ∧ ¬ Text.SameFold other.name column.name := by
  unfold columnDefect?
  by_cases inRange : InRange column.attnum count
  · rw [if_neg (not_not_intro inRange)]
    simp only [List.any_eq_true, beq_iff_eq, decide_eq_true_eq]
    split
    · grind
    · split <;> grind
  · rw [if_pos inRange]
    simp only [inRange, false_and, reduceCtorEq]

theorem columnsDefect?_eq_none_iff (descriptor : Descriptor) :
    firstDefect? (columnDefect? descriptor.columns.length) [] descriptor.columns = none ↔
      descriptor.attnums.Perm (ordinals descriptor.columns.length) ∧
        descriptor.columns.Pairwise fun left right => ¬ Text.SameFold left.name right.name := by
  rw [firstDefect?_eq_none_iff (columnDefect?_eq_none_iff descriptor.columns.length),
    perm_attnums_iff, List.pairwise_and_iff]
  simp only [List.not_mem_nil, false_implies, implies_true, and_true]
  exact ⟨fun ⟨ranges, numbers, names⟩ => ⟨⟨numbers, ranges⟩, names⟩,
    fun ⟨⟨numbers, ranges⟩, names⟩ => ⟨ranges, numbers, names⟩⟩

theorem oidDefect?_eq_none_iff (preceding : List NamedOid) (entry : NamedOid) :
    oidDefect? preceding entry = none ↔
      entry.oid ≠ 0 ∧ ∀ other ∈ preceding, other.oid ≠ entry.oid := by
  unfold oidDefect?
  simp only [Oid.isValid, Oid.invalid, bne_iff_ne, ne_eq, not_not, List.any_eq_true, beq_iff_eq]
  split
  · simp_all
  · split <;> grind

theorem map_oid_relationOids (descriptor : Descriptor) :
    descriptor.relationOids.map NamedOid.oid = descriptor.objectOids := by
  simp [relationOids, objectOids]

theorem oidsDefect?_eq_none_iff (descriptor : Descriptor) :
    firstDefect? oidDefect? [] descriptor.relationOids = none ↔
      (∀ oid ∈ descriptor.objectOids, oid ≠ 0) ∧ descriptor.objectOids.Nodup := by
  rw [firstDefect?_eq_none_iff oidDefect?_eq_none_iff, ← map_oid_relationOids,
    List.forall_mem_map, List.Nodup, List.pairwise_map]
  simp

theorem columnByName?_eq_none_iff {descriptor : Descriptor} {name : String} :
    descriptor.columnByName? name = none ↔
      ∀ column ∈ descriptor.columns, ¬ Text.SameFold column.name name := by
  simp [columnByName?]

theorem indexDefect?_eq_none_iff (descriptor : Descriptor) (index : IndexDef) :
    descriptor.indexDefect? index = none ↔
      index.keys ≠ [] ∧ ∀ key ∈ index.keys,
        ∃ column ∈ descriptor.columns, Text.SameFold column.name key := by
  unfold indexDefect?
  split
  · simp_all
  · rename_i nonempty
    rw [Option.map_eq_none_iff, List.find?_eq_none]
    simp only [Option.isNone_iff_eq_none, columnByName?_eq_none_iff]
    simp_all

/-! ## Validation -/

theorem accepted_iff_wellFormed (descriptor : Descriptor) :
    descriptor.validate = .ok () ↔ descriptor.WellFormed := by
  rw [validate_eq_ok_iff, defect?, Option.or_eq_none_iff, Option.or_eq_none_iff,
    Option.or_eq_none_iff, nattsDefect?_eq_none_iff, columnsDefect?_eq_none_iff,
    oidsDefect?_eq_none_iff, List.findSome?_eq_none_iff]
  simp only [indexDefect?_eq_none_iff]
  constructor
  · rintro ⟨⟨⟨natts, attnums, names⟩, nonzero, distinct⟩, indexes⟩
    exact ⟨natts, attnums, names, nonzero, distinct,
      fun index member => (indexes index member).1,
      fun index member => (indexes index member).2⟩
  · intro wellFormed
    exact ⟨⟨⟨wellFormed.natts, wellFormed.attnums, wellFormed.names⟩,
      wellFormed.oids_nonzero, wellFormed.oids_distinct⟩,
      fun index member =>
        ⟨wellFormed.keys_nonempty index member, wellFormed.keys_named index member⟩⟩

/-- Validation accepts the well-formed descriptors and no others. Attribute numbers have
sixteen bits, so a well-formed descriptor has at most 32767 columns. -/
theorem validate_eq_ok_iff_wellFormed (descriptor : Descriptor) :
    (descriptor.validate = .ok () ↔ descriptor.WellFormed) ∧
      (descriptor.validate = .ok () → descriptor.columns.length ≤ 32767) := by
  refine ⟨accepted_iff_wellFormed descriptor, ?_⟩
  intro valid
  exact length_le_of_perm_ordinals ((accepted_iff_wellFormed descriptor).mp valid).attnums

theorem authid_validate_wellFormed :
    Authid.descriptor.validate = .ok () ∧ Authid.descriptor.WellFormed ∧
      Authid.descriptor.columns.length ≤ 32767 := by
  have valid : Authid.descriptor.validate = .ok () := by decide +kernel
  have general := validate_eq_ok_iff_wellFormed Authid.descriptor
  exact ⟨valid, general.1.mp valid, general.2 valid⟩

end RoleCatalog.Descriptor

import RoleCatalog.Proofs.Descriptor.WellFormed

/-! # Addresses of columns

In a descriptor that validation accepts, attribute numbers and names are addresses of
columns. Both searches take the first match, so that they find the column that was
meant rests on what validation asks for: no two columns share a number, or a name up to
ASCII case. The columns can stand in any order.
-/

namespace RoleCatalog.Descriptor

variable {descriptor : Descriptor}

/-! ## Columns have one number and one name -/

theorem WellFormed.inRange (wellFormed : descriptor.WellFormed) {column : ColumnDef}
    (member : column ∈ descriptor.columns) :
    InRange column.attnum descriptor.columns.length :=
  ((perm_attnums_iff descriptor).mp wellFormed.attnums).2 column member

theorem WellFormed.eq_of_attnum_eq (wellFormed : descriptor.WellFormed)
    {left right : ColumnDef} (leftMember : left ∈ descriptor.columns)
    (rightMember : right ∈ descriptor.columns) (same : left.attnum = right.attnum) :
    left = right := by
  have nodup : descriptor.attnums.Nodup :=
    wellFormed.attnums.nodup_iff.mpr (nodup_ordinals _)
  exact List.inj_on_of_nodup_map nodup leftMember rightMember (congrArg Int16.toInt same)

theorem WellFormed.eq_of_sameFold (wellFormed : descriptor.WellFormed)
    {left right : ColumnDef} (leftMember : left ∈ descriptor.columns)
    (rightMember : right ∈ descriptor.columns) (same : Text.SameFold left.name right.name) :
    left = right := by
  have nodup : (descriptor.columns.map fun column => Text.fold column.name).Nodup :=
    List.pairwise_map.mpr wellFormed.names
  exact List.inj_on_of_nodup_map nodup leftMember rightMember same

/-! ## The two searches -/

theorem WellFormed.column?_eq_some_iff (wellFormed : descriptor.WellFormed)
    {attnum : AttrNumber} {column : ColumnDef} :
    descriptor.column? attnum = some column ↔
      column ∈ descriptor.columns ∧ column.attnum = attnum := by
  have search : descriptor.columns.find? (fun column => column.attnum == attnum) =
      some column ↔ column ∈ descriptor.columns ∧ column.attnum = attnum := by
    rw [find?_eq_some_iff_of_unique, beq_iff_eq]
    intro left leftMember right rightMember leftNumber rightNumber
    exact wellFormed.eq_of_attnum_eq leftMember rightMember
      ((eq_of_beq leftNumber).trans (eq_of_beq rightNumber).symm)
  rw [column?]
  split
  · rename_i small
    simp only [reduceCtorEq, false_iff]
    rintro ⟨member, rfl⟩
    have positive := (wellFormed.inRange member).1
    exact absurd (Int16.lt_iff_toInt_lt.mp small) (Int.not_lt.mpr positive)
  · exact search

theorem WellFormed.columnByName?_eq_some_iff (wellFormed : descriptor.WellFormed)
    {name : String} {column : ColumnDef} :
    descriptor.columnByName? name = some column ↔
      column ∈ descriptor.columns ∧ Text.SameFold column.name name := by
  rw [columnByName?, find?_eq_some_iff_of_unique, decide_eq_true_iff]
  intro left leftMember right rightMember leftName rightName
  exact wellFormed.eq_of_sameFold leftMember rightMember
    ((of_decide_eq_true leftName).trans (of_decide_eq_true rightName).symm)

/-- Every number up to the number of columns is in use. -/
theorem WellFormed.exists_attnum_iff (wellFormed : descriptor.WellFormed)
    (attnum : AttrNumber) :
    (∃ column ∈ descriptor.columns, column.attnum = attnum) ↔
      InRange attnum descriptor.natts.toNat := by
  have member := wellFormed.attnums.mem_iff (a := attnum.toInt)
  rw [mem_ordinals, ← wellFormed.natts, Descriptor.attnums, List.mem_map] at member
  simpa only [Int16.toInt_inj] using member

/-! ## Numbers of names -/

theorem WellFormed.column?_attnum (wellFormed : descriptor.WellFormed) {column : ColumnDef}
    (member : column ∈ descriptor.columns) :
    descriptor.column? column.attnum = some column :=
  wellFormed.column?_eq_some_iff.mpr ⟨member, rfl⟩

theorem WellFormed.attnumOf_eq_ok_iff (wellFormed : descriptor.WellFormed) {name : String}
    {attnum : AttrNumber} :
    descriptor.attnumOf name = .ok attnum ↔ ∃ column ∈ descriptor.columns,
      Text.SameFold column.name name ∧ column.attnum = attnum := by
  rw [Descriptor.attnumOf_eq_ok_iff]
  simp only [wellFormed.columnByName?_eq_some_iff, and_assoc]

/-- The number of a name leads to the column that goes by the name. -/
theorem WellFormed.column?_of_attnumOf (wellFormed : descriptor.WellFormed) {name : String}
    {attnum : AttrNumber} (found : descriptor.attnumOf name = .ok attnum) :
    ∃ column, descriptor.column? attnum = some column ∧
      descriptor.columnByName? name = some column := by
  rcases wellFormed.attnumOf_eq_ok_iff.mp found with ⟨column, member, same, rfl⟩
  exact ⟨column, wellFormed.column?_attnum member,
    wellFormed.columnByName?_eq_some_iff.mpr ⟨member, same⟩⟩

theorem WellFormed.sameFold_of_attnumOf_eq (wellFormed : descriptor.WellFormed)
    {left right : String} {attnum : AttrNumber}
    (leftFound : descriptor.attnumOf left = .ok attnum)
    (rightFound : descriptor.attnumOf right = .ok attnum) : Text.SameFold left right := by
  rcases wellFormed.attnumOf_eq_ok_iff.mp leftFound with ⟨column, member, leftName, rfl⟩
  rcases wellFormed.attnumOf_eq_ok_iff.mp rightFound with ⟨other, otherMember, rightName, same⟩
  rw [wellFormed.eq_of_attnum_eq otherMember member same] at rightName
  exact leftName.symm.trans rightName

theorem WellFormed.exists_attnumOf_key (wellFormed : descriptor.WellFormed)
    {index : IndexDef} (indexMember : index ∈ descriptor.indexes) {key : String}
    (keyMember : key ∈ index.keys) :
    ∃ attnum, descriptor.attnumOf key = .ok attnum ∧
      InRange attnum descriptor.natts.toNat := by
  rcases wellFormed.keys_named index indexMember key keyMember with ⟨column, member, same⟩
  exact ⟨column.attnum, wellFormed.attnumOf_eq_ok_iff.mpr ⟨column, member, same, rfl⟩,
    (wellFormed.exists_attnum_iff column.attnum).mp ⟨column, member, rfl⟩⟩

theorem attnumOf_of_columnByName?_eq_none {name : String}
    (missing : descriptor.columnByName? name = none) :
    descriptor.attnumOf name = .error ⟨name, descriptor.relname⟩ := by
  rw [attnumOf, missing]

theorem exists_attnumOf_eq_ok_iff (name : String) :
    (∃ attnum, descriptor.attnumOf name = .ok attnum) ↔
      (descriptor.columnByName? name).isSome = true := by
  simp only [Descriptor.attnumOf_eq_ok_iff, Option.isSome_iff_exists]
  constructor
  · rintro ⟨attnum, column, found, -⟩
    exact ⟨column, found⟩
  · rintro ⟨column, found⟩
    exact ⟨column.attnum, column, found, rfl⟩

/-! ## The law -/

/-- The columns of an accepted descriptor are numbered from one to their declared count,
and a column is found under its number and under every spelling of its name. The number
of a name leads to the column of that name; different names have different numbers, and
the keys of indexes have one. A name without a column is reported as unknown. -/
theorem columns_addressed_uniquely (descriptor : Descriptor)
    (valid : descriptor.validate = .ok ()) :
    (∀ attnum : AttrNumber, (descriptor.column? attnum).isSome = true ↔
      1 ≤ attnum.toInt ∧ attnum.toInt ≤ descriptor.natts.toNat) ∧
    (∀ attnum column, descriptor.column? attnum = some column →
      column ∈ descriptor.columns ∧ column.attnum = attnum) ∧
    (∀ column ∈ descriptor.columns, descriptor.column? column.attnum = some column ∧
      ∀ name, Text.SameFold name column.name → descriptor.columnByName? name = some column) ∧
    (∀ name, (∃ attnum, descriptor.attnumOf name = .ok attnum) ↔
      (descriptor.columnByName? name).isSome = true) ∧
    (∀ name attnum, descriptor.attnumOf name = .ok attnum → ∃ column,
      descriptor.column? attnum = some column ∧ descriptor.columnByName? name = some column) ∧
    (∀ left right leftAttnum rightAttnum, descriptor.attnumOf left = .ok leftAttnum →
      descriptor.attnumOf right = .ok rightAttnum → ¬ Text.SameFold left right →
      leftAttnum ≠ rightAttnum) ∧
    (∀ index ∈ descriptor.indexes, ∀ key ∈ index.keys, ∃ attnum,
      descriptor.attnumOf key = .ok attnum ∧
        1 ≤ attnum.toInt ∧ attnum.toInt ≤ descriptor.natts.toNat) ∧
    (∀ name, descriptor.columnByName? name = none → ∃ cause,
      descriptor.attnumOf name = .error cause ∧
        cause.report.kind = .notFound ∧ cause.report.code = "unknown_column") := by
  have wellFormed := (accepted_iff_wellFormed descriptor).mp valid
  refine ⟨?_, ?_, ?_, exists_attnumOf_eq_ok_iff, ?_, ?_, ?_, ?_⟩
  · intro attnum
    simp only [Option.isSome_iff_exists, wellFormed.column?_eq_some_iff]
    exact wellFormed.exists_attnum_iff attnum
  · intro attnum column found
    exact wellFormed.column?_eq_some_iff.mp found
  · intro column member
    refine ⟨wellFormed.column?_attnum member, ?_⟩
    intro name same
    exact wellFormed.columnByName?_eq_some_iff.mpr ⟨member, same.symm⟩
  · intro name attnum found
    exact wellFormed.column?_of_attnumOf found
  · rintro left right attnum _ leftFound rightFound different rfl
    exact different (wellFormed.sameFold_of_attnumOf_eq leftFound rightFound)
  · intro index indexMember key keyMember
    exact wellFormed.exists_attnumOf_key indexMember keyMember
  · intro name missing
    exact ⟨_, attnumOf_of_columnByName?_eq_none missing, rfl, rfl⟩

/-- Columns that do not stand in the order of their numbers. -/
def unordered : Descriptor where
  schema := "public"
  relname := "accounts"
  relationId := 9000
  rowtypeId := 9001
  toastTable := 9002
  toastIndex := 9003
  shared := false
  natts := 2
  indexes := [⟨9004, "accounts_id_index", ["ID"], true⟩]
  columns := [⟨"Note", .text, 2, true⟩, ⟨"Id", .oid, 1, false⟩]

theorem unordered_addressed :
    unordered.validate = .ok () ∧
      (unordered.column? 2).isSome = true ∧ ¬ (unordered.column? 3).isSome = true ∧
      unordered.columnByName? "nOTE" = some ⟨"Note", .text, 2, true⟩ ∧
      (∃ column, unordered.column? 1 = some column ∧
        unordered.columnByName? "id" = some column) ∧
      (1 : AttrNumber) ≠ 2 ∧
      (∃ attnum, unordered.attnumOf "ID" = .ok attnum ∧
        1 ≤ attnum.toInt ∧ attnum.toInt ≤ 2) ∧
      (∃ cause, unordered.attnumOf "name" = .error cause ∧
        cause.report.kind = .notFound ∧ cause.report.code = "unknown_column") := by
  have valid : unordered.validate = .ok () := by decide +kernel
  rcases columns_addressed_uniquely unordered valid with
    ⟨numbers, -, columns, -, names, different, keys, unknown⟩
  have note : (⟨"Note", .text, 2, true⟩ : ColumnDef) ∈ unordered.columns :=
    List.mem_cons_self
  exact ⟨valid, (numbers 2).mpr (by decide), fun some => absurd ((numbers 3).mp some) (by decide),
    (columns _ note).2 "nOTE" (by decide), names "id" 1 rfl,
    different "id" "note" 1 2 rfl rfl (by decide),
    keys _ List.mem_cons_self "ID" List.mem_cons_self, unknown "name" rfl⟩

end RoleCatalog.Descriptor

import RoleCatalog.Descriptor.Json
import RoleCatalog.Proofs.Json.Condensed
import RoleCatalog.Proofs.Json.Readable

/-! # The JSON text of a descriptor

The JSON form of a descriptor has every field, and its compact text is read back as this
form. So the text tells any two descriptors apart.
-/

namespace RoleCatalog

namespace Json

theorem Value.ofList_injective : Function.Injective Value.ofList := by
  intro left right equal
  have items : Values.ofList left = Values.ofList right := Value.array.inj equal
  rw [← Values.toList_ofList left, items, Values.toList_ofList]

theorem Value.ofMembers_injective : Function.Injective Value.ofMembers := by
  intro left right equal
  have members : Members.ofList left = Members.ofList right := Value.object.inj equal
  rw [← Members.toList_ofList left, members, Members.toList_ofList]

theorem Value.ofInt_injective : Function.Injective Value.ofInt := by
  intro left right equal
  exact congrArg Decimal.significand (Value.number.inj equal)

theorem Value.ofInt_toNat_inj {left right : Nat} :
    Value.ofInt left = Value.ofInt right ↔ left = right :=
  Value.ofInt_injective.eq_iff.trans Int.ofNat_inj

end Json

open Json

/-! ## Every field is in the JSON form -/

theorem ColumnType.label_injective : Function.Injective ColumnType.label := by
  intro left right equal
  have known := ColumnType.ofLabel?_label left
  rw [equal, ColumnType.ofLabel?_label] at known
  exact (Option.some.inj known).symm

theorem ColumnDef.toJson_injective : Function.Injective ColumnDef.toJson := by
  rintro ⟨_, _, _, _⟩ ⟨_, _, _, _⟩ equal
  have members := Value.ofMembers_injective equal
  simp only [List.cons.injEq, Prod.mk.injEq, Value.string.injEq, Value.bool.injEq,
    Value.ofInt_injective.eq_iff, ColumnType.label_injective.eq_iff, Int16.toInt_inj,
    true_and, and_true] at members
  rcases members with ⟨rfl, rfl, rfl, rfl⟩
  rfl

theorem IndexDef.toJson_injective : Function.Injective IndexDef.toJson := by
  rintro ⟨_, _, _, _⟩ ⟨_, _, _, _⟩ equal
  have members := Value.ofMembers_injective equal
  have strings : Function.Injective Value.string := fun _ _ => Value.string.inj
  simp only [List.cons.injEq, Prod.mk.injEq, Value.string.injEq, Value.bool.injEq,
    Value.ofInt_toNat_inj, UInt32.toNat_inj, Value.ofList_injective.eq_iff,
    strings.list_map.eq_iff, true_and, and_true] at members
  rcases members with ⟨rfl, rfl, rfl, rfl⟩
  rfl

theorem Descriptor.toJson_injective : Function.Injective Descriptor.toJson := by
  rintro ⟨_, _, _, _, _, _, _, _, _, _⟩ ⟨_, _, _, _, _, _, _, _, _, _⟩ equal
  have members := Value.ofMembers_injective equal
  simp only [List.cons.injEq, Prod.mk.injEq, Value.string.injEq, Value.bool.injEq,
    Value.ofInt_toNat_inj, UInt32.toNat_inj, UInt64.toNat_inj, Value.ofList_injective.eq_iff,
    IndexDef.toJson_injective.list_map.eq_iff, ColumnDef.toJson_injective.list_map.eq_iff,
    true_and, and_true] at members
  rcases members with ⟨rfl, rfl, rfl, rfl, rfl, rfl, rfl, rfl, rfl, rfl⟩
  rfl

/-! ## The JSON form is read back -/

theorem Json.Value.Readable.ofOid {bound : Nat} (oid : Oid) :
    (Value.ofInt oid.toNat).Readable bound :=
  .ofInt (Nat.lt_trans oid.toNat_lt (by decide))

theorem ColumnDef.readable_toJson {bound : Nat} (column : ColumnDef) :
    column.toJson.Readable (bound + 1) := by
  have attnum : FitsWord column.attnum.toInt := by
    have lower := column.attnum.le_toInt
    have upper := column.attnum.toInt_lt
    omega
  apply Value.Readable.ofMembers
  simp only [List.forall_mem_cons]
  exact ⟨.string _, .string _, .ofInt attnum, .bool _, nofun⟩

theorem IndexDef.readable_toJson {bound : Nat} (index : IndexDef) :
    index.toJson.Readable (bound + 2) := by
  apply Value.Readable.ofMembers
  simp only [List.forall_mem_cons]
  exact ⟨.ofOid _, .string _, .ofList (List.forall_mem_map.mpr fun key _ => .string key), .bool _,
    nofun⟩

theorem Descriptor.readable_toJson (descriptor : Descriptor) : descriptor.toJson.Readable 4 := by
  have natts : FitsWord descriptor.natts.toNat := descriptor.natts.toNat_lt
  apply Value.Readable.ofMembers
  simp only [List.forall_mem_cons]
  exact ⟨.string _, .string _, .ofOid _, .ofOid _, .ofOid _, .ofOid _, .bool _, .ofInt natts,
    .ofList (List.forall_mem_map.mpr fun index _ => index.readable_toJson),
    .ofList (List.forall_mem_map.mpr fun column _ => column.readable_toJson), nofun⟩

theorem Descriptor.ofText?_compact_toJson (descriptor : Descriptor) :
    Value.ofText? descriptor.toJson.compact = some descriptor.toJson :=
  descriptor.readable_toJson.ofText?_compact (by decide)

/-- The pretty text of a descriptor differs from the compact one only in blanks and line
feeds outside of strings, and no other descriptor has the same compact text. -/
theorem Descriptor.layouts_agree_and_identify (descriptor other : Descriptor) :
    withoutLayout .outside descriptor.toJson.pretty.toList = descriptor.toJson.compact.toList ∧
    (descriptor.toJson.compact = other.toJson.compact ↔ descriptor = other) := by
  refine ⟨descriptor.toJson.withoutLayout_pretty, ?_, ?_⟩
  · intro same
    have read := descriptor.ofText?_compact_toJson
    rw [same, other.ofText?_compact_toJson] at read
    exact Descriptor.toJson_injective (Option.some.inj read).symm
  · rintro rfl
    rfl

end RoleCatalog

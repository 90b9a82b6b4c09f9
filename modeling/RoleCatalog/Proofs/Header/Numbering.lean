import RoleCatalog.Proofs.Descriptor.Addressing
import RoleCatalog.Proofs.Header.RoundTrip

/-! # The numbers in a header

What a program reads from the header of an accepted descriptor it can use as numbers of
objects and columns. The header keeps the columns in the order of their list and their
names as they are spelled, while searches go by attribute number or ignore letter case;
that both lead to the same column rests on validation.
-/

namespace RoleCatalog.Header

variable {descriptor : Descriptor} {symbols : Symbols} {roles : List Role}

/-- The binding has the number of a column for its value, and its symbol ends with the
name of that column. -/
def Addresses (descriptor : Descriptor) (binding : Binding) : Prop :=
  ∃ attnum column, attnum.toInt = binding.value ∧
    descriptor.column? attnum = some column ∧
    binding.symbol = "Anum_" ++ descriptor.relname ++ "_" ++ column.name ∧
    descriptor.attnumOf column.name = .ok attnum

/-! ## Objects -/

/-- With a symbol for each index no object is left out. -/
theorem map_value_objectBindings
    (parallel : symbols.indexes.length = descriptor.indexes.length) :
    (objectBindings descriptor symbols).map Binding.value =
      descriptor.objectOids.map fun oid => (oid.toNat : Int) := by
  have lengths : symbols.toList.length = descriptor.relationOids.length := by
    simp [Symbols.toList, Descriptor.relationOids, parallel]
  have objects : (symbols.toList.zip descriptor.relationOids).map Prod.snd =
      descriptor.relationOids := List.map_snd_zip (Nat.le_of_eq lengths.symm)
  calc
    (objectBindings descriptor symbols).map Binding.value =
        ((symbols.toList.zip descriptor.relationOids).map Prod.snd).map
          fun object => (object.oid.toNat : Int) := by
      rw [objectBindings, ← List.map_uncurry_zip_eq_zipWith, List.map_map, List.map_map]
      rfl
    _ = descriptor.objectOids.map fun oid => (oid.toNat : Int) := by
      rw [objects, ← Descriptor.map_oid_relationOids, List.map_map]
      rfl

theorem cast_toNat_injective : Function.Injective fun oid : Oid => (oid.toNat : Int) :=
  fun _ _ equal => UInt32.toNat_inj.mp (Int.ofNat_inj.mp equal)

theorem value_ne_zero_of_mem_objectBindings (wellFormed : descriptor.WellFormed)
    (parallel : symbols.indexes.length = descriptor.indexes.length) :
    ∀ object ∈ objectBindings descriptor symbols, object.value ≠ 0 := by
  intro object member zero
  have valueMember := List.mem_map_of_mem (f := Binding.value) member
  rw [map_value_objectBindings parallel, zero] at valueMember
  rcases List.mem_map.mp valueMember with ⟨oid, oidMember, oidZero⟩
  exact wellFormed.oids_nonzero oid oidMember (cast_toNat_injective oidZero)

theorem nodup_value_objectBindings (wellFormed : descriptor.WellFormed)
    (parallel : symbols.indexes.length = descriptor.indexes.length) :
    ((objectBindings descriptor symbols).map Binding.value).Nodup := by
  rw [map_value_objectBindings parallel]
  exact wellFormed.oids_distinct.map cast_toNat_injective

/-! ## Columns -/

theorem length_columnBindings (wellFormed : descriptor.WellFormed) :
    (columnBindings descriptor).length = descriptor.natts.toNat := by
  rw [columnBindings, List.length_map, wellFormed.natts]

theorem perm_value_columnBindings (wellFormed : descriptor.WellFormed) :
    ((columnBindings descriptor).map Binding.value).Perm
      (Descriptor.ordinals descriptor.natts.toNat) := by
  have values : (columnBindings descriptor).map Binding.value = descriptor.attnums :=
    List.map_map
  rw [values, wellFormed.natts]
  exact wellFormed.attnums

/-- Names that differ beyond letter case differ. -/
theorem nodup_symbol_columnBindings (wellFormed : descriptor.WellFormed) :
    ((columnBindings descriptor).map Binding.symbol).Nodup := by
  rw [columnBindings, List.map_map, List.Nodup, List.pairwise_map]
  apply wellFormed.names.imp
  intro left right different equal
  exact different (congrArg Text.fold ((String.append_right_inj _).mp equal))

theorem addresses_of_mem_columnBindings (wellFormed : descriptor.WellFormed) :
    ∀ binding ∈ columnBindings descriptor, Addresses descriptor binding := by
  intro binding member
  rcases List.mem_map.mp member with ⟨column, columnMember, rfl⟩
  exact ⟨column.attnum, column, rfl, wellFormed.column?_attnum columnMember, rfl,
    wellFormed.attnumOf_eq_ok_iff.mpr ⟨column, columnMember, rfl, rfl⟩⟩

/-! ## The round trip -/

theorem roundTrip_of_render {text : String}
    (rendered : render descriptor symbols roles = .ok text) :
    roundTrip descriptor symbols roles = (parse text).mapError .badDefine := by
  rw [roundTrip, rendered]
  rfl

theorem roundTrip_eq_ok (parallel : symbols.indexes.length = descriptor.indexes.length)
    (readable : Readable descriptor symbols roles)
    (fits : Text.FitsInt64 (nattsBinding descriptor).value) :
    roundTrip descriptor symbols roles = .ok (bindings descriptor symbols roles) := by
  rw [roundTrip_of_render (render_eq_ok_iff.mpr ⟨parallel, rfl⟩), parse_headerLines readable,
    if_pos fits]
  rfl

/-- A descriptor that is accepted has few columns. -/
theorem fitsInt64_nattsBinding (wellFormed : descriptor.WellFormed) :
    Text.FitsInt64 (nattsBinding descriptor).value := by
  have few := Descriptor.length_le_of_perm_ordinals wellFormed.attnums
  have natts := wellFormed.natts
  change Text.FitsInt64 (descriptor.natts.toNat : Int)
  omega

/-- The header of an accepted descriptor is read back without failure. The numbers of
its objects are different and not zero. After them there is one binding for each column:
together they number the columns from one to their count, their symbols are different,
and each leads by its number to the column that it names, as the name does to the
number. The count itself comes next. -/
theorem roundTrip_addresses_columns (descriptor : Descriptor) (symbols : Symbols)
    (roles : List Role) (valid : descriptor.validate = .ok ())
    (parallel : symbols.indexes.length = descriptor.indexes.length)
    (readable : Readable descriptor symbols roles) :
    ∃ objects columns rest,
      roundTrip descriptor symbols roles =
        .ok (objects ++ columns ++
          ⟨"Natts_" ++ descriptor.relname, descriptor.natts.toNat⟩ :: rest) ∧
      objects.length = 4 + descriptor.indexes.length ∧
      (∀ object ∈ objects, object.value ≠ 0) ∧
      (objects.map Binding.value).Nodup ∧
      columns.length = descriptor.natts.toNat ∧
      (columns.map Binding.value).Perm (Descriptor.ordinals descriptor.natts.toNat) ∧
      (columns.map Binding.symbol).Nodup ∧
      ∀ binding ∈ columns, Addresses descriptor binding := by
  have wellFormed := (Descriptor.accepted_iff_wellFormed descriptor).mp valid
  exact ⟨objectBindings descriptor symbols, columnBindings descriptor, roleBindings roles,
    roundTrip_eq_ok parallel readable (fitsInt64_nattsBinding wellFormed),
    length_objectBindings parallel,
    value_ne_zero_of_mem_objectBindings wellFormed parallel,
    nodup_value_objectBindings wellFormed parallel,
    length_columnBindings wellFormed,
    perm_value_columnBindings wellFormed,
    nodup_symbol_columnBindings wellFormed,
    addresses_of_mem_columnBindings wellFormed⟩

def unorderedSymbols : Symbols where
  relation := "AccountsRelationId"
  rowtype := "AccountsRowtypeId"
  toastTable := "AccountsToastTable"
  toastIndex := "AccountsToastIndex"
  indexes := ["AccountsIdIndexId"]

/-- The columns are numbered, although they do not stand in the order of their numbers. -/
theorem unordered_roundTrip :
    Descriptor.unordered.validate = .ok () ∧
      unorderedSymbols.indexes.length = Descriptor.unordered.indexes.length ∧
      Readable Descriptor.unordered unorderedSymbols [] ∧
      ∃ objects columns rest,
        roundTrip Descriptor.unordered unorderedSymbols [] =
          .ok (objects ++ columns ++ ⟨"Natts_accounts", 2⟩ :: rest) ∧
        objects.length = 5 ∧ (objects.map Binding.value).Nodup ∧ columns.length = 2 ∧
        (columns.map Binding.value).Perm [1, 2] ∧
        ∃ binding ∈ columns, binding.value = 1 ∧ Addresses Descriptor.unordered binding := by
  have valid : Descriptor.unordered.validate = .ok () := by decide +kernel
  have readable : Readable Descriptor.unordered unorderedSymbols [] :=
    ⟨by decide, by decide, by decide, by decide⟩
  rcases roundTrip_addresses_columns Descriptor.unordered unorderedSymbols [] valid rfl
    readable with ⟨objects, columns, rest, read, five, -, distinct, two, numbers, -, addresses⟩
  have first : 1 ∈ columns.map Binding.value := numbers.mem_iff.mpr (by decide)
  rcases List.mem_map.mp first with ⟨binding, member, one⟩
  exact ⟨valid, rfl, readable, objects, columns, rest, read, five, distinct, two, numbers,
    binding, member, one, addresses binding member⟩

end RoleCatalog.Header

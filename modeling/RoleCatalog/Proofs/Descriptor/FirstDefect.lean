import RoleCatalog.Proofs.Descriptor.WellFormed
import Mathlib.Order.Bounds.Basic

/-! # The first defect of a descriptor

A descriptor that is not accepted can have many defects, and validation reports one of
them. It takes the columns before the object identifiers and these before the indexes,
and of each list it reports the first item that is spoilt, with regard to the items
before it. So the report is a matter of the descriptor alone: where the least position
of a spoilt item is, and which of its faults is asked for first.
-/

namespace RoleCatalog

/-! ## Scans that stop -/

section Scan

variable {α δ : Type} (check : List α → α → Option δ)

/-- What the check says about the item at a position, given the items before it. -/
def defectAt (preceding items : List α) (position : Nat) : Option δ :=
  items[position]?.bind (check ((items.take position).reverse ++ preceding))

@[simp] theorem defectAt_nil (preceding : List α) (position : Nat) :
    defectAt check preceding [] position = none := by
  simp [defectAt]

@[simp] theorem defectAt_zero (preceding rest : List α) (item : α) :
    defectAt check preceding (item :: rest) 0 = check preceding item :=
  rfl

@[simp] theorem defectAt_succ (preceding rest : List α) (item : α) (position : Nat) :
    defectAt check preceding (item :: rest) (position + 1) =
      defectAt check (item :: preceding) rest position := by
  simp [defectAt]

variable {check}

theorem firstDefect?_eq_none_iff_defectAt (preceding items : List α) :
    firstDefect? check preceding items = none ↔
      ∀ position, defectAt check preceding items position = none := by
  induction items generalizing preceding with
  | nil => simp [firstDefect?]
  | cons item rest induction =>
      conv_rhs => rw [← Nat.and_forall_add_one]
      rw [firstDefect?, Option.or_eq_none_iff, induction]
      simp only [defectAt_zero, defectAt_succ]

theorem firstDefect?_eq_some_iff (preceding items : List α) (defect : δ) :
    firstDefect? check preceding items = some defect ↔
      ∃ position, defectAt check preceding items position = some defect ∧
        ∀ earlier < position, defectAt check preceding items earlier = none := by
  induction items generalizing preceding with
  | nil => simp [firstDefect?]
  | cons item rest induction =>
      conv_rhs => rw [← Nat.or_exists_add_one]
      rw [firstDefect?, Option.or_eq_some_iff, induction]
      simp only [Nat.forall_lt_succ_left, defectAt_zero, defectAt_succ]
      simp [and_left_comm]

/-- A search that looks at each item by itself is a scan. -/
theorem findSome?_eq_firstDefect? (find : α → Option δ) (preceding items : List α) :
    items.findSome? find = firstDefect? (fun _ => find) preceding items := by
  induction items generalizing preceding with
  | nil => rfl
  | cons item rest induction =>
      rw [List.findSome?_cons, firstDefect?, ← induction]
      cases find item <;> rfl

end Scan

namespace Descriptor

/-! ## The first of the spoilt items -/

/-- Where an item is spoilt, with regard to the items before it. -/
def spoiltAt {α : Type} (Spoilt : List α → α → Prop) (items : List α) : Set Nat :=
  {position | ∃ item, items[position]? = some item ∧ Spoilt (items.take position) item}

/-- The report is about the item at the least position of a spoilt one. -/
inductive FirstSpoilt {α : Type} (Spoilt : List α → α → Prop)
    (Reports : List α → α → Report → Prop) (items : List α) (report : Report) : Prop
  | intro {position : Nat} {item : α} (least : IsLeast (spoiltAt Spoilt items) position)
      (here : items[position]? = some item)
      (reports : Reports (items.take position) item report)

/-- The check stops at the spoilt items and reports them in this way. It is given the
earlier items with the nearest one first. -/
structure Judges {α : Type} (relname : String) (check : List α → α → Option Defect)
    (Spoilt : List α → α → Prop) (Reports : List α → α → Report → Prop) : Prop where
  spoilt : ∀ earlier item, Spoilt earlier item ↔ check earlier.reverse item ≠ none
  reports : ∀ earlier item report, Reports earlier item report ↔
    ∃ defect, check earlier.reverse item = some defect ∧ defect.report relname = report

namespace Judges

variable {α : Type} {relname : String} {check : List α → α → Option Defect}
  {Spoilt : List α → α → Prop} {Reports : List α → α → Report → Prop}
  (judges : Judges relname check Spoilt Reports)

include judges

theorem mem_spoiltAt {items : List α} {position : Nat} :
    position ∈ spoiltAt Spoilt items ↔ defectAt check [] items position ≠ none := by
  simp [spoiltAt, defectAt, judges.spoilt]

theorem firstDefect?_eq_none_iff {items : List α} :
    firstDefect? check [] items = none ↔ spoiltAt Spoilt items = ∅ := by
  rw [firstDefect?_eq_none_iff_defectAt, Set.eq_empty_iff_forall_notMem]
  simp only [judges.mem_spoiltAt, not_not]

theorem isLeast_spoiltAt {items : List α} {position : Nat} :
    IsLeast (spoiltAt Spoilt items) position ↔
      defectAt check [] items position ≠ none ∧
        ∀ earlier < position, defectAt check [] items earlier = none := by
  simp only [IsLeast, mem_lowerBounds, judges.mem_spoiltAt]
  refine and_congr_right fun _ => forall_congr' fun earlier => ?_
  rw [not_imp_comm, Nat.not_le]

theorem firstSpoilt_iff {items : List α} {report : Report} :
    FirstSpoilt Spoilt Reports items report ↔
      ∃ defect, firstDefect? check [] items = some defect ∧ defect.report relname = report := by
  have found {position : Nat} {item : α} (here : items[position]? = some item) :
      defectAt check [] items position = check (items.take position).reverse item := by
    rw [defectAt, here, List.append_nil]
    rfl
  simp only [firstDefect?_eq_some_iff]
  constructor
  · rintro ⟨least, here, reports⟩
    rcases (judges.reports _ _ _).mp reports with ⟨defect, stopped, reported⟩
    exact ⟨defect, ⟨_, (found here).trans stopped, (judges.isLeast_spoiltAt.mp least).2⟩,
      reported⟩
  · rintro ⟨defect, ⟨position, stopped, before⟩, reported⟩
    have least : IsLeast (spoiltAt Spoilt items) position := by
      apply judges.isLeast_spoiltAt.mpr ⟨_, before⟩
      rw [stopped]
      exact Option.some_ne_none defect
    rcases least.1 with ⟨item, here, -⟩
    rw [found here] at stopped
    exact ⟨least, here, (judges.reports _ _ _).mpr ⟨defect, stopped, reported⟩⟩

end Judges

/-! ## Columns -/

def RepeatsAttnum (earlier : List ColumnDef) (column : ColumnDef) : Prop :=
  ∃ other ∈ earlier, other.attnum = column.attnum

def RepeatsName (earlier : List ColumnDef) (column : ColumnDef) : Prop :=
  ∃ other ∈ earlier, Text.SameFold other.name column.name

def SpoiltColumn (count : Nat) (earlier : List ColumnDef) (column : ColumnDef) : Prop :=
  ¬ InRange column.attnum count ∨ RepeatsAttnum earlier column ∨ RepeatsName earlier column

/-- A number out of range is reported before one that repeats, and that before a name. -/
inductive ColumnReport (relname : String) (count : Nat) (earlier : List ColumnDef)
    (column : ColumnDef) : Report → Prop
  | attnumOutOfRange (outside : ¬ InRange column.attnum count) :
      ColumnReport relname count earlier column ⟨.internal, "attnum_out_of_range",
        relname ++ "." ++ column.name ++ ": attribute number " ++
          toString column.attnum.toInt ++ " outside 1..=" ++ toString count⟩
  | duplicateAttnum (inside : InRange column.attnum count)
      (repeats : RepeatsAttnum earlier column) :
      ColumnReport relname count earlier column ⟨.internal, "duplicate_attnum",
        relname ++ ": attribute number " ++ toString column.attnum.toInt ++ " used twice"⟩
  | duplicateColumn (inside : InRange column.attnum count)
      (fresh : ¬ RepeatsAttnum earlier column) (repeats : RepeatsName earlier column) :
      ColumnReport relname count earlier column ⟨.internal, "duplicate_column",
        relname ++ ": column \"" ++ column.name ++ "\" defined twice"⟩

theorem judges_columnDefect? (relname : String) (count : Nat) :
    Judges relname (columnDefect? count) (SpoiltColumn count) (ColumnReport relname count) where
  spoilt earlier column := by
    rw [ne_eq, columnDefect?_eq_none_iff, SpoiltColumn, RepeatsAttnum, RepeatsName]
    simp only [List.mem_reverse]
    grind
  reports earlier column report := by
    have attnums : (earlier.reverse.any fun other => other.attnum == column.attnum) = true ↔
        RepeatsAttnum earlier column := by
      simp [RepeatsAttnum]
    have names : (earlier.reverse.any fun other =>
        decide (Text.SameFold other.name column.name)) = true ↔ RepeatsName earlier column := by
      simp [RepeatsName]
    unfold columnDefect?
    constructor
    · rintro (outside | ⟨inside, repeats⟩ | ⟨inside, fresh, repeats⟩)
      · exact ⟨_, if_pos outside, rfl⟩
      · rw [if_neg (not_not_intro inside), if_pos (attnums.mpr repeats)]
        exact ⟨_, rfl, rfl⟩
      · rw [if_neg (not_not_intro inside), if_neg (mt attnums.mp fresh),
          if_pos (names.mpr repeats)]
        exact ⟨_, rfl, rfl⟩
    · rintro ⟨defect, stopped, rfl⟩
      split_ifs at stopped with inside number name
      · cases stopped
        exact .duplicateAttnum inside (attnums.mp number)
      · cases stopped
        exact .duplicateColumn inside (mt attnums.mpr number) (names.mp name)
      · cases stopped
        exact .attnumOutOfRange inside

/-! ## Object identifiers -/

def RepeatsOid (earlier : List NamedOid) (entry : NamedOid) : Prop :=
  ∃ other ∈ earlier, other.oid = entry.oid

def SpoiltOid (earlier : List NamedOid) (entry : NamedOid) : Prop :=
  entry.oid = 0 ∨ RepeatsOid earlier entry

inductive OidReport (relname : String) (earlier : List NamedOid) (entry : NamedOid) :
    Report → Prop
  | invalidOid (zero : entry.oid = 0) :
      OidReport relname earlier entry ⟨.internal, "invalid_oid",
        relname ++ ": " ++ entry.name ++ " has invalid OID"⟩
  | duplicateOid (nonzero : entry.oid ≠ 0) (repeats : RepeatsOid earlier entry) :
      OidReport relname earlier entry ⟨.internal, "duplicate_oid",
        relname ++ ": OID " ++ toString entry.oid.toNat ++ " assigned to " ++ entry.name ++
          " is already used"⟩

theorem judges_oidDefect? (relname : String) :
    Judges relname oidDefect? SpoiltOid (OidReport relname) where
  spoilt earlier entry := by
    rw [ne_eq, oidDefect?_eq_none_iff, SpoiltOid, RepeatsOid]
    simp only [List.mem_reverse]
    grind
  reports earlier entry report := by
    have valid : entry.oid.isValid = true ↔ entry.oid ≠ 0 := by
      simp [Oid.isValid, Oid.invalid]
    have oids : (earlier.reverse.any fun other => other.oid == entry.oid) = true ↔
        RepeatsOid earlier entry := by
      simp [RepeatsOid]
    unfold oidDefect?
    constructor
    · rintro (zero | ⟨nonzero, repeats⟩)
      · exact ⟨_, if_pos fun isValid => valid.mp isValid zero, rfl⟩
      · rw [if_neg (not_not_intro (valid.mpr nonzero)), if_pos (oids.mpr repeats)]
        exact ⟨_, rfl, rfl⟩
    · rintro ⟨defect, stopped, rfl⟩
      split_ifs at stopped with isValid number
      · cases stopped
        exact .duplicateOid (valid.mp isValid) (oids.mp number)
      · cases stopped
        exact .invalidOid (not_not.mp (mt valid.mpr isValid))

/-! ## Indexes -/

def NamesNoColumn (columns : List ColumnDef) (key : String) : Prop :=
  ∀ column ∈ columns, ¬ Text.SameFold column.name key

def SpoiltIndex (columns : List ColumnDef) (index : IndexDef) : Prop :=
  index.keys = [] ∨ ∃ key ∈ index.keys, NamesNoColumn columns key

inductive IndexReport (relname : String) (columns : List ColumnDef) (index : IndexDef) :
    Report → Prop
  | emptyIndex (empty : index.keys = []) :
      IndexReport relname columns index ⟨.internal, "empty_index",
        relname ++ ": index " ++ index.name ++ " has no key columns"⟩
  | unknownIndexKey {position : Nat} {key : String}
      (least : IsLeast (spoiltAt (fun _ => NamesNoColumn columns) index.keys) position)
      (here : index.keys[position]? = some key) :
      IndexReport relname columns index ⟨.internal, "unknown_index_key",
        relname ++ ": index " ++ index.name ++ " references missing column " ++ key⟩

theorem find?_eq_some_iff_isLeast {α : Type} {matching : α → Bool} {Matches : α → Prop}
    (matching_iff : ∀ item, matching item = true ↔ Matches item) {items : List α} {found : α} :
    items.find? matching = some found ↔
      ∃ position, IsLeast (spoiltAt (fun _ => Matches) items) position ∧
        items[position]? = some found := by
  rw [List.find?_eq_some_iff_getElem]
  constructor
  · rintro ⟨holds, position, bound, rfl, before⟩
    have here : items[position]? = some items[position] := List.getElem?_eq_getElem bound
    refine ⟨position, ⟨⟨_, here, (matching_iff _).mp holds⟩, ?_⟩, here⟩
    rintro other ⟨item, there, isMatch⟩
    by_contra less
    rcases List.getElem?_eq_some_iff.mp there with ⟨otherBound, rfl⟩
    have unmatched := before other (Nat.not_le.mp less)
    rw [(matching_iff _).mpr isMatch] at unmatched
    cases unmatched
  · rintro ⟨position, ⟨⟨item, there, isMatch⟩, least⟩, here⟩
    cases here.symm.trans there
    rcases List.getElem?_eq_some_iff.mp here with ⟨bound, equal⟩
    refine ⟨(matching_iff _).mpr isMatch, position, bound, equal, fun other less => ?_⟩
    have otherBound : other < items.length := Nat.lt_trans less bound
    rw [Bool.not_eq_true', ← Bool.not_eq_true, matching_iff]
    intro otherMatch
    exact Nat.not_le.mpr less (least ⟨_, List.getElem?_eq_getElem otherBound, otherMatch⟩)

theorem judges_indexDefect? (descriptor : Descriptor) :
    Judges descriptor.relname (fun _ => descriptor.indexDefect?)
      (fun _ => SpoiltIndex descriptor.columns)
      (fun _ => IndexReport descriptor.relname descriptor.columns) where
  spoilt _ index := by
    rw [ne_eq, indexDefect?_eq_none_iff, SpoiltIndex]
    unfold NamesNoColumn
    grind
  reports _ index report := by
    have unknown (key : String) : (descriptor.columnByName? key).isNone = true ↔
        NamesNoColumn descriptor.columns key := by
      rw [Option.isNone_iff_eq_none, columnByName?_eq_none_iff, NamesNoColumn]
    unfold indexDefect?
    constructor
    · rintro (empty | ⟨least, here⟩)
      · exact ⟨_, if_pos (List.isEmpty_iff.mpr empty), rfl⟩
      · have nonempty : ¬ index.keys.isEmpty = true := by
          intro empty
          rw [List.isEmpty_iff.mp empty] at here
          cases here
        rw [if_neg nonempty, (find?_eq_some_iff_isLeast unknown).mpr ⟨_, least, here⟩]
        exact ⟨_, rfl, rfl⟩
    · rintro ⟨defect, stopped, rfl⟩
      split_ifs at stopped with empty
      · cases stopped
        exact .emptyIndex (List.isEmpty_iff.mp empty)
      · rcases Option.map_eq_some_iff.mp stopped with ⟨key, found, rfl⟩
        rcases (find?_eq_some_iff_isLeast unknown).mp found with ⟨position, least, here⟩
        exact .unknownIndexKey least here

/-! ## Validation -/

/-- The lists are looked through one after the other, each as far as its first spoilt
item. -/
inductive FirstDefect (descriptor : Descriptor) : Report → Prop
  | natts (mismatch : descriptor.natts.toNat ≠ descriptor.columns.length) :
      FirstDefect descriptor ⟨.internal, "natts_mismatch",
        descriptor.relname ++ ": declared " ++ toString descriptor.natts.toNat ++
          " attributes but defines " ++ toString descriptor.columns.length⟩
  | column {report : Report} (natts : descriptor.natts.toNat = descriptor.columns.length)
      (first : FirstSpoilt (SpoiltColumn descriptor.columns.length)
        (ColumnReport descriptor.relname descriptor.columns.length) descriptor.columns report) :
      FirstDefect descriptor report
  | oid {report : Report} (natts : descriptor.natts.toNat = descriptor.columns.length)
      (columns : spoiltAt (SpoiltColumn descriptor.columns.length) descriptor.columns = ∅)
      (first : FirstSpoilt SpoiltOid (OidReport descriptor.relname) descriptor.relationOids
        report) :
      FirstDefect descriptor report
  | index {report : Report} (natts : descriptor.natts.toNat = descriptor.columns.length)
      (columns : spoiltAt (SpoiltColumn descriptor.columns.length) descriptor.columns = ∅)
      (oids : spoiltAt SpoiltOid descriptor.relationOids = ∅)
      (first : FirstSpoilt (fun _ => SpoiltIndex descriptor.columns)
        (fun _ => IndexReport descriptor.relname descriptor.columns) descriptor.indexes
        report) :
      FirstDefect descriptor report

theorem mapError_validate_eq_error_iff {descriptor : Descriptor} {report : Report} :
    descriptor.validate.mapError (Defect.report descriptor.relname) = .error report ↔
      ∃ defect, descriptor.defect? = some defect ∧
        defect.report descriptor.relname = report := by
  unfold validate
  cases descriptor.defect? <;> simp [Except.mapError]

theorem nattsDefect?_eq_some_iff {descriptor : Descriptor} {defect : Defect} :
    descriptor.nattsDefect? = some defect ↔
      descriptor.natts.toNat ≠ descriptor.columns.length ∧
        defect = .nattsMismatch descriptor.natts.toNat descriptor.columns.length := by
  unfold nattsDefect?
  split_ifs with equal
  · simp [equal]
  · simp [equal, eq_comm]

theorem defect?_eq_some_iff {descriptor : Descriptor} {defect : Defect} :
    descriptor.defect? = some defect ↔
      descriptor.nattsDefect? = some defect ∨
      descriptor.natts.toNat = descriptor.columns.length ∧
        (firstDefect? (columnDefect? descriptor.columns.length) [] descriptor.columns =
            some defect ∨
          spoiltAt (SpoiltColumn descriptor.columns.length) descriptor.columns = ∅ ∧
            (firstDefect? oidDefect? [] descriptor.relationOids = some defect ∨
              spoiltAt SpoiltOid descriptor.relationOids = ∅ ∧
                firstDefect? (fun _ => descriptor.indexDefect?) [] descriptor.indexes =
                  some defect)) := by
  rw [defect?, findSome?_eq_firstDefect? _ [], Option.or_assoc, Option.or_assoc,
    Option.or_eq_some_iff, Option.or_eq_some_iff, Option.or_eq_some_iff,
    nattsDefect?_eq_none_iff,
    (judges_columnDefect? descriptor.relname descriptor.columns.length).firstDefect?_eq_none_iff,
    (judges_oidDefect? descriptor.relname).firstDefect?_eq_none_iff]

theorem exists_defect?_iff_firstDefect {descriptor : Descriptor} {report : Report} :
    (∃ defect, descriptor.defect? = some defect ∧
      defect.report descriptor.relname = report) ↔ FirstDefect descriptor report := by
  have column := judges_columnDefect? descriptor.relname descriptor.columns.length
  have oid := judges_oidDefect? descriptor.relname
  have index := judges_indexDefect? descriptor
  simp only [defect?_eq_some_iff]
  constructor
  · rintro ⟨defect, mismatch | ⟨natts, first | ⟨columns, first | ⟨oids, first⟩⟩⟩, rfl⟩
    · rcases nattsDefect?_eq_some_iff.mp mismatch with ⟨different, rfl⟩
      exact .natts different
    · exact .column natts (column.firstSpoilt_iff.mpr ⟨defect, first, rfl⟩)
    · exact .oid natts columns (oid.firstSpoilt_iff.mpr ⟨defect, first, rfl⟩)
    · exact .index natts columns oids (index.firstSpoilt_iff.mpr ⟨defect, first, rfl⟩)
  · rintro (different | ⟨natts, first⟩ | ⟨natts, columns, first⟩ | ⟨natts, columns, oids, first⟩)
    · exact ⟨_, .inl (nattsDefect?_eq_some_iff.mpr ⟨different, rfl⟩), rfl⟩
    · rcases column.firstSpoilt_iff.mp first with ⟨defect, found, rfl⟩
      exact ⟨defect, .inr ⟨natts, .inl found⟩, rfl⟩
    · rcases oid.firstSpoilt_iff.mp first with ⟨defect, found, rfl⟩
      exact ⟨defect, .inr ⟨natts, .inr ⟨columns, .inl found⟩⟩, rfl⟩
    · rcases index.firstSpoilt_iff.mp first with ⟨defect, found, rfl⟩
      exact ⟨defect, .inr ⟨natts, .inr ⟨columns, .inr ⟨oids, found⟩⟩⟩, rfl⟩

theorem ColumnReport.kind_and_code {relname : String} {count : Nat} {earlier : List ColumnDef}
    {column : ColumnDef} {report : Report}
    (reports : ColumnReport relname count earlier column report) :
    report.kind = .internal ∧ report.code ≠ "natts_mismatch" := by
  cases reports <;> simp

theorem OidReport.kind_and_code {relname : String} {earlier : List NamedOid} {entry : NamedOid}
    {report : Report} (reports : OidReport relname earlier entry report) :
    report.kind = .internal ∧ report.code ≠ "natts_mismatch" := by
  cases reports <;> simp

theorem IndexReport.kind_and_code {relname : String} {columns : List ColumnDef}
    {index : IndexDef} {report : Report} (reports : IndexReport relname columns index report) :
    report.kind = .internal ∧ report.code ≠ "natts_mismatch" := by
  cases reports <;> simp

theorem FirstDefect.kind_and_code {descriptor : Descriptor} {report : Report}
    (first : FirstDefect descriptor report) :
    report.kind = .internal ∧ (report.code = "natts_mismatch" ↔
      descriptor.natts.toNat ≠ descriptor.columns.length) := by
  have listed (natts : descriptor.natts.toNat = descriptor.columns.length)
      (other : report.kind = .internal ∧ report.code ≠ "natts_mismatch") :
      report.kind = .internal ∧ (report.code = "natts_mismatch" ↔
        descriptor.natts.toNat ≠ descriptor.columns.length) :=
    ⟨other.1, fun code => absurd code other.2, fun different => absurd natts different⟩
  cases first with
  | natts mismatch => exact ⟨rfl, fun _ => mismatch, fun _ => rfl⟩
  | column natts first =>
      rcases first with ⟨-, -, reports⟩
      exact listed natts reports.kind_and_code
  | oid natts _ first =>
      rcases first with ⟨-, -, reports⟩
      exact listed natts reports.kind_and_code
  | index natts _ _ first =>
      rcases first with ⟨-, -, reports⟩
      exact listed natts reports.kind_and_code

/-- A descriptor that is not accepted is an internal error, and the report is about the
first defect in the order in which the lists are looked through. A wrong number of
columns comes before all other defects. -/
theorem validate_first_defect (descriptor : Descriptor) (report : Report) :
    (descriptor.validate.mapError (Defect.report descriptor.relname) = .error report ↔
      FirstDefect descriptor report) ∧
    (descriptor.validate.mapError (Defect.report descriptor.relname) = .error report →
      report.kind = .internal ∧ report.sqlstate = "XX000" ∧
      (report.code = "natts_mismatch" ↔
        descriptor.natts.toNat ≠ descriptor.columns.length)) := by
  rw [mapError_validate_eq_error_iff, exists_defect?_iff_firstDefect]
  refine ⟨.rfl, fun first => ?_⟩
  rcases first.kind_and_code with ⟨kind, code⟩
  refine ⟨kind, ?_, code⟩
  rw [Report.sqlstate, kind]
  rfl

/-- The third column repeats a number and, up to letter case, a name. The fourth is out
of range, the relation has no number and an index has no keys. -/
def muddled : Descriptor where
  schema := "public"
  relname := "accounts"
  relationId := 0
  rowtypeId := 7001
  toastTable := 7002
  toastIndex := 7001
  shared := false
  natts := 4
  indexes := [⟨7003, "accounts_id_index", [], true⟩]
  columns := [⟨"id", .oid, 1, false⟩, ⟨"owner", .name, 2, false⟩, ⟨"OWNER", .name, 2, false⟩,
    ⟨"note", .text, 0, true⟩]

theorem muddled_first_defect :
    muddled.validate.mapError (Defect.report "accounts") =
      .error ⟨.internal, "duplicate_attnum", "accounts: attribute number 2 used twice"⟩ ∧
    FirstDefect muddled
      ⟨.internal, "duplicate_attnum", "accounts: attribute number 2 used twice"⟩ ∧
    (Report.sqlstate ⟨.internal, "duplicate_attnum", "accounts: attribute number 2 used twice"⟩ =
      "XX000") ∧
    ¬ muddled.natts.toNat ≠ muddled.columns.length := by
  have failed : muddled.validate.mapError (Defect.report "accounts") =
      .error ⟨.internal, "duplicate_attnum", "accounts: attribute number 2 used twice"⟩ := by
    decide +kernel
  have general := validate_first_defect muddled
    ⟨.internal, "duplicate_attnum", "accounts: attribute number 2 used twice"⟩
  rcases general.2 failed with ⟨-, sqlstate, code⟩
  exact ⟨failed, general.1.mp failed, sqlstate, mt code.mpr (by decide)⟩

end Descriptor

end RoleCatalog

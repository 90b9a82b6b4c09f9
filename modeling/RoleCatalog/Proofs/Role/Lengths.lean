import RoleCatalog.Proofs.Frame.Refusal
import RoleCatalog.Proofs.Role.AuthidFrame

/-! # Lists of any lengths

The columns of `pg_authid` are twelve lists, which need not come from the same rows. They
make a frame exactly when they have one length, and the frame holds them as they are.
Otherwise the first list that is not as long as the list of identifiers is reported, with
the two lengths.
-/

namespace RoleCatalog

/-- What a frame holds: the names of its columns with their types and cells. -/
def Frame.contents (frame : Frame) : List (String × Dtype × List Cell) :=
  frame.columns.map fun column => (column.name, column.dtype, column.cells.toList)

namespace RoleColumns

def lengths (columns : RoleColumns) : List (String × Nat) :=
  [("oid", columns.oid.length),
   ("rolname", columns.rolname.length),
   ("rolsuper", columns.rolsuper.length),
   ("rolinherit", columns.rolinherit.length),
   ("rolcreaterole", columns.rolcreaterole.length),
   ("rolcreatedb", columns.rolcreatedb.length),
   ("rolcanlogin", columns.rolcanlogin.length),
   ("rolreplication", columns.rolreplication.length),
   ("rolbypassrls", columns.rolbypassrls.length),
   ("rolconnlimit", columns.rolconnlimit.length),
   ("rolpassword", columns.rolpassword.length),
   ("rolvaliduntil", columns.rolvaliduntil.length)]

/-- The lists as cells, where a missing value is a null cell. -/
def contents (columns : RoleColumns) : List (String × Dtype × List Cell) :=
  [("oid", .uint32, columns.oid.map .uint32),
   ("rolname", .string, columns.rolname.map .string),
   ("rolsuper", .boolean, columns.rolsuper.map .boolean),
   ("rolinherit", .boolean, columns.rolinherit.map .boolean),
   ("rolcreaterole", .boolean, columns.rolcreaterole.map .boolean),
   ("rolcreatedb", .boolean, columns.rolcreatedb.map .boolean),
   ("rolcanlogin", .boolean, columns.rolcanlogin.map .boolean),
   ("rolreplication", .boolean, columns.rolreplication.map .boolean),
   ("rolbypassrls", .boolean, columns.rolbypassrls.map .boolean),
   ("rolconnlimit", .int32, columns.rolconnlimit.map .int32),
   ("rolpassword", .string, columns.rolpassword.map fun value => value.elim .null .string),
   ("rolvaliduntil", .string, columns.rolvaliduntil.map fun value => value.elim .null .string)]

/-- All lists have the length. -/
def Level (columns : RoleColumns) (length : Nat) : Prop :=
  ∀ entry ∈ columns.lengths, entry.2 = length

/-- Where a list is that is not as long as the list of identifiers. -/
def uneven (columns : RoleColumns) : Set Nat :=
  {position | ∃ entry, columns.lengths[position]? = some entry ∧
    entry.2 ≠ columns.oid.length}

/-! ## The columns of the lists -/

theorem map_height_toColumns (columns : RoleColumns) :
    (columns.toColumns.map fun column => (column.name, column.height)) = columns.lengths := by
  simp only [toColumns, List.map_cons, List.map_nil, Frame.Column.height_ofOids,
    Frame.Column.height_ofTexts, Frame.Column.height_ofBools, Frame.Column.height_ofInts,
    Frame.Column.height_ofOptionalTexts]
  rfl

theorem contents_toColumns (columns : RoleColumns) :
    Frame.contents ⟨columns.toColumns⟩ = columns.contents := by
  simp only [Frame.contents, toColumns, List.map_cons, List.map_nil,
    Frame.Column.toList_ofOids, Frame.Column.toList_ofTexts, Frame.Column.toList_ofBools,
    Frame.Column.toList_ofInts, Frame.Column.toList_ofOptionalTexts]
  rfl

theorem height_toColumns (columns : RoleColumns) :
    (Frame.mk columns.toColumns).height = columns.oid.length :=
  Frame.Column.height_ofOids "oid" columns.oid

/-- The names are different, so only lengths can stand in the way. -/
theorem defect?_toColumns (columns : RoleColumns) :
    Frame.defect? columns.toColumns =
      (columns.lengths.find? fun entry => entry.2 != columns.oid.length).map fun entry =>
        .unequalHeights entry.1 entry.2 "oid" columns.oid.length := by
  have names : (columns.toColumns.map Frame.Column.name).Nodup := by
    rw [map_name_toColumns]
    decide
  have many : Frame.pairwiseLimit < columns.toColumns.length := (by decide : 4 < 12)
  calc
    Frame.defect? columns.toColumns =
        columns.toColumns.findSome? (Frame.heightDefect? (.ofOids "oid" columns.oid)) :=
      Frame.defect?_of_nodup many names
    _ = _ := by
      rw [Frame.findSome?_heightDefect?, map_height_toColumns, Frame.Column.height_ofOids]
      rfl

theorem exists_level_iff {columns : RoleColumns} :
    (∃ length, columns.Level length) ↔ columns.Level columns.oid.length := by
  constructor
  · intro level
    rcases level with ⟨length, level⟩
    have first : columns.oid.length = length := level ("oid", _) List.mem_cons_self
    rwa [first]
  · exact fun level => ⟨_, level⟩

theorem toFrame_eq_ok_iff {columns : RoleColumns} {frame : Frame} :
    columns.toFrame = .ok frame ↔
      columns.Level columns.oid.length ∧ frame.columns = columns.toColumns := by
  rw [toFrame, Frame.ofColumns_eq_ok_iff, defect?_toColumns, Option.map_eq_none_iff,
    List.find?_eq_none]
  simp only [bne_iff_ne, ne_eq, not_not, Level]

theorem toFrame_eq_error_iff {columns : RoleColumns} {defect : Frame.Defect} :
    columns.toFrame = .error defect ↔
      ∃ position name length, IsLeast columns.uneven position ∧
        columns.lengths[position]? = some (name, length) ∧
        defect = .unequalHeights name length "oid" columns.oid.length := by
  have first (entry : String × Nat) :
      (columns.lengths.find? fun entry => entry.2 != columns.oid.length) = some entry ↔
        ∃ position, IsLeast columns.uneven position ∧ columns.lengths[position]? = some entry :=
    Descriptor.find?_eq_some_iff_isLeast fun _ => bne_iff_ne
  rw [toFrame, Frame.ofColumns_eq_error_iff, defect?_toColumns, Option.map_eq_some_iff]
  simp only [first]
  constructor
  · intro failed
    rcases failed with ⟨⟨name, length⟩, ⟨position, least, here⟩, rfl⟩
    exact ⟨position, name, length, least, here, rfl⟩
  · intro first
    rcases first with ⟨position, name, length, least, here, rfl⟩
    exact ⟨(name, length), ⟨position, least, here⟩, rfl⟩

/-- The lists make a frame exactly when they have one length, and the frame has that height
and holds them as they are. Otherwise the first list whose length differs from that of the
identifiers is reported with both lengths. A repeated name is never reported. -/
theorem toFrame_needs_one_length (columns : RoleColumns) :
    ((∃ frame, columns.toFrame = .ok frame) ↔ ∃ length, columns.Level length) ∧
    (∀ length, columns.Level length → ∃ frame, columns.toFrame = .ok frame ∧
      frame.height = length ∧ frame.contents = columns.contents) ∧
    (∀ report, columns.toFrame.mapError Frame.Defect.report = .error report ↔
      ∃ position name length, IsLeast columns.uneven position ∧
        columns.lengths[position]? = some (name, length) ∧
        report = ⟨.internal, "frame_build",
          "lengths don't match: could not create a new DataFrame: " ++
            s!"height of column '{name}' ({length}) does not match " ++
            s!"height of column 'oid' ({columns.oid.length})"⟩) ∧
    ∀ name, columns.toFrame ≠ .error (.duplicateName name) := by
  refine ⟨?_, fun length level => ?_, fun report => ?_, fun name failed => ?_⟩
  · rw [exists_level_iff]
    simp only [toFrame_eq_ok_iff, exists_and_left, and_iff_left_iff_imp]
    exact fun _ => ⟨⟨_⟩, rfl⟩
  · have first : columns.oid.length = length := level ("oid", _) List.mem_cons_self
    have made : columns.toFrame = .ok ⟨columns.toColumns⟩ :=
      toFrame_eq_ok_iff.mpr ⟨exists_level_iff.mp ⟨length, level⟩, rfl⟩
    exact ⟨_, made, (height_toColumns columns).trans first, contents_toColumns columns⟩
  · simp only [Frame.mapError_report_eq_error_iff, toFrame_eq_error_iff]
    constructor
    · intro failed
      rcases failed with ⟨defect, ⟨position, name, length, least, here, rfl⟩, rfl⟩
      exact ⟨position, name, length, least, here, rfl⟩
    · intro first
      rcases first with ⟨position, name, length, least, here, rfl⟩
      exact ⟨_, ⟨position, name, length, least, here, rfl⟩, rfl⟩
  · rcases toFrame_eq_error_iff.mp failed with ⟨_, _, _, _, _, same⟩
    cases same

/-- Two rows, each with a missing value. -/
def paired : RoleColumns where
  oid := [10, 3373]
  rolname := ["admin", "pg_monitor"]
  rolsuper := [true, false]
  rolinherit := [true, true]
  rolcreaterole := [true, false]
  rolcreatedb := [true, false]
  rolcanlogin := [true, false]
  rolreplication := [true, false]
  rolbypassrls := [true, false]
  rolconnlimit := [-1, 5]
  rolpassword := [none, some "secret"]
  rolvaliduntil := [some "infinity", none]

/-- Two of the lists with lengths of their own. -/
def unpaired : RoleColumns :=
  { paired with rolinherit := [true], rolpassword := [] }

theorem toFrame_paired_and_unpaired :
    paired.Level 2 ∧
    (∃ frame, paired.toFrame = .ok frame ∧ frame.height = 2 ∧
      frame.contents = paired.contents) ∧
    unpaired.toFrame.mapError Frame.Defect.report = .error ⟨.internal, "frame_build",
      "lengths don't match: could not create a new DataFrame: " ++
        "height of column 'rolinherit' (1) does not match " ++
        "height of column 'oid' (2)"⟩ := by
  have level : paired.Level 2 := by simp [Level, lengths, paired]
  have made := (toFrame_needs_one_length paired).2.1 2 level
  have least : IsLeast unpaired.uneven 3 := by
    refine ⟨⟨("rolinherit", 1), rfl, by decide⟩, ?_⟩
    intro position uneven
    rcases uneven with ⟨entry, here, differs⟩
    match position with
    | 0 => cases here; exact absurd rfl differs
    | 1 => cases here; exact absurd rfl differs
    | 2 => cases here; exact absurd rfl differs
    | _ + 3 => exact Nat.le_add_left 3 _
  exact ⟨level, made, ((toFrame_needs_one_length unpaired).2.2.1 _).mpr
    ⟨3, "rolinherit", 1, least, rfl, rfl⟩⟩

end RoleColumns

end RoleCatalog

import RoleCatalog.Proofs.Frame.Refusal
import RoleCatalog.Proofs.Table.Conformance

/-! # Frames without rows

Column definitions give a frame without rows, and nothing but a name that two of them have
can stand in the way. Which of several such names is reported depends on how many columns
there are. Names are compared exactly here and without regard to case by validation, so the
columns of a descriptor that is accepted always give a frame.
-/

namespace RoleCatalog

/-- Names that are different without regard to case are different. -/
theorem Descriptor.WellFormed.nodup_name {descriptor : Descriptor}
    (wellFormed : descriptor.WellFormed) : (descriptor.columns.map ColumnDef.name).Nodup := by
  rw [List.Nodup, List.pairwise_map]
  apply wellFormed.names.imp
  intro left right different same
  exact different (congrArg Text.fold same)

namespace Frame

/-- The frame has the declared columns and no rows. -/
structure Bare (frame : Frame) (declarations : List ColumnDef) : Prop where
  height : frame.height = 0
  dtypes : frame.dtypes = declarations.map fun declaration =>
    (declaration.name, declaration.columnType.dtype)
  cells : ∀ column ∈ frame.columns, column.cells.toList = []

theorem bare_emptyColumns (declarations : List ColumnDef) :
    Bare ⟨declarations.map ColumnDef.emptyColumn⟩ declarations where
  height := by
    cases declarations with
    | nil => rfl
    | cons first rest =>
        have member : first.emptyColumn ∈ (first :: rest).map ColumnDef.emptyColumn :=
          List.mem_cons_self
        exact height_emptyColumn member
  dtypes := dtypes_of_declared (declared_emptyColumns declarations)
  cells _ member := List.eq_nil_of_length_eq_zero (height_emptyColumn member)

theorem ofSchema_eq_error_iff {declarations : List ColumnDef} {defect : Defect} :
    ofSchema declarations = .error defect ↔
      ∃ name, Repeats (declarations.map ColumnDef.name) name ∧
        defect = .duplicateName name := by
  rw [ofSchema, ofColumns_eq_error_iff,
    defect?_eq_some_iff_of_level fun _ member => height_emptyColumn member,
    map_name_emptyColumns]

theorem bare_of_ofSchema {declarations : List ColumnDef} {frame : Frame}
    (made : ofSchema declarations = .ok frame) : frame.Bare declarations := by
  have columns := (ofSchema_eq_ok_iff.mp made).2
  have bare := bare_emptyColumns declarations
  rwa [← columns] at bare

/-- Definitions make a frame exactly when their names are different. The frame has the
definitions for columns, in their order and with their types, and no rows. Otherwise a name
that several of them have is reported, and never a height. -/
theorem ofSchema_fails_on_repeated_names (declarations : List ColumnDef) :
    ((∃ frame, ofSchema declarations = .ok frame) ↔
      (declarations.map ColumnDef.name).Nodup) ∧
    (∀ frame, ofSchema declarations = .ok frame → frame.Bare declarations) ∧
    (∀ report, (ofSchema declarations).mapError Defect.report = .error report ↔
      ∃ name, Repeats (declarations.map ColumnDef.name) name ∧
        report = ⟨.internal, "frame_build",
          s!"duplicate: could not create a new DataFrame: column with name '{name}' " ++
            "has more than one occurrence"⟩) ∧
    (∀ name height reference referenceHeight,
      ofSchema declarations ≠ .error (.unequalHeights name height reference referenceHeight)) ∧
    ∀ descriptor : Descriptor, descriptor.validate = .ok () →
      ∃ frame, ofSchema descriptor.columns = .ok frame := by
  refine ⟨exists_ofSchema_eq_ok_iff, fun _ => bare_of_ofSchema, fun report => ?_,
    fun name height reference referenceHeight failed => ?_, fun descriptor valid => ?_⟩
  · simp only [mapError_report_eq_error_iff, ofSchema_eq_error_iff]
    constructor
    · intro failed
      rcases failed with ⟨defect, ⟨name, repeats, rfl⟩, rfl⟩
      exact ⟨name, repeats, rfl⟩
    · intro repeated
      rcases repeated with ⟨name, repeats, rfl⟩
      exact ⟨_, ⟨name, repeats, rfl⟩, rfl⟩
  · rcases ofSchema_eq_error_iff.mp failed with ⟨_, _, same⟩
    cases same
  · have wellFormed := (Descriptor.accepted_iff_wellFormed descriptor).mp valid
    exact exists_ofSchema_eq_ok_iff.mpr wellFormed.nodup_name

/-- The second and the third column have one name, and so have the first and the fourth. -/
def crossed : List ColumnDef :=
  [⟨"id", .oid, 1, false⟩, ⟨"note", .text, 2, true⟩, ⟨"note", .name, 3, false⟩,
    ⟨"id", .int4, 4, false⟩]

def crossedAndMore : List ColumnDef :=
  crossed ++ [⟨"ID", .oid, 5, false⟩]

/-- Of four columns the first with a name that comes again is reported, of five the first
with a name that has come before. -/
theorem ofSchema_crossed :
    (ofSchema crossed).mapError Defect.report = .error ⟨.internal, "frame_build",
      "duplicate: could not create a new DataFrame: column with name 'id' " ++
        "has more than one occurrence"⟩ ∧
    (ofSchema crossedAndMore).mapError Defect.report =
      .error ⟨.internal, "frame_build",
        "duplicate: could not create a new DataFrame: column with name 'note' " ++
          "has more than one occurrence"⟩ ∧
    Authid.descriptor.validate = .ok () ∧
    ∃ frame, ofSchema Authid.descriptor.columns = .ok frame ∧
      frame.Bare Authid.descriptor.columns := by
  have valid : Authid.descriptor.validate = .ok () := by decide +kernel
  have four := ofSchema_fails_on_repeated_names crossed
  have five := ofSchema_fails_on_repeated_names crossedAndMore
  have authid := ofSchema_fails_on_repeated_names Authid.descriptor.columns
  have comesAgain : IsLeast (recurring (crossed.map ColumnDef.name)) 0 :=
    ⟨⟨"id", rfl, by decide⟩, fun _ _ => Nat.zero_le _⟩
  have cameBefore : IsLeast (repeating (crossedAndMore.map ColumnDef.name)) 2 := by
    refine ⟨⟨"note", rfl, by decide⟩, ?_⟩
    intro position repeated
    rcases repeated with ⟨name, here, before⟩
    match position with
    | 0 => cases before
    | 1 =>
        cases here
        exact absurd before (by decide)
    | _ + 2 => exact Nat.le_add_left 2 _
  rcases authid.2.2.2.2 Authid.descriptor valid with ⟨frame, made⟩
  exact ⟨(four.2.2.1 _).mpr ⟨"id", .few (by decide) comesAgain rfl, rfl⟩,
    (five.2.2.1 _).mpr ⟨"note", .many (by decide) cameBefore rfl, rfl⟩,
    valid, frame, made, authid.2.1 frame made⟩

end Frame

end RoleCatalog

import RoleCatalog.Frame
import Mathlib.Data.List.Nodup

/-! # Columns that make a frame

A frame is made of its columns exactly when they are sound, which means different names
and equal heights. Few columns are compared in pairs and many in sequence; both ways
refuse the same lists.
-/

namespace RoleCatalog.Frame

structure Sound (columns : List Column) : Prop where
  names : (columns.map Column.name).Nodup
  heights : ∀ first ∈ columns.head?, ∀ column ∈ columns, column.height = first.height

theorem sound_nil : Sound [] :=
  ⟨List.nodup_nil, fun _ member => nomatch member⟩

theorem sound_cons_iff {first : Column} {rest : List Column} :
    Sound (first :: rest) ↔
      ((first :: rest).map Column.name).Nodup ∧
        ∀ column ∈ rest, column.height = first.height := by
  constructor
  · intro sound
    exact ⟨sound.names, fun column member =>
      sound.heights first rfl column (List.mem_cons_of_mem first member)⟩
  · rintro ⟨names, heights⟩
    refine ⟨names, ?_⟩
    intro reference isFirst column member
    cases isFirst
    rcases List.mem_cons.mp member with rfl | later
    · rfl
    · exact heights column later

theorem heightDefect?_eq_none_iff {reference column : Column} :
    heightDefect? reference column = none ↔ column.height = reference.height := by
  simp [heightDefect?]

theorem pairDefect?_eq_none_iff {left right : Column} :
    pairDefect? left right = none ↔ left.name ≠ right.name ∧ right.height = left.height := by
  unfold pairDefect?
  split
  · rename_i same
    simp [same]
  · rename_i different
    simp [different, heightDefect?_eq_none_iff]

theorem pairwiseDefect?_eq_none_iff (columns : List Column) :
    pairwiseDefect? columns = none ↔ Sound columns := by
  induction columns with
  | nil => simp [pairwiseDefect?, sound_nil]
  | cons first rest induction =>
      rw [pairwiseDefect?, Option.or_eq_none_iff, induction, List.findSome?_eq_none_iff,
        sound_cons_iff]
      simp only [pairDefect?_eq_none_iff, List.map_cons, List.nodup_cons, List.mem_map,
        not_exists, not_and]
      constructor
      · rintro ⟨pairs, sound⟩
        exact ⟨⟨fun column member same => (pairs column member).1 same.symm, sound.names⟩,
          fun column member => (pairs column member).2⟩
      · rintro ⟨⟨fresh, names⟩, heights⟩
        refine ⟨fun column member =>
          ⟨fun same => fresh column member same.symm, heights column member⟩, names, ?_⟩
        intro second isSecond column member
        rw [heights column member, heights second (List.mem_of_mem_head? isSecond)]

/-- The names seen so far stay apart from those to come. -/
theorem sequentialDefect?_eq_none_iff (first : Column) (seen : List String)
    (columns : List Column) :
    sequentialDefect? first seen columns = none ↔
      (∀ column ∈ columns, column.height = first.height ∧ column.name ∉ seen) ∧
        (columns.map Column.name).Nodup := by
  induction columns generalizing seen with
  | nil => simp [sequentialDefect?]
  | cons column rest induction =>
      rw [sequentialDefect?, Option.or_eq_none_iff, heightDefect?_eq_none_iff]
      split
      · rename_i repeated
        simp [repeated]
      · rename_i unseen
        rw [induction]
        simp only [List.mem_cons, not_or, List.map_cons, List.nodup_cons, List.mem_map,
          forall_eq_or_imp, unseen, not_false_eq_true, and_true]
        constructor
        · rintro ⟨height, later, names⟩
          exact ⟨⟨height, fun other member => ⟨(later other member).1, (later other member).2.2⟩⟩,
            fun ⟨other, member, same⟩ => (later other member).2.1 same, names⟩
        · rintro ⟨⟨height, later⟩, fresh, names⟩
          exact ⟨height, fun other member => ⟨(later other member).1,
            fun same => fresh ⟨other, member, same⟩, (later other member).2⟩, names⟩

theorem defect?_eq_none_iff (columns : List Column) :
    defect? columns = none ↔ Sound columns := by
  cases columns with
  | nil => simp [defect?, sound_nil]
  | cons first rest =>
      rw [defect?]
      split
      · exact pairwiseDefect?_eq_none_iff (first :: rest)
      · rw [sequentialDefect?_eq_none_iff, sound_cons_iff, List.map_cons, List.nodup_cons]
        simp only [List.mem_singleton, List.mem_map, not_exists, not_and]
        constructor
        · rintro ⟨later, names⟩
          exact ⟨⟨fun column member => (later column member).2, names⟩,
            fun column member => (later column member).1⟩
        · rintro ⟨⟨fresh, names⟩, heights⟩
          exact ⟨fun column member => ⟨heights column member, fresh column member⟩, names⟩

theorem ofColumns_of_sound {columns : List Column} (sound : Sound columns) :
    ofColumns columns = .ok ⟨columns⟩ :=
  ofColumns_eq_ok_iff.mpr ⟨(defect?_eq_none_iff columns).mpr sound, rfl⟩

/-- Reports are of frames that fail, so one that is made stays as it is. -/
theorem mapError_report_eq_ok_iff {made : Except Defect Frame} {frame : Frame} :
    made.mapError Defect.report = .ok frame ↔ made = .ok frame := by
  cases made <;> simp [Except.mapError]

/-! ## Columns without null cells -/

namespace Column

theorem toList_ofOids (name : String) (values : List UInt32) :
    (ofOids name values).cells.toList = values.map .uint32 := by
  simp [ofOids, Cells.toList]

theorem toList_ofInts (name : String) (values : List Int32) :
    (ofInts name values).cells.toList = values.map .int32 := by
  simp [ofInts, Cells.toList]

theorem toList_ofBools (name : String) (values : List Bool) :
    (ofBools name values).cells.toList = values.map .boolean := by
  simp [ofBools, Cells.toList]

theorem toList_ofTexts (name : String) (values : List String) :
    (ofTexts name values).cells.toList = values.map .string := by
  simp [ofTexts, Cells.toList]

theorem toList_ofOptionalTexts (name : String) (values : List (Option String)) :
    (ofOptionalTexts name values).cells.toList =
      values.map fun value => value.elim .null .string :=
  rfl

@[simp] theorem height_ofOids (name : String) (values : List UInt32) :
    (ofOids name values).height = values.length := by
  simp [ofOids, height, Cells.toList]

@[simp] theorem height_ofInts (name : String) (values : List Int32) :
    (ofInts name values).height = values.length := by
  simp [ofInts, height, Cells.toList]

@[simp] theorem height_ofBools (name : String) (values : List Bool) :
    (ofBools name values).height = values.length := by
  simp [ofBools, height, Cells.toList]

@[simp] theorem height_ofTexts (name : String) (values : List String) :
    (ofTexts name values).height = values.length := by
  simp [ofTexts, height, Cells.toList]

@[simp] theorem height_ofOptionalTexts (name : String) (values : List (Option String)) :
    (ofOptionalTexts name values).height = values.length := by
  simp [ofOptionalTexts, height, Cells.toList]

end Column

end RoleCatalog.Frame

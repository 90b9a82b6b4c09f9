import RoleCatalog.Proofs.Frame.Sound
import RoleCatalog.Proofs.Descriptor.FirstDefect

/-! # What a frame is refused for

Columns that make no frame are refused for one defect. Many columns with different names
are refused for the first height that differs from the height of the first column. Equally
high columns are refused for a name that more of them have: few columns for the first
name that comes again, many for the first one that has come before.
-/

namespace RoleCatalog.Frame

theorem ofColumns_eq_error_iff {columns : List Column} {defect : Defect} :
    ofColumns columns = .error defect ↔ defect? columns = some defect := by
  unfold ofColumns
  split <;> simp_all

theorem mapError_report_eq_error_iff {made : Except Defect Frame} {report : Report} :
    made.mapError Defect.report = .error report ↔
      ∃ defect, made = .error defect ∧ defect.report = report := by
  cases made <;> simp [Except.mapError]

/-! ## Different names -/

/-- No name is met again, so the scan is a search for a height. -/
theorem sequentialDefect?_of_fresh {first : Column} {seen : List String} {columns : List Column}
    (fresh : ∀ column ∈ columns, column.name ∉ seen)
    (names : (columns.map Column.name).Nodup) :
    sequentialDefect? first seen columns = columns.findSome? (heightDefect? first) := by
  induction columns generalizing seen with
  | nil => rfl
  | cons column rest induction =>
      rw [List.forall_mem_cons] at fresh
      rw [List.map_cons, List.nodup_cons] at names
      have later : ∀ other ∈ rest, other.name ∉ column.name :: seen := by
        intro other member repeated
        rcases List.mem_cons.mp repeated with same | early
        · exact names.1 (same ▸ List.mem_map_of_mem member)
        · exact fresh.2 other member early
      rw [sequentialDefect?, if_neg fresh.1, induction later names.2, List.findSome?_cons]
      cases heightDefect? first column <;> rfl

theorem defect?_of_nodup {first : Column} {rest : List Column}
    (many : pairwiseLimit < (first :: rest).length)
    (names : ((first :: rest).map Column.name).Nodup) :
    defect? (first :: rest) = (first :: rest).findSome? (heightDefect? first) := by
  have level : heightDefect? first first = none := heightDefect?_eq_none_iff.mpr rfl
  rw [List.map_cons, List.nodup_cons] at names
  have fresh : ∀ column ∈ rest, column.name ∉ [first.name] := by
    intro column member repeated
    exact names.1 (List.mem_singleton.mp repeated ▸ List.mem_map_of_mem member)
  rw [defect?, if_neg (Nat.not_le.mpr many), sequentialDefect?_of_fresh fresh names.2,
    List.findSome?_cons, level]

/-- The name and the height of a column that is not as high as the reference. -/
theorem findSome?_heightDefect? (reference : Column) (columns : List Column) :
    columns.findSome? (heightDefect? reference) =
      ((columns.map fun column => (column.name, column.height)).find? fun entry =>
        entry.2 != reference.height).map fun entry =>
          .unequalHeights entry.1 entry.2 reference.name reference.height := by
  induction columns with
  | nil => rfl
  | cons column rest induction =>
      rw [List.findSome?_cons, List.map_cons, List.find?_cons, heightDefect?]
      by_cases level : column.height = reference.height
      · rw [if_pos level, bne_eq_false_iff_eq.mpr level, induction]
      · rw [if_neg level, bne_iff_ne.mpr level]
        rfl

/-! ## Equal heights

A scan of equally high columns reports the first name that is marked, which is to say that
it stands among certain others. -/

/-- What a scan says about the name at a position. -/
def markAt (names : List String) (others : Nat → List String) (position : Nat) :
    Option Defect :=
  names[position]?.bind fun name =>
    if name ∈ others position then some (.duplicateName name) else none

/-- Where the marked names are. -/
def marked (names : List String) (others : Nat → List String) : Set Nat :=
  {position | ∃ name, names[position]? = some name ∧ name ∈ others position}

section Marks

variable {names : List String} {others : Nat → List String} {defect : Defect}

theorem markAt_eq_some_iff {position : Nat} :
    markAt names others position = some defect ↔
      ∃ name, names[position]? = some name ∧ name ∈ others position ∧
        defect = .duplicateName name := by
  simp only [markAt, Option.bind_eq_some_iff, Option.ite_none_right_eq_some, Option.some.injEq,
    @eq_comm _ defect]

theorem markAt_eq_none_iff {position : Nat} :
    markAt names others position = none ↔ position ∉ marked names others := by
  simp [markAt, marked]

theorem first_markAt_iff :
    (∃ position, markAt names others position = some defect ∧
      ∀ earlier < position, markAt names others earlier = none) ↔
    ∃ position name, IsLeast (marked names others) position ∧
      names[position]? = some name ∧ defect = .duplicateName name := by
  simp only [markAt_eq_some_iff, markAt_eq_none_iff]
  constructor
  · intro first
    rcases first with ⟨position, ⟨name, here, mark, reported⟩, before⟩
    refine ⟨position, name, ⟨⟨name, here, mark⟩, ?_⟩, here, reported⟩
    intro other isMarked
    exact Nat.not_lt.mp fun less => before other less isMarked
  · intro first
    rcases first with ⟨position, name, least, here, reported⟩
    rcases least.1 with ⟨marked, there, mark⟩
    cases here.symm.trans there
    exact ⟨position, ⟨name, here, mark, reported⟩, fun other less isMarked =>
      Nat.not_lt.mpr (least.2 isMarked) less⟩

end Marks

theorem findSome?_pairDefect?_of_level {column : Column} {rest : List Column}
    (level : ∀ other ∈ rest, other.height = column.height) :
    rest.findSome? (pairDefect? column) =
      if column.name ∈ rest.map Column.name then some (.duplicateName column.name)
      else none := by
  induction rest with
  | nil => rfl
  | cons other later induction =>
      rw [List.forall_mem_cons] at level
      rw [List.findSome?_cons, pairDefect?, List.map_cons]
      by_cases same : column.name = other.name
      · rw [if_pos same, if_pos (same ▸ List.mem_cons_self)]
      · rw [if_neg same, heightDefect?_eq_none_iff.mpr level.1, induction level.2]
        simp only [List.mem_cons, same, false_or]

/-- The names after a position. -/
def after (names : List String) (position : Nat) : List String :=
  names.drop (position + 1)

theorem pairwiseDefect?_eq_some_iff_of_level {columns : List Column} {height : Nat}
    (level : ∀ column ∈ columns, column.height = height) {defect : Defect} :
    pairwiseDefect? columns = some defect ↔
      ∃ position,
        markAt (columns.map Column.name) (after (columns.map Column.name)) position =
            some defect ∧
          ∀ earlier < position,
            markAt (columns.map Column.name) (after (columns.map Column.name)) earlier = none := by
  induction columns with
  | nil => simp [pairwiseDefect?, markAt]
  | cons column rest induction =>
      rw [List.forall_mem_cons] at level
      have first : markAt ((column :: rest).map Column.name)
          (after ((column :: rest).map Column.name)) 0 =
            rest.findSome? (pairDefect? column) :=
        (findSome?_pairDefect?_of_level fun other member =>
          (level.2 other member).trans level.1.symm).symm
      have later (position : Nat) : markAt ((column :: rest).map Column.name)
          (after ((column :: rest).map Column.name)) (position + 1) =
            markAt (rest.map Column.name) (after (rest.map Column.name)) position :=
        rfl
      conv_rhs => rw [← Nat.or_exists_add_one]
      rw [pairwiseDefect?, Option.or_eq_some_iff, induction level.2]
      simp only [Nat.forall_lt_succ_left, first, later, and_left_comm, exists_and_left,
        Nat.not_lt_zero, false_implies, implies_true, and_true]

/-- The check of the scan that keeps the names it has met, for equally high columns. -/
def repeatDefect? (seen : List String) (name : String) : Option Defect :=
  if name ∈ seen then some (.duplicateName name) else none

theorem sequentialDefect?_of_level {first : Column} {seen : List String} {columns : List Column}
    (level : ∀ column ∈ columns, column.height = first.height) :
    sequentialDefect? first seen columns =
      firstDefect? repeatDefect? seen (columns.map Column.name) := by
  induction columns generalizing seen with
  | nil => rfl
  | cons column rest induction =>
      rw [List.forall_mem_cons] at level
      rw [sequentialDefect?, heightDefect?_eq_none_iff.mpr level.1, Option.none_or,
        List.map_cons, firstDefect?, repeatDefect?, induction level.2]
      split <;> rfl

theorem defectAt_repeatDefect? (names : List String) :
    defectAt repeatDefect? [] names = markAt names names.take := by
  funext position
  rw [defectAt, markAt, List.append_nil]
  congr 1
  funext name
  simp only [repeatDefect?, List.mem_reverse]

/-- Where a name is that comes again. -/
def recurring (names : List String) : Set Nat :=
  marked names (after names)

/-- Where a name is that has come before. -/
def repeating (names : List String) : Set Nat :=
  marked names names.take

/-- Of the names that several columns have, the one that is reported. -/
inductive Repeats (names : List String) (name : String) : Prop
  | few (small : names.length ≤ 4) {position : Nat}
      (least : IsLeast (recurring names) position) (here : names[position]? = some name)
  | many (large : 5 ≤ names.length) {position : Nat}
      (least : IsLeast (repeating names) position) (here : names[position]? = some name)

theorem repeats_iff_of_small {names : List String} (small : names.length ≤ 4) {name : String} :
    Repeats names name ↔
      ∃ position, IsLeast (recurring names) position ∧ names[position]? = some name := by
  constructor
  · intro repeats
    cases repeats with
    | few _ least here => exact ⟨_, least, here⟩
    | many large _ _ => omega
  · intro first
    rcases first with ⟨position, least, here⟩
    exact .few small least here

theorem repeats_iff_of_large {names : List String} (large : 5 ≤ names.length) {name : String} :
    Repeats names name ↔
      ∃ position, IsLeast (repeating names) position ∧ names[position]? = some name := by
  constructor
  · intro repeats
    cases repeats with
    | few small _ _ => omega
    | many _ least here => exact ⟨_, least, here⟩
  · intro first
    rcases first with ⟨position, least, here⟩
    exact .many large least here

/-- Neither scan reports a height where there is only one. -/
theorem defect?_eq_some_iff_of_level {columns : List Column} {height : Nat}
    (level : ∀ column ∈ columns, column.height = height) {defect : Defect} :
    defect? columns = some defect ↔
      ∃ name, Repeats (columns.map Column.name) name ∧ defect = .duplicateName name := by
  cases columns with
  | nil =>
      have none : ¬ ∃ name, Repeats [] name ∧ defect = .duplicateName name := by
        simp [repeats_iff_of_small]
      exact iff_of_false (nomatch ·) none
  | cons first rest =>
      rw [defect?]
      by_cases small : (first :: rest).length ≤ pairwiseLimit
      · have few : ((first :: rest).map Column.name).length ≤ 4 := by rwa [List.length_map]
        rw [if_pos small, pairwiseDefect?_eq_some_iff_of_level level, first_markAt_iff,
          exists_comm]
        simp only [repeats_iff_of_small few, recurring, exists_and_right, ← and_assoc]
      · have many : 5 ≤ ((first :: rest).map Column.name).length := by
          rw [List.length_map]
          exact Nat.not_le.mp small
        have toFirst : ∀ column ∈ rest, column.height = first.height := fun column member =>
          (level column (List.mem_cons_of_mem first member)).trans
            (level first List.mem_cons_self).symm
        have scan : sequentialDefect? first [first.name] rest =
            firstDefect? repeatDefect? [] ((first :: rest).map Column.name) :=
          sequentialDefect?_of_level toFirst
        rw [if_neg small, scan, firstDefect?_eq_some_iff, defectAt_repeatDefect?,
          first_markAt_iff, exists_comm]
        simp only [repeats_iff_of_large many, repeating, exists_and_right, ← and_assoc]

end RoleCatalog.Frame

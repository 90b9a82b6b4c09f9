import RoleCatalog.Proofs.Frame.Sound

/-! # Rows of a frame

A frame keeps its cells by columns. Seen by rows, it can be asked for one cell, for the
rows that have a given cell, and for the sub-frame of some rows. Where every column has
one cell for each item of a list, the answers are read off that list.
-/

namespace RoleCatalog

/-- The items at some positions. -/
def pick {α : Type} (positions : List Nat) (items : List α) : List α :=
  positions.filterMap fun position => items[position]?

theorem pick_map {α β : Type} (transform : α → β) (positions : List Nat) (items : List α) :
    pick positions (items.map transform) = (pick positions items).map transform := by
  simp [pick, List.map_filterMap]

@[simp] theorem pick_replicate_length {α β : Type} (positions : List Nat) (items : List α)
    (value : β) :
    pick positions (List.replicate items.length value) =
      List.replicate (pick positions items).length value := by
  rw [← List.map_const', pick_map, List.map_const']

theorem pick_map_succ_cons {α : Type} (positions : List Nat) (head : α) (tail : List α) :
    pick (positions.map (· + 1)) (head :: tail) = pick positions tail := by
  rw [pick, List.filterMap_map]
  rfl

theorem pick_findIdxs {α : Type} (test : α → Bool) (items : List α) :
    pick (items.findIdxs test) items = items.filter test := by
  induction items with
  | nil => rfl
  | cons head tail induction =>
      have later := pick_map_succ_cons (tail.findIdxs test) head tail
      rw [induction, ← List.findIdxs_start] at later
      rw [List.findIdxs_cons, List.filter_cons]
      split
      · exact congrArg (head :: ·) later
      · exact later

def Cells.select (rows : List Nat) : Cells → Cells
  | .uint32 values => .uint32 (pick rows values)
  | .int32 values => .int32 (pick rows values)
  | .boolean values => .boolean (pick rows values)
  | .string values => .string (pick rows values)

namespace Frame

/-- The cell of a row in the column of a name. -/
def cell? (frame : Frame) (row : Nat) (name : String) : Option Cell :=
  (frame.column? name).bind fun column => column.cells.toList[row]?

/-- The rows with a cell in the column of a name. -/
def rowsWith (frame : Frame) (name : String) (cell : Cell) : List Nat :=
  (frame.column? name).elim [] fun column => column.cells.toList.findIdxs (· == cell)

def Column.select (rows : List Nat) (column : Column) : Column :=
  ⟨column.name, column.cells.select rows⟩

/-- The sub-frame of some rows. -/
def select (frame : Frame) (rows : List Nat) : Frame :=
  ⟨frame.columns.map (Column.select rows)⟩

namespace Column

variable (rows : List Nat) (name : String)

@[simp] theorem select_ofOids (values : List UInt32) :
    select rows (ofOids name values) = ofOids name (pick rows values) := by
  simp [select, ofOids, Cells.select, pick_map]

@[simp] theorem select_ofInts (values : List Int32) :
    select rows (ofInts name values) = ofInts name (pick rows values) := by
  simp [select, ofInts, Cells.select, pick_map]

@[simp] theorem select_ofBools (values : List Bool) :
    select rows (ofBools name values) = ofBools name (pick rows values) := by
  simp [select, ofBools, Cells.select, pick_map]

@[simp] theorem select_ofTexts (values : List String) :
    select rows (ofTexts name values) = ofTexts name (pick rows values) := by
  simp [select, ofTexts, Cells.select, pick_map]

@[simp] theorem select_ofOptionalTexts (values : List (Option String)) :
    select rows (ofOptionalTexts name values) = ofOptionalTexts name (pick rows values) :=
  rfl

end Column

/-! ## Frames of a list -/

/-- The column has one cell for each item of a list. -/
def Column.Tabulates {ρ : Type} (column : Column) (items : List ρ) (cell : ρ → String → Cell) :
    Prop :=
  column.cells.toList = items.map fun item => cell item column.name

def Tabulates {ρ : Type} (frame : Frame) (items : List ρ) (cell : ρ → String → Cell) : Prop :=
  ∀ column ∈ frame.columns, column.Tabulates items cell

section Tabulated

variable {ρ : Type} {frame : Frame} {items : List ρ} {cell : ρ → String → Cell}

namespace Column

variable {name : String}

@[simp] theorem tabulates_ofOids_iff {value : ρ → UInt32} :
    (ofOids name (items.map value)).Tabulates items cell ↔
      ∀ item ∈ items, .uint32 (value item) = cell item name := by
  rw [Tabulates, toList_ofOids, List.map_map]
  exact List.map_inj_left

@[simp] theorem tabulates_ofInts_iff {value : ρ → Int32} :
    (ofInts name (items.map value)).Tabulates items cell ↔
      ∀ item ∈ items, .int32 (value item) = cell item name := by
  rw [Tabulates, toList_ofInts, List.map_map]
  exact List.map_inj_left

@[simp] theorem tabulates_ofBools_iff {value : ρ → Bool} :
    (ofBools name (items.map value)).Tabulates items cell ↔
      ∀ item ∈ items, .boolean (value item) = cell item name := by
  rw [Tabulates, toList_ofBools, List.map_map]
  exact List.map_inj_left

@[simp] theorem tabulates_ofTexts_iff {value : ρ → String} :
    (ofTexts name (items.map value)).Tabulates items cell ↔
      ∀ item ∈ items, .string (value item) = cell item name := by
  rw [Tabulates, toList_ofTexts, List.map_map]
  exact List.map_inj_left

@[simp] theorem tabulates_ofOptionalTexts_iff {value : ρ → Option String} :
    (ofOptionalTexts name (items.map value)).Tabulates items cell ↔
      ∀ item ∈ items, (value item).elim .null .string = cell item name := by
  rw [Tabulates, toList_ofOptionalTexts, List.map_map]
  exact List.map_inj_left

/-! A column can repeat one value. -/

@[simp] theorem tabulates_ofTexts_replicate_iff {value : String} :
    (ofTexts name (List.replicate items.length value)).Tabulates items cell ↔
      ∀ item ∈ items, .string value = cell item name := by
  rw [← List.map_const', tabulates_ofTexts_iff]

@[simp] theorem tabulates_ofOptionalTexts_replicate_iff {value : Option String} :
    (ofOptionalTexts name (List.replicate items.length value)).Tabulates items cell ↔
      ∀ item ∈ items, value.elim .null .string = cell item name := by
  rw [← List.map_const', tabulates_ofOptionalTexts_iff]

end Column

theorem mem_of_column? {name : String} {column : Column}
    (found : frame.column? name = some column) : column ∈ frame.columns ∧ column.name = name := by
  have same := List.find?_some found
  exact ⟨List.mem_of_find?_eq_some found, eq_of_beq same⟩

theorem exists_column? {name : String} (member : name ∈ frame.columns.map Column.name) :
    ∃ column, frame.column? name = some column := by
  rcases List.mem_map.mp member with ⟨column, isColumn, rfl⟩
  exact Option.isSome_iff_exists.mp
    (List.find?_isSome.mpr ⟨column, isColumn, beq_self_eq_true column.name⟩)

theorem Tabulates.exists_column? (tabulates : frame.Tabulates items cell) {name : String}
    (member : name ∈ frame.columns.map Column.name) :
    ∃ column, frame.column? name = some column ∧
      column.cells.toList = items.map fun item => cell item name := by
  rcases Frame.exists_column? member with ⟨column, found⟩
  rcases mem_of_column? found with ⟨isColumn, rfl⟩
  exact ⟨column, found, tabulates column isColumn⟩

theorem Tabulates.cell?_eq (tabulates : frame.Tabulates items cell) {name : String}
    (member : name ∈ frame.columns.map Column.name) (row : Nat) :
    frame.cell? row name = items[row]?.map fun item => cell item name := by
  rcases tabulates.exists_column? member with ⟨column, found, cells⟩
  rw [cell?, found, Option.bind_some, cells, List.getElem?_map]

theorem cell?_eq_none {name : String} (missing : name ∉ frame.columns.map Column.name)
    (row : Nat) : frame.cell? row name = none := by
  cases found : frame.column? name with
  | none =>
      rw [cell?, found]
      rfl
  | some column =>
      rcases mem_of_column? found with ⟨isColumn, rfl⟩
      exact absurd (List.mem_map_of_mem isColumn) missing

theorem Tabulates.rowsWith_eq (tabulates : frame.Tabulates items cell) {name : String}
    (member : name ∈ frame.columns.map Column.name) (value : Cell) :
    frame.rowsWith name value = items.findIdxs fun item => cell item name == value := by
  rcases tabulates.exists_column? member with ⟨column, found, cells⟩
  rw [rowsWith, found, Option.elim_some, cells, List.findIdxs_map]
  rfl

end Tabulated

end Frame

end RoleCatalog

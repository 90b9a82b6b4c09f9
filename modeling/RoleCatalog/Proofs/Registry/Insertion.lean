import RoleCatalog.Registry.Run
import Mathlib.Data.List.Induction

/-! # Insertion of many tables

What a list of tables holds after a sequence of insertions. Starting from the empty
list it is the sequence with only the last occurrence of every key kept. A search
sees the namesakes of a name, which are the tables that go by it up to ASCII case;
they change by insertions of namesakes alone.
-/

namespace RoleCatalog.Registry

def insertAll (tables more : List Table) : List Table :=
  more.foldl insert tables

@[simp] theorem insertAll_nil (tables : List Table) : insertAll tables [] = tables :=
  rfl

@[simp] theorem insertAll_cons (tables : List Table) (table : Table) (more : List Table) :
    insertAll tables (table :: more) = insertAll (insert tables table) more :=
  rfl

theorem insertAll_append (tables earlier later : List Table) :
    insertAll tables (earlier ++ later) = insertAll (insertAll tables earlier) later :=
  List.foldl_append

theorem insertAll_append_singleton (tables more : List Table) (table : Table) :
    insertAll tables (more ++ [table]) = insert (insertAll tables more) table :=
  insertAll_append tables more [table]

theorem mem_or_mem_of_mem_insertAll {tables more : List Table} {table : Table}
    (member : table ∈ insertAll tables more) : table ∈ tables ∨ table ∈ more := by
  induction more generalizing tables with
  | nil => exact .inl member
  | cons head rest induction =>
      rcases induction member with inserted | later
      · rcases mem_insert.mp inserted with ⟨earlier, -⟩ | rfl
        · exact .inl earlier
        · exact .inr List.mem_cons_self
      · exact .inr (List.mem_cons_of_mem head later)

/-! ## The list without a key -/

def without (tables : List Table) (table : Table) : List Table :=
  tables.filter fun other => !decide (SameKey other table)

theorem insert_eq (tables : List Table) (table : Table) :
    insert tables table = without tables table ++ [table] :=
  rfl

theorem mem_without {tables : List Table} {table other : Table} :
    other ∈ without tables table ↔ other ∈ tables ∧ ¬ SameKey other table := by
  rw [without, List.mem_filter, Bool.not_eq_true', decide_eq_false_iff_not]

theorem without_append (left right : List Table) (table : Table) :
    without (left ++ right) table = without left table ++ without right table :=
  List.filter_append _ _

theorem without_cons_of_sameKey {table other : Table} (same : SameKey other table)
    (tables : List Table) : without (other :: tables) table = without tables table :=
  List.filter_cons_of_neg (by rw [decide_eq_true same]; decide)

theorem without_cons_of_not_sameKey {table other : Table} (different : ¬ SameKey other table)
    (tables : List Table) :
    without (other :: tables) table = other :: without tables table :=
  List.filter_cons_of_pos (by rw [decide_eq_false different]; decide)

theorem without_eq_self {tables : List Table} {table : Table}
    (absent : ∀ other ∈ tables, ¬ SameKey other table) : without tables table = tables := by
  apply List.filter_eq_self.mpr
  intro other member
  rw [decide_eq_false (absent other member)]
  rfl

theorem filter_filter_comm (tables : List Table) (left right : Table → Bool) :
    (tables.filter left).filter right = (tables.filter right).filter left := by
  rw [List.filter_filter, List.filter_filter]
  simp only [Bool.and_comm]

theorem without_comm (tables : List Table) (left right : Table) :
    without (without tables left) right = without (without tables right) left :=
  filter_filter_comm tables _ _

theorem without_without_of_sameKey {left right : Table} (same : SameKey left right)
    (tables : List Table) : without (without tables left) right = without tables right := by
  rw [without_comm]
  apply without_eq_self
  intro other member equal
  exact (mem_without.mp member).2 (equal.trans same)

theorem without_insert_of_sameKey {table other : Table} (same : SameKey other table)
    (tables : List Table) : without (insert tables other) table = without tables table := by
  rw [insert_eq, without_append, without_cons_of_sameKey same, without_without_of_sameKey same]
  exact List.append_nil _

theorem without_insert_of_not_sameKey {table other : Table} (different : ¬ SameKey other table)
    (tables : List Table) :
    without (insert tables other) table = insert (without tables table) other := by
  rw [insert_eq, insert_eq, without_append, without_cons_of_not_sameKey different, without_comm]
  rfl

/-- Insertions of one key do not matter where that key is left out. -/
theorem without_insertAll (tables more : List Table) (table : Table) :
    without (insertAll tables more) table =
      insertAll (without tables table) (without more table) := by
  induction more generalizing tables with
  | nil => rfl
  | cons other rest induction =>
      rw [insertAll_cons, induction]
      by_cases same : SameKey other table
      · rw [without_insert_of_sameKey same, without_cons_of_sameKey same]
      · rw [without_insert_of_not_sameKey same, without_cons_of_not_sameKey same, insertAll_cons]

/-- An insertion does not matter when its key is inserted again later. -/
theorem insertAll_insert_append_singleton (tables more : List Table) (table : Table) :
    insertAll (insert tables table) (more ++ [table]) = insertAll tables (more ++ [table]) := by
  rw [insertAll_append_singleton, insertAll_append_singleton, insert_eq _ table,
    insert_eq (insertAll tables more), without_insertAll, without_insertAll,
    without_insert_of_sameKey ⟨rfl, rfl⟩]

/-! ## The last occurrence of every key -/

/-- No two tables of the list share a key. -/
abbrev Apart (tables : List Table) : Prop :=
  tables.Pairwise fun left right => ¬ SameKey left right

/-- A table is kept when no later one has its key. -/
def keepLast : List Table → List Table
  | [] => []
  | table :: rest =>
      if ∃ later ∈ rest, SameKey later table then keepLast rest else table :: keepLast rest

theorem keepLast_append_singleton (tables : List Table) (table : Table) :
    keepLast (tables ++ [table]) = insert (keepLast tables) table := by
  induction tables with
  | nil => rfl
  | cons head rest induction =>
      simp only [List.cons_append, keepLast, List.mem_append, List.mem_singleton,
        or_and_right, exists_or, exists_eq_left, induction]
      by_cases repeated : ∃ later ∈ rest, SameKey later head
      · rw [if_pos (.inl repeated), if_pos repeated]
      · rw [if_neg repeated]
        by_cases same : SameKey table head
        · rw [if_pos (.inr same), insert_eq, insert_eq,
            without_cons_of_sameKey same.symm]
        · rw [if_neg (not_or.mpr ⟨repeated, same⟩), insert_eq, insert_eq,
            without_cons_of_not_sameKey fun equal => same equal.symm]
          rfl

theorem insertAll_nil_eq_keepLast (tables : List Table) :
    insertAll [] tables = keepLast tables := by
  induction tables using List.reverseRecOn with
  | nil => rfl
  | append_singleton earlier table induction =>
      rw [insertAll_append_singleton, keepLast_append_singleton, induction]

theorem mem_of_mem_keepLast {tables : List Table} {table : Table}
    (member : table ∈ keepLast tables) : table ∈ tables := by
  induction tables with
  | nil => exact member
  | cons head rest induction =>
      rw [keepLast] at member
      split at member
      · exact List.mem_cons_of_mem head (induction member)
      · rcases List.mem_cons.mp member with equal | later
        · exact equal ▸ List.mem_cons_self
        · exact List.mem_cons_of_mem head (induction later)

theorem apart_keepLast (tables : List Table) : Apart (keepLast tables) := by
  induction tables with
  | nil => exact .nil
  | cons head rest induction =>
      rw [keepLast]
      split
      · exact induction
      · rename_i unrepeated
        refine .cons ?_ induction
        intro later member same
        exact unrepeated ⟨later, mem_of_mem_keepLast member, same.symm⟩

theorem exists_mem_keepLast {tables : List Table} {table : Table} (member : table ∈ tables) :
    ∃ kept ∈ keepLast tables, SameKey kept table := by
  induction tables generalizing table with
  | nil => cases member
  | cons head rest induction =>
      rw [keepLast]
      rcases List.mem_cons.mp member with equal | later
      · subst equal
        split
        · rename_i repeated
          rcases repeated with ⟨later, laterMember, laterSame⟩
          rcases induction laterMember with ⟨kept, keptMember, keptSame⟩
          exact ⟨kept, keptMember, keptSame.trans laterSame⟩
        · exact ⟨table, List.mem_cons_self, rfl, rfl⟩
      · rcases induction later with ⟨kept, keptMember, keptSame⟩
        split
        · exact ⟨kept, keptMember, keptSame⟩
        · exact ⟨kept, List.mem_cons_of_mem head keptMember, keptSame⟩

/-! ## Namesakes -/

abbrev GoesBy (table : Table) (schema name : String) : Prop :=
  Text.SameFold table.schema schema ∧ Text.SameFold table.name name

/-- The tables that go by a name up to ASCII case. A search takes the first one. -/
def namesakes (tables : List Table) (schema name : String) : List Table :=
  tables.filter fun table => decide (GoesBy table schema name)

theorem find?_eq_head?_namesakes (registry : Registry) (schema name : String) :
    registry.find? schema name = (namesakes registry.tables schema name).head? :=
  List.head?_filter.symm

theorem mem_namesakes {tables : List Table} {schema name : String} {table : Table} :
    table ∈ namesakes tables schema name ↔ table ∈ tables ∧ GoesBy table schema name := by
  rw [namesakes, List.mem_filter, decide_eq_true_iff]

theorem GoesBy.of_sameKey {left right : Table} (same : SameKey left right)
    {schema name : String} (goesBy : GoesBy left schema name) : GoesBy right schema name :=
  ⟨same.1 ▸ goesBy.1, same.2 ▸ goesBy.2⟩

theorem namesakes_cons_of_goesBy {schema name : String} {table : Table}
    (goesBy : GoesBy table schema name) (tables : List Table) :
    namesakes (table :: tables) schema name = table :: namesakes tables schema name :=
  List.filter_cons_of_pos (decide_eq_true goesBy)

theorem namesakes_cons_of_not_goesBy {schema name : String} {table : Table}
    (other : ¬ GoesBy table schema name) (tables : List Table) :
    namesakes (table :: tables) schema name = namesakes tables schema name :=
  List.filter_cons_of_neg (by rw [decide_eq_true_iff]; exact other)

theorem namesakes_append (left right : List Table) (schema name : String) :
    namesakes (left ++ right) schema name =
      namesakes left schema name ++ namesakes right schema name :=
  List.filter_append _ _

theorem namesakes_eq_self {tables : List Table} {schema name : String}
    (goBy : ∀ table ∈ tables, GoesBy table schema name) :
    namesakes tables schema name = tables :=
  List.filter_eq_self.mpr fun table member => decide_eq_true (goBy table member)

theorem namesakes_eq_nil {tables : List Table} {schema name : String}
    (unknown : ¬ ∃ table ∈ tables, GoesBy table schema name) :
    namesakes tables schema name = [] :=
  List.filter_eq_nil_iff.mpr fun table member goesBy =>
    unknown ⟨table, member, of_decide_eq_true goesBy⟩

theorem namesakes_without (tables : List Table) (table : Table) (schema name : String) :
    namesakes (without tables table) schema name =
      without (namesakes tables schema name) table :=
  filter_filter_comm tables _ _

theorem namesakes_insert_of_goesBy {schema name : String} {table : Table}
    (goesBy : GoesBy table schema name) (tables : List Table) :
    namesakes (insert tables table) schema name =
      insert (namesakes tables schema name) table := by
  rw [insert_eq, insert_eq, namesakes_append, namesakes_without,
    namesakes_cons_of_goesBy goesBy]
  rfl

theorem namesakes_insert_of_not_goesBy {schema name : String} {table : Table}
    (other : ¬ GoesBy table schema name) (tables : List Table) :
    namesakes (insert tables table) schema name = namesakes tables schema name := by
  rw [insert_eq, namesakes_append, namesakes_without, namesakes_cons_of_not_goesBy other]
  refine (List.append_nil _).trans (without_eq_self ?_)
  intro candidate member same
  exact other ((mem_namesakes.mp member).2.of_sameKey same)

theorem namesakes_insertAll (tables more : List Table) (schema name : String) :
    namesakes (insertAll tables more) schema name =
      insertAll (namesakes tables schema name) (namesakes more schema name) := by
  induction more generalizing tables with
  | nil => rfl
  | cons table rest induction =>
      rw [insertAll_cons, induction]
      by_cases goesBy : GoesBy table schema name
      · rw [namesakes_insert_of_goesBy goesBy, namesakes_cons_of_goesBy goesBy, insertAll_cons]
      · rw [namesakes_insert_of_not_goesBy goesBy, namesakes_cons_of_not_goesBy goesBy]

theorem namesakes_congr {schema name : String} {table : Table}
    (goesBy : GoesBy table schema name) (tables : List Table) :
    namesakes tables schema name = namesakes tables table.schema table.name := by
  unfold namesakes GoesBy Text.SameFold
  rw [goesBy.1, goesBy.2]

end RoleCatalog.Registry

import RoleCatalog.Table.Basic

/-! A registry holds tables in the order of their registration. A table replaces the
one with exactly its schema and name, and comes last; a search ignores ASCII case and
takes the first match. The default tables are loaded once, by the first step that
reads. -/

namespace RoleCatalog

structure Registry where
  tables : List Table
  defaultsLoaded : Bool

namespace Registry

def fresh : Registry :=
  ⟨[], false⟩

abbrev SameKey (left right : Table) : Prop :=
  left.schema = right.schema ∧ left.name = right.name

theorem SameKey.symm {left right : Table} (same : SameKey left right) : SameKey right left :=
  ⟨same.1.symm, same.2.symm⟩

theorem SameKey.trans {left middle right : Table} (first : SameKey left middle)
    (second : SameKey middle right) : SameKey left right :=
  ⟨first.1.trans second.1, first.2.trans second.2⟩

/-- The list with one more table, after any table of the same key is removed. -/
def insert (tables : List Table) (table : Table) : List Table :=
  (tables.filter fun other => !decide (SameKey other table)) ++ [table]

theorem mem_insert {tables : List Table} {table other : Table} :
    other ∈ insert tables table ↔ (other ∈ tables ∧ ¬ SameKey other table) ∨ other = table := by
  rw [insert, List.mem_append, List.mem_filter, Bool.not_eq_true', decide_eq_false_iff_not,
    List.mem_singleton]

theorem insert_insert (tables : List Table) (table : Table) :
    insert (insert tables table) table = insert tables table := by
  simp [insert, List.filter_append]

def register (registry : Registry) (table : Table) : Registry :=
  { registry with tables := insert registry.tables table }

def registerDefaults (registry : Registry) : Registry :=
  { registry with tables := Table.defaults.foldl insert registry.tables }

def ensureDefaults (registry : Registry) : Registry :=
  if registry.defaultsLoaded then registry
  else { registry.registerDefaults with defaultsLoaded := true }

def keys (registry : Registry) : List (String × String) :=
  registry.tables.map fun table => (table.schema, table.name)

def find? (registry : Registry) (schema name : String) : Option Table :=
  registry.tables.find? fun table =>
    decide (Text.SameFold table.schema schema ∧ Text.SameFold table.name name)

end Registry

end RoleCatalog

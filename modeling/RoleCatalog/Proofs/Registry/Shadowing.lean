import RoleCatalog.Proofs.Registry.Loading

/-! # Tables that hide a later one

A registration removes only a table of exactly the same schema and name, while a
search takes the first table that goes by a name up to ASCII case. So a table that
was registered earlier under another spelling of a name stays in front and is found
in place of the new one. This module says exactly when a table that has just been
registered is found under its own name.
-/

namespace RoleCatalog.Registry

/-- The names agree up to ASCII case but are not the same. -/
def Respells (other table : Table) : Prop :=
  GoesBy other table.schema table.name ∧ ¬ SameKey other table

instance (other table : Table) : Decidable (Respells other table) :=
  inferInstanceAs (Decidable (GoesBy other table.schema table.name ∧ ¬ SameKey other table))

/-- The answer to a search for a table right after its registration. -/
def answerAfterRegister (steps : List Step) (table : Table) : Option Answer :=
  (fresh.run (steps ++ [.register table, .find table.schema table.name])).2.getLast?

/-- The tables that a search registers before it looks. -/
def pending (loaded : Bool) : List Table :=
  if loaded then [] else Table.defaults

/-! ## The first namesake -/

theorem namesakes_insert_self (tables : List Table) (table : Table) :
    namesakes (insert tables table) table.schema table.name =
      without (namesakes tables table.schema table.name) table ++ [table] :=
  namesakes_insert_of_goesBy ⟨rfl, rfl⟩ tables

theorem mem_without_namesakes {tables : List Table} {table other : Table} :
    other ∈ without (namesakes tables table.schema table.name) table ↔
      other ∈ tables ∧ Respells other table := by
  rw [mem_without, mem_namesakes, Respells, and_assoc]

/-- A list with a table of another key in front does not begin with the table. -/
theorem head?_append_eq_some_iff {front back : List Table} {table : Table}
    (different : ∀ other ∈ front, ¬ SameKey other table) :
    (front ++ back).head? = some table ↔ front = [] ∧ back.head? = some table := by
  cases front with
  | nil => simp
  | cons head rest =>
      have distinct : head ≠ table := by
        rintro rfl
        exact different head List.mem_cons_self ⟨rfl, rfl⟩
      simp [distinct]

theorem without_eq_nil_iff {tables : List Table} {table : Table} :
    without tables table = [] ↔ ∀ other ∈ tables, SameKey other table := by
  rw [without, List.filter_eq_nil_iff]
  simp only [Bool.not_eq_true', decide_eq_false_iff_not, not_not]

/-- One more insertion takes away the tables of its key, the last one included. -/
theorem head?_insert_append_singleton_iff {front : List Table} {table later : Table}
    (different : ∀ other ∈ front, ¬ SameKey other table) :
    (insert (front ++ [table]) later).head? = some table ↔
      (∀ other ∈ front, SameKey other later) ∧ (SameKey later table → later = table) := by
  have stillDifferent : ∀ other ∈ without front later, ¬ SameKey other table :=
    fun other member => different other (mem_without.mp member).1
  rw [insert_eq, without_append, List.append_assoc, head?_append_eq_some_iff stillDifferent,
    without_eq_nil_iff]
  by_cases same : SameKey table later
  · rw [without_cons_of_sameKey same]
    simp [without, same.symm]
  · have apart : ¬ SameKey later table := fun equal => same equal.symm
    rw [without_cons_of_not_sameKey same]
    simp [apart]

theorem head?_insertAll_append_singleton_iff {front more : List Table} {table : Table}
    (different : ∀ other ∈ front, ¬ SameKey other table) (few : more.length ≤ 1) :
    (insertAll (front ++ [table]) more).head? = some table ↔
      (∀ other ∈ front, ∃ later ∈ more, SameKey other later) ∧
        ∀ later ∈ more, SameKey later table → later = table := by
  match more, few with
  | [], _ =>
      rw [insertAll_nil, head?_append_eq_some_iff different]
      simp [List.eq_nil_iff_forall_not_mem]
  | [later], _ =>
      rw [insertAll_cons, insertAll_nil, head?_insert_append_singleton_iff different]
      simp only [List.mem_singleton, exists_eq_left, forall_eq]

/-! ## A search right after a registration -/

theorem length_namesakes_pending_le (loaded : Bool) (schema name : String) :
    (namesakes (pending loaded) schema name).length ≤ 1 := by
  cases loaded with
  | true => exact Nat.zero_le 1
  | false =>
      by_cases known : ∃ default ∈ Table.defaults, GoesBy default schema name
      · rcases known with ⟨default, member, goesBy⟩
        rw [namesakes_congr goesBy]
        exact Nat.le_of_eq (congrArg List.length (namesakes_defaults member))
      · have none : namesakes (pending false) schema name = [] := namesakes_eq_nil known
        rw [none]
        exact Nat.zero_le 1

theorem after_find_tables (registry : Registry) (schema name : String) :
    (registry.after (.find schema name)).tables =
      insertAll registry.tables (pending registry.defaultsLoaded) := by
  rw [after_of_reads rfl]
  cases loaded : registry.defaultsLoaded with
  | false => rw [ensureDefaults_of_not_loaded loaded]; rfl
  | true => rw [ensureDefaults_of_loaded loaded]; rfl

/-- The table is in front of the tables registered after it, and those before it under
another spelling have to be registered again. -/
theorem find?_after_register_iff (registry : Registry) (table : Table) :
    ((registry.register table).after (.find table.schema table.name)).find?
        table.schema table.name = some table ↔
      (∀ other ∈ registry.tables, Respells other table →
        ∃ later ∈ pending registry.defaultsLoaded, SameKey other later) ∧
      ∀ later ∈ pending registry.defaultsLoaded, SameKey later table → later = table := by
  have different : ∀ other ∈ without
      (namesakes registry.tables table.schema table.name) table, ¬ SameKey other table :=
    fun other member => (mem_without.mp member).2
  have few := length_namesakes_pending_le registry.defaultsLoaded table.schema table.name
  rw [find?_eq_head?_namesakes, after_find_tables, namesakes_insertAll, register,
    namesakes_insert_self, head?_insertAll_append_singleton_iff different few]
  -- a table that respells or replaces the new one goes by its name, so a search sees it
  refine and_congr ?_ ?_
  · constructor
    · intro law other member respells
      rcases law other (mem_without_namesakes.mpr ⟨member, respells⟩) with ⟨later, found, same⟩
      exact ⟨later, (mem_namesakes.mp found).1, same⟩
    · intro law other found
      have older := mem_without_namesakes.mp found
      rcases law other older.1 older.2 with ⟨later, member, same⟩
      exact ⟨later, mem_namesakes.mpr ⟨member, older.2.1.of_sameKey same⟩, same⟩
  · constructor
    · intro law later member same
      have goesBy : GoesBy later table.schema table.name :=
        GoesBy.of_sameKey (SameKey.symm same) ⟨rfl, rfl⟩
      exact law later (mem_namesakes.mpr ⟨member, goesBy⟩) same
    · intro law later found same
      exact law later (mem_namesakes.mp found).1 same

theorem goesBy_of_find? {registry : Registry} {schema name : String} {found : Table}
    (result : registry.find? schema name = some found) : GoesBy found schema name := by
  have goesBy := List.find?_some result
  exact of_decide_eq_true goesBy

theorem exists_find?_of_mem_keys {registry : Registry} {schema name : String}
    (member : (schema, name) ∈ registry.keys) :
    ∃ found, registry.find? schema name = some found := by
  rcases mem_keys_iff.mp member with ⟨table, tableMember, equal⟩
  cases equal
  exact Option.isSome_iff_exists.mp
    (List.find?_isSome.mpr ⟨table, tableMember, decide_eq_true ⟨rfl, rfl⟩⟩)

/-! ## After any run -/

theorem answerAfterRegister_eq (steps : List Step) (table : Table) :
    answerAfterRegister steps table =
      some (.table ((((fresh.run steps).1.register table).after
        (.find table.schema table.name)).find? table.schema table.name)) := by
  rw [answerAfterRegister, run_append_answers, List.getLast?_append]
  rfl

theorem answerAfterRegister_eq_some_iff {steps : List Step} {table found : Table} :
    answerAfterRegister steps table = some (.table (some found)) ↔
      (((fresh.run steps).1.register table).after
        (.find table.schema table.name)).find? table.schema table.name = some found := by
  rw [answerAfterRegister_eq, Option.some.injEq, Answer.table.injEq]

/-- The log and the registry hold the same keys. -/
theorem forall_mem_run_fresh_iff {motive : Table → Prop}
    (congr : ∀ left right, SameKey left right → motive left → motive right)
    (steps : List Step) :
    (∀ table ∈ (fresh.run steps).1.tables, motive table) ↔
      ∀ table ∈ log false steps, motive table := by
  rw [run_fresh_state]
  constructor
  · intro law table member
    rcases exists_mem_keepLast member with ⟨kept, keptMember, same⟩
    exact congr kept table same (law kept keptMember)
  · intro law table member
    exact law table (mem_of_mem_keepLast member)

theorem Respells.of_sameKey {left right table : Table} (same : SameKey left right)
    (respells : Respells left table) : Respells right table :=
  ⟨respells.1.of_sameKey same, fun equal => respells.2 (same.trans equal)⟩

theorem answerAfterRegister_eq_self_iff (steps : List Step) (table : Table) :
    answerAfterRegister steps table = some (.table (some table)) ↔
      (∀ other ∈ log false steps, Respells other table →
        ∃ later ∈ pending (steps.any Step.reads), SameKey other later) ∧
      ∀ later ∈ pending (steps.any Step.reads), SameKey later table → later = table := by
  rw [answerAfterRegister_eq_some_iff, find?_after_register_iff, defaultsLoaded_run_fresh]
  refine and_congr_left' (forall_mem_run_fresh_iff ?_ steps)
  intro left right same law respells
  rcases law (respells.of_sameKey same.symm) with ⟨later, member, equal⟩
  exact ⟨later, member, same.symm.trans equal⟩

theorem exists_answerAfterRegister (steps : List Step) (table : Table) :
    ∃ found, answerAfterRegister steps table = some (.table (some found)) ∧
      GoesBy found table.schema table.name := by
  have logged : table ∈ log false
      (steps ++ [.register table, .find table.schema table.name]) := by
    rw [log_append]
    exact List.mem_append_right _ (List.mem_cons_self (l := log _ [_]))
  have key := key_mem_run_fresh logged
  rw [run_append_state] at key
  rcases exists_find?_of_mem_keys key with ⟨found, result⟩
  exact ⟨found, answerAfterRegister_eq_some_iff.mpr result, goesBy_of_find? result⟩

/-- What hides a table in a registry with the defaults is an older one. -/
theorem mem_of_answerAfterRegister {steps : List Step} (loaded : steps.any Step.reads = true)
    {table found : Table}
    (answer : answerAfterRegister steps table = some (.table (some found)))
    (different : found ≠ table) :
    found ∈ (fresh.run steps).1.tables ∧ Respells found table := by
  have result := answerAfterRegister_eq_some_iff.mp answer
  have member := List.mem_of_find?_eq_some result
  rw [after_find_tables, register, defaultsLoaded_run_fresh, loaded] at member
  rcases mem_insert.mp member with ⟨older, apart⟩ | equal
  · exact ⟨older, goesBy_of_find? result, apart⟩
  · exact absurd equal different

/-- A search for a table that has just been registered finds a table of that name. In a
registry with the defaults it finds the table itself exactly when no table was ever
registered under another spelling of its name, and otherwise such an older table. Where
the search itself loads the defaults, these come after the table: they take its place
under the same key, and they move tables of their own keys out of its way. -/
theorem find_registered_iff_unshadowed (steps : List Step) (table : Table) :
    (∃ found, answerAfterRegister steps table = some (.table (some found)) ∧
      GoesBy found table.schema table.name) ∧
    (steps.any Step.reads = true →
      (answerAfterRegister steps table = some (.table (some table)) ↔
        ∀ other ∈ log false steps, ¬ Respells other table) ∧
      ∀ found, answerAfterRegister steps table = some (.table (some found)) →
        found ≠ table → found ∈ (fresh.run steps).1.tables ∧ Respells found table) ∧
    (steps.any Step.reads = false →
      (answerAfterRegister steps table = some (.table (some table)) ↔
        (∀ other ∈ log false steps, Respells other table →
          ∃ default ∈ Table.defaults, SameKey other default) ∧
        ∀ default ∈ Table.defaults, SameKey default table → default = table)) := by
  have found := answerAfterRegister_eq_self_iff steps table
  refine ⟨exists_answerAfterRegister steps table, ?_, ?_⟩
  · intro loaded
    refine ⟨?_, fun other => mem_of_answerAfterRegister loaded⟩
    rw [loaded] at found
    simpa [pending] using found
  · intro missing
    rw [missing] at found
    exact found

/-- A table takes the place of an older one of its key. Under another spelling of a
default it is found when the search still has to load the defaults. -/
theorem find_registered_replacement_and_respelling :
    [Step.all, .register (.ofColumns "public" "accounts" [])].any Step.reads = true ∧
      answerAfterRegister [.all, .register (.ofColumns "public" "accounts" [])]
          (.ofColumns "public" "accounts" [⟨"id", .oid, 1, false⟩]) =
        some (.table (some (.ofColumns "public" "accounts" [⟨"id", .oid, 1, false⟩]))) ∧
      [Step.registerDefaults].any Step.reads = false ∧
      answerAfterRegister [.registerDefaults] (.ofColumns "pg_catalog" "PG_ROLES" []) =
        some (.table (some (.ofColumns "pg_catalog" "PG_ROLES" []))) := by
  have replaced := find_registered_iff_unshadowed
    [.all, .register (.ofColumns "public" "accounts" [])]
    (.ofColumns "public" "accounts" [⟨"id", .oid, 1, false⟩])
  have respelled := find_registered_iff_unshadowed [.registerDefaults]
    (.ofColumns "pg_catalog" "PG_ROLES" [])
  have unshadowed : ∀ other ∈ log false [.all, .register (.ofColumns "public" "accounts" [])],
      ¬ Respells other (.ofColumns "public" "accounts" [⟨"id", .oid, 1, false⟩]) := by decide
  have reloaded : ∀ other ∈ log false [.registerDefaults],
      Respells other (.ofColumns "pg_catalog" "PG_ROLES" []) →
        ∃ default ∈ Table.defaults, SameKey other default := by decide
  have spelledApart : ∀ default ∈ Table.defaults,
      ¬ SameKey default (.ofColumns "pg_catalog" "PG_ROLES" []) := by decide
  exact ⟨rfl, (replaced.2.1 rfl).1.mpr unshadowed, rfl, (respelled.2.2 rfl).mpr
    ⟨reloaded, fun default member same => absurd same (spelledApart default member)⟩⟩

/-- The older table of two spellings stays in front of the newer one. -/
theorem not_answerAfterRegister_self :
    ¬ ∀ (steps : List Step) (table : Table), steps.any Step.reads = true →
      answerAfterRegister steps table = some (.table (some table)) := by
  intro law
  have answer := law [.ensureDefaults, .register (.ofColumns "public" "Accounts" [])]
    (.ofColumns "public" "accounts" [⟨"id", .oid, 1, false⟩]) rfl
  have older : answerAfterRegister
      [.ensureDefaults, .register (.ofColumns "public" "Accounts" [])]
      (.ofColumns "public" "accounts" [⟨"id", .oid, 1, false⟩]) =
        some (.table (some (.ofColumns "public" "Accounts" []))) := rfl
  have same := Option.some.inj (Answer.table.inj (Option.some.inj (older.symm.trans answer)))
  exact absurd (congrArg Table.name same) (by decide)

end RoleCatalog.Registry

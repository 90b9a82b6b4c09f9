import RoleCatalog.Proofs.Registry.Loading

/-! # Independent registrations

A registration moves tables of its own name alone, so a search for another name does not
see it, now or later. Two registrations of different names can change places: the tables
then stand in another order, but those of any one name do not.
-/

namespace RoleCatalog.Registry

/-- The names differ even up to ASCII case. -/
abbrev Independent (left right : Table) : Prop :=
  ¬ GoesBy left right.schema right.name

theorem Independent.not_sameKey {left right : Table} (independent : Independent left right) :
    ¬ SameKey left right := fun same =>
  independent (GoesBy.of_sameKey same.symm ⟨rfl, rfl⟩)

theorem Independent.not_goesBy {left right : Table} (independent : Independent left right)
    {schema name : String} (goesBy : GoesBy left schema name) : ¬ GoesBy right schema name :=
  fun other => independent ⟨goesBy.1.trans other.1.symm, goesBy.2.trans other.2.symm⟩

/-! ## One list in two orders -/

theorem perm_insert {left right : List Table} (perm : left.Perm right) (table : Table) :
    (insert left table).Perm (insert right table) :=
  (perm.filter _).append_right [table]

theorem perm_insertAll {left right : List Table} (perm : left.Perm right) (more : List Table) :
    (insertAll left more).Perm (insertAll right more) := by
  induction more generalizing left right with
  | nil => exact perm
  | cons table rest induction => exact induction (perm_insert perm table)

theorem perm_keys {left right : Registry} (perm : left.tables.Perm right.tables) :
    left.keys.Perm right.keys :=
  perm.map _

/-- Tables of two keys end the list in the order in which they were inserted. -/
theorem insert_insert_eq {first second : Table} (different : ¬ SameKey first second)
    (tables : List Table) :
    insert (insert tables first) second =
      without (without tables first) second ++ [first, second] := by
  rw [insert_eq _ second, without_insert_of_not_sameKey different, insert_eq, without_comm,
    List.append_assoc]
  rfl

theorem perm_insert_insert {first second : Table} (different : ¬ SameKey first second)
    (tables : List Table) :
    (insert (insert tables first) second).Perm (insert (insert tables second) first) := by
  have reverse : ¬ SameKey second first := fun same => different same.symm
  rw [insert_insert_eq different, insert_insert_eq reverse, without_comm]
  exact (List.Perm.swap second first []).append_left _

theorem namesakes_insert_insert {first second : Table} (independent : Independent first second)
    (tables : List Table) (schema name : String) :
    namesakes (insert (insert tables first) second) schema name =
      namesakes (insert (insert tables second) first) schema name := by
  by_cases goesBy : GoesBy first schema name
  · have other := independent.not_goesBy goesBy
    rw [namesakes_insert_of_not_goesBy other, namesakes_insert_of_goesBy goesBy,
      namesakes_insert_of_goesBy goesBy, namesakes_insert_of_not_goesBy other]
  · rw [namesakes_insert_of_not_goesBy goesBy]
    by_cases other : GoesBy second schema name
    · rw [namesakes_insert_of_goesBy other, namesakes_insert_of_goesBy other,
        namesakes_insert_of_not_goesBy goesBy]
    · rw [namesakes_insert_of_not_goesBy other, namesakes_insert_of_not_goesBy other,
        namesakes_insert_of_not_goesBy goesBy]

/-! ## Runs -/

theorem namesakes_run (registry : Registry) (steps : List Step) (schema name : String) :
    namesakes (registry.run steps).1.tables schema name =
      insertAll (namesakes registry.tables schema name)
        (namesakes (log registry.defaultsLoaded steps) schema name) := by
  rw [run_state, namesakes_insertAll]

theorem answer_find_run (registry : Registry) (steps : List Step) (schema name : String) :
    ((registry.run steps).1.step (.find schema name)).2 =
      .table (namesakes (registry.run (steps ++ [.find schema name])).1.tables
        schema name).head? := by
  rw [← find?_eq_head?_namesakes, run_append_state]
  rfl

theorem answer_all_run (registry : Registry) (steps : List Step) :
    ((registry.run steps).1.step .all).2 = .keys (registry.run (steps ++ [.all])).1.keys := by
  rw [run_append_state]
  rfl

/-- The namesakes of one name decide every search for it, also after more steps. -/
theorem answer_find_register {table : Table} {schema name : String}
    (other : ¬ GoesBy table schema name) (registry : Registry) (steps : List Step) :
    (((registry.register table).run steps).1.step (.find schema name)).2 =
      ((registry.run steps).1.step (.find schema name)).2 := by
  have unseen : namesakes (registry.register table).tables schema name =
      namesakes registry.tables schema name :=
    namesakes_insert_of_not_goesBy other registry.tables
  rw [answer_find_run, answer_find_run, namesakes_run, namesakes_run, unseen]
  rfl

theorem alike_register_register {first second : Table} (independent : Independent first second)
    (registry : Registry) :
    Alike ((registry.register first).register second)
      ((registry.register second).register first) :=
  ⟨rfl, namesakes_insert_insert independent registry.tables⟩

theorem perm_tables_run {first second : Table} (independent : Independent first second)
    (registry : Registry) (steps : List Step) :
    (((registry.register first).register second).run steps).1.tables.Perm
      (((registry.register second).register first).run steps).1.tables := by
  rw [run_state, run_state]
  exact perm_insertAll (perm_insert_insert independent.not_sameKey registry.tables)
    (log registry.defaultsLoaded steps)

/-! ## The law -/

theorem run_register (steps later : List Step) (table : Table) :
    (fresh.run (steps ++ [.register table] ++ later)).1 =
      (((fresh.run steps).1.register table).run later).1 := by
  rw [run_append_state, run_append_state]
  rfl

theorem run_register_register (steps later : List Step) (first second : Table) :
    (fresh.run (steps ++ [.register first, .register second] ++ later)).1 =
      ((((fresh.run steps).1.register first).register second).run later).1 := by
  rw [run_append_state, run_append_state]
  rfl

/-- After any run, a registration changes no search for another name, neither at once nor
after more steps. Registrations of two different names can change places: every later
search is answered alike, and the lists of all tables are permutations of each other. -/
theorem register_local_and_commuting (steps : List Step) :
    (∀ (table : Table) (schema name : String), ¬ GoesBy table schema name →
      ∀ later : List Step,
        ((fresh.run (steps ++ [.register table] ++ later)).1.step (.find schema name)).2 =
          ((fresh.run (steps ++ later)).1.step (.find schema name)).2) ∧
    (∀ first second : Table, ¬ GoesBy first second.schema second.name →
      ∀ later : List Step,
        AgreeOn (fresh.run (steps ++ [.register first, .register second])).1
          (fresh.run (steps ++ [.register second, .register first])).1 later ∧
        (fresh.run (steps ++ [.register first, .register second] ++ later)).1.tables.Perm
          (fresh.run (steps ++ [.register second, .register first] ++ later)).1.tables ∧
        ∃ left right,
          ((fresh.run (steps ++ [.register first, .register second] ++ later)).1.step .all).2 =
            .keys left ∧
          ((fresh.run (steps ++ [.register second, .register first] ++ later)).1.step .all).2 =
            .keys right ∧
          left.Perm right) := by
  constructor
  · intro table schema name other later
    rw [run_register, run_append_state]
    exact answer_find_register other (fresh.run steps).1 later
  · intro first second independent later
    constructor
    · rw [run_append_state, run_append_state]
      exact (alike_register_register independent (fresh.run steps).1).agreeOn later
    · have tables := perm_tables_run independent (fresh.run steps).1
      rw [run_register_register, run_register_register]
      exact ⟨tables later, _, _, answer_all_run _ later, answer_all_run _ later,
        perm_keys (tables (later ++ [.all]))⟩

/-- A registration that respells a table is not seen by a search for a default, and can
change places with one that respells that default. -/
theorem register_respelled_accounts_and_roles :
    (¬ GoesBy (.ofColumns "PUBLIC" "ACCOUNTS" []) "pg_catalog" "pg_roles" ∧
      ((fresh.run ([.register (.ofColumns "public" "Accounts" [])] ++
          [.register (.ofColumns "PUBLIC" "ACCOUNTS" [])] ++ [.all])).1.step
            (.find "pg_catalog" "pg_roles")).2 =
        ((fresh.run ([.register (.ofColumns "public" "Accounts" [])] ++ [.all])).1.step
            (.find "pg_catalog" "pg_roles")).2) ∧
    (¬ GoesBy (.ofColumns "PUBLIC" "ACCOUNTS" []) "pg_catalog" "PG_ROLES" ∧
      AgreeOn
        (fresh.run ([.register (.ofColumns "public" "Accounts" [])] ++
          [.register (.ofColumns "PUBLIC" "ACCOUNTS" []),
           .register (.ofColumns "pg_catalog" "PG_ROLES" [])])).1
        (fresh.run ([.register (.ofColumns "public" "Accounts" [])] ++
          [.register (.ofColumns "pg_catalog" "PG_ROLES" []),
           .register (.ofColumns "PUBLIC" "ACCOUNTS" [])])).1
        [.lookup "public.accounts", .build "pg_roles" .standard]) := by
  have law := register_local_and_commuting [.register (.ofColumns "public" "Accounts" [])]
  have unseen : ¬ GoesBy (.ofColumns "PUBLIC" "ACCOUNTS" []) "pg_catalog" "pg_roles" := by
    decide
  have independent : ¬ GoesBy (.ofColumns "PUBLIC" "ACCOUNTS" []) "pg_catalog" "PG_ROLES" := by
    decide
  exact ⟨⟨unseen, law.1 _ _ _ unseen [.all]⟩, independent,
    (law.2 _ (.ofColumns "pg_catalog" "PG_ROLES" []) independent _).1⟩

end RoleCatalog.Registry

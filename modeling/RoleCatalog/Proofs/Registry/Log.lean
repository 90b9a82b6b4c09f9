import RoleCatalog.Proofs.Registry.Insertion

/-! # The registry as a log

After any run the registry is the log of its registrations with only the last
occurrence of every key kept. The log gets the default tables at every registration
of the defaults, and once more at the first step that reads.
-/

namespace RoleCatalog.Registry

def Step.reads : Step → Bool
  | .register _ | .registerDefaults => false
  | _ => true

/-- The tables that a step registers by itself. -/
def Step.registered : Step → List Table
  | .register table => [table]
  | .registerDefaults => Table.defaults
  | _ => []

/-- The registrations of a run, in order. `loaded` says whether a step before it has
read. -/
def log (loaded : Bool) : List Step → List Table
  | [] => []
  | action :: rest =>
      if action.reads && !loaded then Table.defaults ++ log true rest
      else action.registered ++ log loaded rest

example (table : Table) : log false [.register table, .all, .registerDefaults, .all] =
    table :: Table.defaults ++ Table.defaults := rfl

/-! ## One step, and a whole run -/

theorem after_of_not_reads {action : Step} (writes : action.reads = false)
    (registry : Registry) :
    registry.after action =
      ⟨insertAll registry.tables action.registered, registry.defaultsLoaded⟩ := by
  cases action with
  | register table => rfl
  | registerDefaults => rfl
  | _ => cases writes

theorem after_of_reads {action : Step} (reads : action.reads = true) (registry : Registry) :
    registry.after action = registry.ensureDefaults := by
  cases action with
  | register table => cases reads
  | registerDefaults => cases reads
  | _ => rfl

theorem registered_of_reads {action : Step} (reads : action.reads = true) :
    action.registered = [] := by
  cases action with
  | register table => cases reads
  | registerDefaults => cases reads
  | _ => rfl

theorem ensureDefaults_of_loaded {registry : Registry}
    (loaded : registry.defaultsLoaded = true) : registry.ensureDefaults = registry :=
  if_pos loaded

theorem ensureDefaults_of_not_loaded {registry : Registry}
    (missing : registry.defaultsLoaded = false) :
    registry.ensureDefaults = ⟨insertAll registry.tables Table.defaults, true⟩ :=
  if_neg (by rw [missing]; decide)

theorem run_cons_state (registry : Registry) (action : Step) (rest : List Step) :
    (registry.run (action :: rest)).1 = ((registry.after action).run rest).1 :=
  rfl

/-- The induction is on the run: what one step adds to the log is inserted by it. -/
theorem run_state (registry : Registry) (steps : List Step) :
    (registry.run steps).1 =
      ⟨insertAll registry.tables (log registry.defaultsLoaded steps),
        registry.defaultsLoaded || steps.any Step.reads⟩ := by
  induction steps generalizing registry with
  | nil => simp [run, log]
  | cons action rest induction =>
      rw [run_cons_state, induction, log, List.any_cons]
      cases reads : action.reads with
      | false => simp [after_of_not_reads reads, insertAll_append]
      | true =>
          rw [after_of_reads reads]
          cases loaded : registry.defaultsLoaded with
          | false => simp [ensureDefaults_of_not_loaded loaded, insertAll_append]
          | true => simp [ensureDefaults_of_loaded loaded, registered_of_reads reads, loaded]

theorem run_fresh_state (steps : List Step) :
    (fresh.run steps).1 = ⟨keepLast (log false steps), steps.any Step.reads⟩ := by
  rw [run_state, ← insertAll_nil_eq_keepLast]
  rfl

theorem log_append (loaded : Bool) (earlier later : List Step) :
    log loaded (earlier ++ later) =
      log loaded earlier ++ log (loaded || earlier.any Step.reads) later := by
  induction earlier generalizing loaded with
  | nil => simp [log]
  | cons action rest induction =>
      rw [List.cons_append, log, log, List.any_cons]
      cases reads : action.reads <;> cases loaded <;> simp [induction]

/-! ## Consequences for the keys -/

theorem mem_keys_iff {registry : Registry} {key : String × String} :
    key ∈ registry.keys ↔ ∃ table ∈ registry.tables, (table.schema, table.name) = key := by
  rw [keys, List.mem_map]

theorem apart_run_fresh (steps : List Step) : Apart (fresh.run steps).1.tables := by
  rw [run_fresh_state]
  exact apart_keepLast _

theorem nodup_keys_run_fresh (steps : List Step) : (fresh.run steps).1.keys.Nodup := by
  rw [keys, List.Nodup, List.pairwise_map]
  apply (apart_run_fresh steps).imp
  intro left right different equal
  exact different (Prod.mk.inj equal)

theorem key_mem_run_fresh {steps : List Step} {table : Table} (member : table ∈ log false steps) :
    (table.schema, table.name) ∈ (fresh.run steps).1.keys := by
  rcases exists_mem_keepLast member with ⟨kept, keptMember, same⟩
  rw [mem_keys_iff, run_fresh_state]
  exact ⟨kept, keptMember, Prod.ext same.1 same.2⟩

theorem keys_subset_run_append (steps later : List Step) :
    (fresh.run steps).1.keys ⊆ (fresh.run (steps ++ later)).1.keys := by
  intro key member
  rcases mem_keys_iff.mp member with ⟨table, tableMember, rfl⟩
  apply key_mem_run_fresh
  rw [run_fresh_state] at tableMember
  rw [log_append]
  exact List.mem_append_left _ (mem_of_mem_keepLast tableMember)

theorem register_register (registry : Registry) (table : Table) :
    (registry.register table).register table = registry.register table := by
  simp only [register, insert_insert]

theorem run_append_register_register (steps : List Step) (table : Table) :
    (fresh.run (steps ++ [.register table, .register table])).1 =
      (fresh.run (steps ++ [.register table])).1 := by
  rw [run_append_state, run_append_state]
  exact register_register _ table

theorem run_append_read {steps : List Step} (earlier : steps.any Step.reads = true)
    {read : Step} (reads : read.reads = true) :
    (fresh.run (steps ++ [read])).1 = (fresh.run steps).1 := by
  have loaded : (fresh.run steps).1.defaultsLoaded = true := by
    rw [run_fresh_state, earlier]
  rw [run_append_state]
  calc
    ((fresh.run steps).1.run [read]).1 = (fresh.run steps).1.after read := rfl
    _ = (fresh.run steps).1.ensureDefaults := after_of_reads reads _
    _ = (fresh.run steps).1 := ensureDefaults_of_loaded loaded

/-! ## The law -/

/-- The prefixes of a run are runs, so the equation holds after each of them. -/
theorem run_fresh_eq_keepLast_log (steps : List Step) :
    (fresh.run steps).1.tables = keepLast (log false steps) ∧
      (fresh.run steps).1.keys.Nodup ∧
      (∀ table ∈ log false steps,
        (table.schema, table.name) ∈ (fresh.run steps).1.keys) ∧
      (∀ later, (fresh.run steps).1.keys ⊆ (fresh.run (steps ++ later)).1.keys) ∧
      (∀ table, (fresh.run (steps ++ [.register table, .register table])).1 =
        (fresh.run (steps ++ [.register table])).1) ∧
      (∀ read, steps.any Step.reads = true → read.reads = true →
        (fresh.run (steps ++ [read])).1 = (fresh.run steps).1) := by
  refine ⟨?_, nodup_keys_run_fresh steps, fun table => key_mem_run_fresh,
    keys_subset_run_append steps, run_append_register_register steps,
    fun read earlier reads => run_append_read earlier reads⟩
  rw [run_fresh_state]

theorem run_fresh_find_then_all :
    Table.roles ∈ log false [.find "pg_catalog" "pg_roles"] ∧
      (Table.roles.schema, Table.roles.name) ∈
        (fresh.run [.find "pg_catalog" "pg_roles"]).1.keys ∧
      (fresh.run ([.find "pg_catalog" "pg_roles"] ++ [.all])).1 =
        (fresh.run [.find "pg_catalog" "pg_roles"]).1 := by
  have law := run_fresh_eq_keepLast_log [.find "pg_catalog" "pg_roles"]
  have member : Table.roles ∈ log false [.find "pg_catalog" "pg_roles"] :=
    List.mem_cons_of_mem Table.authid List.mem_cons_self
  exact ⟨member, law.2.2.1 Table.roles member, law.2.2.2.2.2 .all rfl rfl⟩

end RoleCatalog.Registry

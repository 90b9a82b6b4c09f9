import RoleCatalog.Proofs.Registry.Log
import Mathlib.Data.List.Nodup

/-! # When the defaults are loaded

The default tables are registered by the first step that reads, so they come after the
tables registered before that step. Searches show the difference, and this module says
exactly when: a reading step put into a run changes no later search if the tables
registered between it and the next reading step leave the defaults settled. A default
is settled when the last of those tables that goes by its name, if there is one, is
the default itself.
-/

namespace RoleCatalog.Registry

def Step.searches : Step → Bool
  | .find .. | .lookup _ | .build .. | .schemaMap _ => true
  | _ => false

/-- Two registries answer every search of a run alike. -/
def AgreeOn (left right : Registry) (steps : List Step) : Prop :=
  ∀ (index : Nat) (action : Step), steps[index]? = some action → action.searches = true →
    (left.run steps).2[index]? = (right.run steps).2[index]?

/-- The tables registered before the first step that reads. -/
def leading (steps : List Step) : List Table :=
  (steps.takeWhile fun action => !action.reads).flatMap Step.registered

def Settled (tables : List Table) (default : Table) : Prop :=
  ∀ table, (namesakes tables default.schema default.name).getLast? = some table →
    table = default

/-! ## Registries with the same namesakes -/

structure Alike (left right : Registry) : Prop where
  loaded : left.defaultsLoaded = right.defaultsLoaded
  namesakes : ∀ schema name,
    namesakes left.tables schema name = namesakes right.tables schema name

theorem Alike.find? {left right : Registry} (alike : Alike left right) (schema name : String) :
    left.find? schema name = right.find? schema name := by
  rw [find?_eq_head?_namesakes, find?_eq_head?_namesakes, alike.namesakes]

theorem Alike.lookup? {left right : Registry} (alike : Alike left right) (text : String) :
    left.lookup? text = right.lookup? text := by
  have sameSearch : left.find? = right.find? := by
    funext schema name
    exact alike.find? schema name
  simp only [Registry.lookup?, resolve?, sameSearch]

theorem Alike.answer {left right : Registry} (alike : Alike left right) {action : Step}
    (searches : action.searches = true) : left.answer action = right.answer action := by
  cases action with
  | find schema name => simp only [Registry.answer, alike.find?]
  | lookup text => simp only [Registry.answer, alike.lookup?]
  | build text settings => simp only [Registry.answer, alike.lookup?]
  | schemaMap text => simp only [Registry.answer, alike.lookup?]
  | register table => cases searches
  | registerDefaults => cases searches
  | ensureDefaults => cases searches
  | all => cases searches

theorem Alike.insertAll {left right : Registry} (alike : Alike left right) (more : List Table)
    (loaded : Bool) :
    Alike ⟨insertAll left.tables more, loaded⟩ ⟨insertAll right.tables more, loaded⟩ := by
  refine ⟨rfl, ?_⟩
  intro schema name
  simp only [namesakes_insertAll, alike.namesakes]

theorem Alike.after {left right : Registry} (alike : Alike left right) (action : Step) :
    Alike (left.after action) (right.after action) := by
  cases reads : action.reads with
  | false =>
      rw [after_of_not_reads reads, after_of_not_reads reads, alike.loaded]
      exact alike.insertAll action.registered right.defaultsLoaded
  | true =>
      rw [after_of_reads reads, after_of_reads reads]
      cases loaded : right.defaultsLoaded with
      | false =>
          rw [ensureDefaults_of_not_loaded loaded,
            ensureDefaults_of_not_loaded (alike.loaded.trans loaded)]
          exact alike.insertAll Table.defaults true
      | true =>
          rw [ensureDefaults_of_loaded loaded,
            ensureDefaults_of_loaded (alike.loaded.trans loaded)]
          exact alike

theorem agreeOn_cons {left right : Registry} {action : Step} {rest : List Step} :
    AgreeOn left right (action :: rest) ↔
      (action.searches = true →
        (left.after action).answer action = (right.after action).answer action) ∧
      AgreeOn (left.after action) (right.after action) rest := by
  constructor
  · intro agree
    refine ⟨?_, ?_⟩
    · intro searches
      exact Option.some.inj (agree 0 action rfl searches)
    · intro index later position searches
      exact agree (index + 1) later position searches
  · rintro ⟨head, tail⟩ index later position searches
    cases index with
    | zero =>
        cases position
        exact congrArg some (head searches)
    | succ index => exact tail index later position searches

theorem Alike.agreeOn {left right : Registry} (alike : Alike left right) (steps : List Step) :
    AgreeOn left right steps := by
  induction steps generalizing left right with
  | nil => exact fun index action position => by cases position
  | cons action rest induction =>
      have next := alike.after action
      exact agreeOn_cons.mpr ⟨next.answer, induction next⟩

/-! ## Settled defaults -/

theorem getLast?_insertAll_append_singleton (tables more : List Table) (table : Table) :
    (insertAll tables (more ++ [table])).getLast? = some table := by
  rw [insertAll_append_singleton, insert_eq, List.getLast?_concat]

/-- A table inserted last can be inserted first instead if the others end with it. -/
theorem insertAll_append_singleton_eq_iff (tables more : List Table) (table : Table) :
    insertAll tables (more ++ [table]) = insertAll tables (table :: more) ↔
      ∀ last, more.getLast? = some last → last = table := by
  rcases List.eq_nil_or_concat more with empty | ⟨earlier, last, ending⟩
  · subst empty
    simp
  · rw [List.concat_eq_append] at ending
    subst ending
    simp only [List.getLast?_append, List.getLast?_singleton, Option.some_or, Option.some.injEq,
      forall_eq']
    constructor
    · intro equal
      have endings := congrArg List.getLast? equal
      rw [insertAll_cons, getLast?_insertAll_append_singleton,
        getLast?_insertAll_append_singleton] at endings
      exact (Option.some.inj endings).symm
    · intro equal
      subst equal
      rw [insertAll_cons, insertAll_insert_append_singleton, insertAll_append_singleton,
        insertAll_append_singleton, insert_insert]

theorem namesakes_defaults {default : Table} (member : default ∈ Table.defaults) :
    namesakes Table.defaults default.schema default.name = [default] := by
  have each : ∀ default ∈ Table.defaults,
      namesakes Table.defaults default.schema default.name = [default] :=
    Table.forall_mem_defaults.mpr ⟨rfl, rfl, rfl⟩
  exact each default member

/-- Loading the defaults after some tables or before them leaves the same namesakes
exactly when those tables settle every default. -/
theorem namesakes_insertAll_defaults_iff (tables between : List Table) :
    (∀ schema name,
      namesakes (insertAll (insertAll tables Table.defaults) between) schema name =
        namesakes (insertAll (insertAll tables between) Table.defaults) schema name) ↔
      ∀ default ∈ Table.defaults, Settled between default := by
  have atDefault (default : Table) (member : default ∈ Table.defaults) :
      namesakes (insertAll (insertAll tables Table.defaults) between)
          default.schema default.name =
        namesakes (insertAll (insertAll tables between) Table.defaults)
          default.schema default.name ↔ Settled between default := by
    rw [Settled, ← insertAll_append_singleton_eq_iff
      (namesakes tables default.schema default.name), insertAll_append]
    simp only [namesakes_insertAll, namesakes_defaults member, insertAll_cons, insertAll_nil]
    exact eq_comm
  constructor
  · intro same default member
    exact (atDefault default member).mp (same default.schema default.name)
  · intro settled schema name
    by_cases known : ∃ default ∈ Table.defaults, GoesBy default schema name
    · rcases known with ⟨default, member, goesBy⟩
      rw [namesakes_congr goesBy, namesakes_congr goesBy]
      exact (atDefault default member).mpr (settled default member)
    · simp only [namesakes_insertAll, namesakes_eq_nil known, insertAll_nil]

theorem leading_cons_of_not_reads {action : Step} (writes : action.reads = false)
    (rest : List Step) : leading (action :: rest) = action.registered ++ leading rest := by
  simp [leading, writes]

theorem leading_cons_of_reads {action : Step} (reads : action.reads = true)
    (rest : List Step) : leading (action :: rest) = [] := by
  simp [leading, reads]

theorem searches_eq_false_of_not_reads {action : Step} (writes : action.reads = false) :
    action.searches = false := by
  cases action with
  | register table => rfl
  | registerDefaults => rfl
  | _ => cases writes

/-- The induction is on the run. Until a step reads, both registries insert the same
tables, which `between` collects; from that step on they have the same namesakes. -/
theorem agreeOn_of_settled (tables between : List Table) (steps : List Step)
    (settled : ∀ default ∈ Table.defaults, Settled (between ++ leading steps) default) :
    AgreeOn ⟨insertAll (insertAll tables Table.defaults) between, true⟩
      ⟨insertAll tables between, false⟩ steps := by
  induction steps generalizing between with
  | nil => exact fun index action position => by cases position
  | cons action rest induction =>
      cases reads : action.reads with
      | false =>
          refine agreeOn_cons.mpr ⟨?_, ?_⟩
          · intro searches
            rw [searches_eq_false_of_not_reads reads] at searches
            cases searches
          · rw [leading_cons_of_not_reads reads, ← List.append_assoc] at settled
            have agree := induction (between ++ action.registered) settled
            rw [insertAll_append, insertAll_append] at agree
            rw [after_of_not_reads reads, after_of_not_reads reads]
            exact agree
      | true =>
          rw [leading_cons_of_reads reads, List.append_nil] at settled
          have alike : Alike ⟨insertAll (insertAll tables Table.defaults) between, true⟩
              ⟨insertAll (insertAll tables between) Table.defaults, true⟩ :=
            ⟨rfl, (namesakes_insertAll_defaults_iff tables between).mpr settled⟩
          have agree := alike.agreeOn (action :: rest)
          rw [agreeOn_cons, after_of_reads reads, after_of_reads reads] at agree ⊢
          exact agree

/-! ## Registries told apart -/

theorem insertAll_front (front back : List Table)
    (apart : Apart (front ++ back)) :
    insertAll (front ++ back) front = back ++ front := by
  induction front generalizing back with
  | nil => simp
  | cons table rest induction =>
      rw [List.cons_append] at apart ⊢
      rcases List.pairwise_cons.mp apart with ⟨fresh, distinct⟩
      have moved : insert (table :: (rest ++ back)) table = rest ++ (back ++ [table]) := by
        rw [insert_eq, without_cons_of_sameKey ⟨rfl, rfl⟩, without_eq_self, List.append_assoc]
        intro other member same
        exact fresh other member same.symm
      have permuted : (table :: (rest ++ back)).Perm (rest ++ (back ++ [table])) := by
        rw [← List.append_assoc]
        exact (List.perm_append_singleton table (rest ++ back)).symm
      rw [insertAll_cons, moved, induction]
      · simp
      · refine (permuted.pairwise_iff ?_).mp apart
        intro left right different same
        exact different same.symm

theorem not_mem_of_apart {front rest : List Table} {table : Table}
    (apart : Apart (front ++ table :: rest)) : table ∉ front := fun member =>
  (List.pairwise_append.mp apart).2.2 table member table List.mem_cons_self ⟨rfl, rfl⟩

/-- Inserting the tables of a list again one after another brings each of them to its
front, so lists that differ somewhere have different heads after some insertions. -/
theorem eq_of_head?_insertAll (left right : List Table)
    (leftApart : Apart left) (rightApart : Apart right)
    (same : ∀ more, (∀ table ∈ more, table ∈ left) →
      (insertAll left more).head? = (insertAll right more).head?) :
    left = right := by
  have heads {front back other : List Table} (isLeft : left = front ++ back)
      (isRight : right = front ++ other) : (back ++ front).head? = (other ++ front).head? := by
    have equal := same front fun table member => isLeft ▸ List.mem_append_left back member
    rw [isLeft, isRight, insertAll_front front back (isLeft ▸ leftApart),
      insertAll_front front other (isRight ▸ rightApart)] at equal
    exact equal
  have remainders (front back other : List Table) (isLeft : left = front ++ back)
      (isRight : right = front ++ other) : back = other := by
    induction back generalizing front other with
    | nil =>
        cases other with
        | nil => rfl
        | cons table rest =>
            have member := List.mem_of_mem_head? (heads isLeft isRight)
            exact absurd member (not_mem_of_apart (isRight ▸ rightApart))
    | cons table rest induction =>
        cases other with
        | nil =>
            have member := List.mem_of_mem_head? (heads isLeft isRight).symm
            exact absurd member (not_mem_of_apart (isLeft ▸ leftApart))
        | cons head tail =>
            have equal : table = head := Option.some.inj (heads isLeft isRight)
            subst equal
            rw [induction (front ++ [table]) tail (by simp [isLeft]) (by simp [isRight])]
  exact remainders [] left right rfl rfl

theorem agreeOn_of_append {left right : Registry} (earlier later : List Step)
    (agree : AgreeOn left right (earlier ++ later)) :
    AgreeOn (left.run earlier).1 (right.run earlier).1 later := by
  induction earlier generalizing left right with
  | nil => exact agree
  | cons action rest induction => exact induction (agreeOn_cons.mp agree).2

theorem run_map_register {registry : Registry} (loaded : registry.defaultsLoaded = true)
    (more : List Table) :
    (registry.run (more.map .register)).1 = ⟨insertAll registry.tables more, true⟩ := by
  induction more generalizing registry with
  | nil => rw [← loaded]; rfl
  | cons table rest induction =>
      have stillLoaded : (registry.register table).defaultsLoaded = true := loaded
      exact induction stillLoaded

theorem find?_eq_of_agreeOn {left right : Registry} (leftLoaded : left.defaultsLoaded = true)
    (rightLoaded : right.defaultsLoaded = true) {schema name : String}
    (agree : AgreeOn left right [.find schema name]) :
    left.find? schema name = right.find? schema name := by
  have answers := (agreeOn_cons.mp agree).1 rfl
  rw [after_of_reads rfl, after_of_reads rfl, ensureDefaults_of_loaded leftLoaded,
    ensureDefaults_of_loaded rightLoaded] at answers
  exact Answer.table.inj answers

theorem Apart.namesakes {tables : List Table} (apart : Apart tables) (schema name : String) :
    Apart (namesakes tables schema name) :=
  apart.filter _

/-- Loaded registries that answer every run alike have the same namesakes. -/
theorem namesakes_eq_of_agreeOn {left right : Registry}
    (leftLoaded : left.defaultsLoaded = true) (rightLoaded : right.defaultsLoaded = true)
    (leftApart : Apart left.tables) (rightApart : Apart right.tables)
    (agree : ∀ steps, AgreeOn left right steps) (schema name : String) :
    namesakes left.tables schema name = namesakes right.tables schema name := by
  apply eq_of_head?_insertAll _ _ (leftApart.namesakes schema name)
    (rightApart.namesakes schema name)
  intro more members
  have goBy : namesakes more schema name = more :=
    namesakes_eq_self fun table member => (mem_namesakes.mp (members table member)).2
  have found := agreeOn_of_append (more.map .register) [.find schema name] (agree _)
  rw [run_map_register leftLoaded, run_map_register rightLoaded] at found
  have equal := find?_eq_of_agreeOn rfl rfl found
  rw [find?_eq_head?_namesakes, find?_eq_head?_namesakes, namesakes_insertAll,
    namesakes_insertAll, goBy] at equal
  exact equal

/-! ## A reading step put into a run -/

theorem run_append_state_of_reads {read : Step} (reads : read.reads = true)
    (steps : List Step) :
    (fresh.run (steps ++ [read])).1 = (fresh.run steps).1.ensureDefaults := by
  rw [run_append_state]
  exact after_of_reads reads _

theorem defaultsLoaded_run_fresh (steps : List Step) :
    (fresh.run steps).1.defaultsLoaded = steps.any Step.reads := by
  rw [run_fresh_state]

theorem run_append_state_of_first_read {steps : List Step} {read : Step}
    (first : steps.any Step.reads = false) (reads : read.reads = true) :
    (fresh.run (steps ++ [read])).1 =
      ⟨insertAll (fresh.run steps).1.tables Table.defaults, true⟩ := by
  rw [run_append_state_of_reads reads]
  exact ensureDefaults_of_not_loaded ((defaultsLoaded_run_fresh steps).trans first)

theorem agreeOn_read {earlier later : List Step} {read : Step} (reads : read.reads = true)
    (unnoticed : earlier.any Step.reads = true ∨
      ∀ default ∈ Table.defaults, Settled (leading later) default) :
    AgreeOn (fresh.run (earlier ++ [read])).1 (fresh.run earlier).1 later := by
  cases loaded : earlier.any Step.reads with
  | true =>
      rw [run_append_read loaded reads]
      exact Alike.agreeOn ⟨rfl, fun _ _ => rfl⟩ later
  | false =>
      have settled := unnoticed.resolve_left (by rw [loaded]; decide)
      have agree := agreeOn_of_settled (fresh.run earlier).1.tables [] later settled
      have state : (fresh.run earlier).1 = ⟨(fresh.run earlier).1.tables, false⟩ := by
        rw [← loaded, ← defaultsLoaded_run_fresh]
      rw [run_append_state_of_first_read loaded reads, state]
      exact agree

theorem log_of_not_reads {steps : List Step} (writes : steps.any Step.reads = false)
    (loaded : Bool) : log loaded steps = leading steps := by
  induction steps with
  | nil => rfl
  | cons action rest induction =>
      rw [List.any_cons, Bool.or_eq_false_iff] at writes
      rw [log, writes.1, leading_cons_of_not_reads writes.1, induction writes.2]
      rfl

theorem run_of_not_reads {steps : List Step} (writes : steps.any Step.reads = false)
    (registry : Registry) :
    (registry.run steps).1 =
      ⟨insertAll registry.tables (leading steps), registry.defaultsLoaded⟩ := by
  rw [run_state, log_of_not_reads writes, writes, Bool.or_false]

theorem settled_of_agreeOn_read {earlier between : List Step} {read : Step}
    (reads : read.reads = true) (writes : (earlier ++ between).any Step.reads = false)
    (agree : ∀ later, AgreeOn (fresh.run (earlier ++ [read])).1 (fresh.run earlier).1
      (between ++ read :: later))
    (default : Table) (member : default ∈ Table.defaults) :
    Settled (leading between) default := by
  rw [List.any_append, Bool.or_eq_false_iff] at writes
  have leftState : (fresh.run (earlier ++ [read] ++ (between ++ [read]))).1 =
      ⟨insertAll (insertAll (fresh.run earlier).1.tables Table.defaults) (leading between),
        true⟩ := by
    rw [← List.append_assoc, run_append_read (by simp [reads]) reads, run_append_state,
      run_append_state_of_first_read writes.1 reads, run_of_not_reads writes.2]
  have rightState : (fresh.run (earlier ++ (between ++ [read]))).1 =
      ⟨insertAll (insertAll (fresh.run earlier).1.tables (leading between)) Table.defaults,
        true⟩ := by
    rw [← List.append_assoc, run_append_state_of_first_read (by simp [writes]) reads,
      run_append_state, run_of_not_reads writes.2]
  refine (namesakes_insertAll_defaults_iff (fresh.run earlier).1.tables
    (leading between)).mp ?_ default member
  have leftApart := apart_run_fresh (earlier ++ [read] ++ (between ++ [read]))
  have rightApart := apart_run_fresh (earlier ++ (between ++ [read]))
  rw [leftState] at leftApart
  rw [rightState] at rightApart
  refine namesakes_eq_of_agreeOn rfl rfl leftApart rightApart fun later => ?_
  have continued := agreeOn_of_append (between ++ [read]) later (by simpa using agree later)
  rw [← run_append_state, ← run_append_state, leftState, rightState] at continued
  exact continued

theorem mem_insertAll_defaults {tables : List Table} {default : Table}
    (member : default ∈ Table.defaults) : default ∈ insertAll tables Table.defaults := by
  have authid_apart : ¬ SameKey Table.authid Table.roles ∧
      ¬ SameKey Table.authid Table.authMembers ∧
      ¬ SameKey Table.roles Table.authMembers := by decide
  have each : ∀ default ∈ Table.defaults, default ∈ insertAll tables Table.defaults := by
    rw [Table.forall_mem_defaults]
    simp only [Table.defaults, insertAll_cons, insertAll_nil, mem_insert]
    exact ⟨.inl ⟨.inl ⟨.inr trivial, authid_apart.1⟩, authid_apart.2.1⟩,
      .inl ⟨.inr trivial, authid_apart.2.2⟩, .inr trivial⟩
  exact each default member

theorem eq_default_of_first_read {earlier : List Step} {read : Step}
    (first : earlier.any Step.reads = false) (reads : read.reads = true) {default : Table}
    (member : default ∈ Table.defaults) {table : Table}
    (registered : table ∈ (fresh.run (earlier ++ [read])).1.tables)
    (same : SameKey table default) : table = default := by
  have present : default ∈ (fresh.run (earlier ++ [read])).1.tables := by
    rw [run_append_state_of_first_read first reads]
    exact mem_insertAll_defaults member
  exact List.inj_on_of_nodup_map (nodup_keys_run_fresh (earlier ++ [read])) registered present
    (Prod.ext same.1 same.2)

/-- A reading step put into a run changes no later search if a step before it reads, or if
the tables registered from there to the next reading step settle every default.
Otherwise some continuation of the run shows it. A table registered before the first
reading step under exactly the schema and name of a default gives way to that default
at that step. -/
theorem extra_read_unobservable_iff_settled :
    (∀ (earlier later : List Step) (read : Step), read.reads = true →
      (earlier.any Step.reads = true ∨
        ∀ default ∈ Table.defaults, Settled (leading later) default) →
      AgreeOn (fresh.run (earlier ++ [read])).1 (fresh.run earlier).1 later) ∧
    (∀ (earlier between : List Step) (read : Step), read.reads = true →
      (earlier ++ between).any Step.reads = false →
      (∀ later, AgreeOn (fresh.run (earlier ++ [read])).1 (fresh.run earlier).1
        (between ++ read :: later)) →
      ∀ default ∈ Table.defaults, Settled (leading between) default) ∧
    (∀ (earlier : List Step) (read : Step), earlier.any Step.reads = false →
      read.reads = true → ∀ default ∈ Table.defaults,
        default ∈ (fresh.run (earlier ++ [read])).1.tables ∧
        ∀ table ∈ (fresh.run (earlier ++ [read])).1.tables,
          SameKey table default → table = default) := by
  refine ⟨fun earlier later read => agreeOn_read,
    fun earlier between read => settled_of_agreeOn_read, ?_⟩
  intro earlier read first reads default member
  refine ⟨?_, fun table => eq_default_of_first_read first reads member⟩
  rw [run_append_state_of_first_read first reads]
  exact mem_insertAll_defaults member

/-- A user table stands in for `pg_authid` until the defaults are registered again, before
anything is read. -/
theorem extra_read_before_registerDefaults :
    AgreeOn (fresh.run ([] ++ [.all])).1 (fresh.run []).1
        [.register (.ofColumns "pg_catalog" "pg_authid" []), .registerDefaults, .all,
          .find "pg_catalog" "pg_authid"] ∧
      Settled (leading [.register (.ofColumns "pg_catalog" "pg_authid" []), .registerDefaults])
        Table.authid ∧
      Table.authid ∈ (fresh.run
        ([.register (.ofColumns "pg_catalog" "pg_authid" [])] ++ [.all])).1.tables := by
  have law := extra_read_unobservable_iff_settled
  have settled (later : List Step) : ∀ default ∈ Table.defaults, Settled (leading
      ([.register (.ofColumns "pg_catalog" "pg_authid" []), .registerDefaults] ++
        .all :: later)) default := by
    have endings : ∀ default ∈ Table.defaults,
        (namesakes (.ofColumns "pg_catalog" "pg_authid" [] :: Table.defaults)
          default.schema default.name).getLast? = some default :=
      Table.forall_mem_defaults.mpr ⟨rfl, rfl, rfl⟩
    intro default member table ending
    exact Option.some.inj (ending.symm.trans (endings default member))
  exact ⟨law.1 [] _ .all rfl (.inr (settled [.find "pg_catalog" "pg_authid"])),
    law.2.1 [] [.register (.ofColumns "pg_catalog" "pg_authid" []), .registerDefaults] .all rfl
      rfl (fun later => law.1 [] _ .all rfl (.inr (settled later))) Table.authid
      Table.authid_mem_defaults,
    (law.2.2 [.register (.ofColumns "pg_catalog" "pg_authid" [])] .all rfl rfl Table.authid
      Table.authid_mem_defaults).1⟩

/-- A user table under the name of a default is found or not by the time of the first
reading step. -/
theorem not_agreeOn_ensureDefaults :
    ¬ ∀ steps, AgreeOn (fresh.run [.ensureDefaults]).1 fresh steps := by
  intro agree
  have answers := agree
    [.register (.ofColumns "pg_catalog" "pg_authid" []), .find "pg_catalog" "pg_authid"]
    1 (.find "pg_catalog" "pg_authid") rfl rfl
  have found : Table.ofColumns "pg_catalog" "pg_authid" [] = Table.authid :=
    Option.some.inj (Answer.table.inj (Option.some.inj answers))
  have columns : [] = Authid.columns := congrArg Table.columns found
  exact absurd columns (by decide)

end RoleCatalog.Registry

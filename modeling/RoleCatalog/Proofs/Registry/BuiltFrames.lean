import RoleCatalog.Proofs.Registry.Log
import RoleCatalog.Proofs.Table.Conformance

/-! # Frames that a registry builds

The tables of a registry are stock tables as long as no other is registered. The frame
of a stock table keeps to the columns that the table declares, and so do the three
answers about one identifier: the table, its frame and the types of its columns.
-/

namespace RoleCatalog.Registry

/-! ## Registries of stock tables -/

def Stocked (registry : Registry) : Prop :=
  ∀ table ∈ registry.tables, table.Stock

theorem stocked_fresh : fresh.Stocked :=
  fun _ member => (nomatch member)

theorem Stocked.insertAll {registry : Registry} (stocked : registry.Stocked)
    {more : List Table} (stock : ∀ table ∈ more, table.Stock) (loaded : Bool) :
    Stocked ⟨Registry.insertAll registry.tables more, loaded⟩ := by
  intro table member
  rcases mem_or_mem_of_mem_insertAll member with earlier | added
  · exact stocked table earlier
  · exact stock table added

theorem Stocked.ensureDefaults {registry : Registry} (stocked : registry.Stocked) :
    registry.ensureDefaults.Stocked := by
  cases loaded : registry.defaultsLoaded with
  | true => rwa [ensureDefaults_of_loaded loaded]
  | false =>
      rw [ensureDefaults_of_not_loaded loaded]
      exact stocked.insertAll (fun _ => .inr) true

theorem Stocked.after {registry : Registry} (stocked : registry.Stocked) {action : Step}
    (stock : ∀ table ∈ action.registered, table.Stock) : (registry.after action).Stocked := by
  cases reads : action.reads with
  | true =>
      rw [after_of_reads reads]
      exact stocked.ensureDefaults
  | false =>
      rw [after_of_not_reads reads]
      exact stocked.insertAll stock registry.defaultsLoaded

/-- The steps register no tables but the default ones and tables without a source. -/
def OnlyStock (steps : List Step) : Prop :=
  ∀ table, .register table ∈ steps → table.source = .nothing

theorem stock_of_registered {action : Step} {steps : List Step} (only : OnlyStock steps)
    (member : action ∈ steps) : ∀ table ∈ action.registered, table.Stock := by
  intro table registered
  cases action with
  | register other =>
      cases List.mem_singleton.mp registered
      exact .inl (only table member)
  | registerDefaults => exact .inr registered
  | _ => cases registered

theorem Stocked.run {registry : Registry} (stocked : registry.Stocked) {steps : List Step}
    (only : OnlyStock steps) : (registry.run steps).1.Stocked := by
  induction steps generalizing registry with
  | nil => exact stocked
  | cons action rest induction =>
      have next := stocked.after (stock_of_registered only List.mem_cons_self)
      exact induction next fun table member => only table (List.mem_cons_of_mem action member)

/-! ## Answers about one identifier -/

theorem mem_of_lookup? {registry : Registry} {text : String} {table : Table}
    (found : registry.lookup? text = some table) : table ∈ registry.tables := by
  rcases Option.or_eq_some_iff.mp found with qualified | ⟨-, unqualified⟩
  · rcases Option.bind_eq_some_iff.mp qualified with ⟨schema, -, inSchema⟩
    exact List.mem_of_find?_eq_some inSchema
  · exact List.mem_of_find?_eq_some unqualified

theorem Stocked.answers_agree {registry : Registry} (stocked : registry.Stocked)
    {text : String} {settings : Settings} {frame : Frame}
    (built : (registry.step (.build text settings)).2 = .frame (some (.ok frame))) :
    ∃ table, (registry.step (.lookup text)).2 = .table (some table) ∧
      (registry.step (.schemaMap text)).2 = .schemaMap (some frame.dtypes) ∧
      frame.Conforms table.columns := by
  rcases Option.map_eq_some_iff.mp (Answer.frame.inj built) with ⟨table, found, made⟩
  have stock : table.Stock := stocked.ensureDefaults table (mem_of_lookup? found)
  refine ⟨table, congrArg Answer.table found, ?_, stock.conforms made⟩
  rw [← stock.schemaMap_eq made]
  exact congrArg (Answer.schemaMap <| Option.map Table.schemaMap ·) found

/-! ## The law -/

/-- In every state the frame of a stock table keeps to the columns of the table. One
without a source is built when its columns have different names, and the default tables
under all settings. A run without other tables shows this in its answers. -/
theorem built_frames_conform (steps : List Step) :
    (∀ table ∈ (fresh.run steps).1.tables, table.Stock → ∀ settings frame,
      table.build settings = .ok frame →
        frame.Conforms table.columns ∧ table.schemaMap = frame.dtypes) ∧
    (∀ table ∈ (fresh.run steps).1.tables, table.source = .nothing → ∀ settings,
      (∃ frame, table.build settings = .ok frame) ↔
        (table.columns.map ColumnDef.name).Nodup) ∧
    (∀ default ∈ Table.defaults, ∀ settings, ∃ frame, default.build settings = .ok frame) ∧
    (OnlyStock steps →
      (∀ table ∈ (fresh.run steps).1.tables, table.Stock) ∧
      ∀ text settings frame,
        ((fresh.run steps).1.step (.build text settings)).2 = .frame (some (.ok frame)) →
          ∃ table, ((fresh.run steps).1.step (.lookup text)).2 = .table (some table) ∧
            ((fresh.run steps).1.step (.schemaMap text)).2 = .schemaMap (some frame.dtypes) ∧
            frame.Conforms table.columns) := by
  refine ⟨?_, fun table _ noSource settings => Table.exists_build_eq_ok_iff noSource settings,
    fun default member settings => Table.exists_build_default settings default member, ?_⟩
  · intro table _ stock settings frame built
    exact ⟨stock.conforms built, stock.schemaMap_eq built⟩
  · intro only
    have stocked := stocked_fresh.run only
    exact ⟨stocked, fun text settings frame built => stocked.answers_agree built⟩

/-- A table of two columns without rows. -/
def accounts : Table :=
  .ofColumns "public" "accounts" [⟨"id", .oid, 1, false⟩, ⟨"note", .text, 2, true⟩]

def accountsFrame : Frame :=
  ⟨[.ofOids "id" [], .ofOptionalTexts "note" []]⟩

theorem built_frames_conform_accounts :
    (accounts ∈ (fresh.run [.register accounts, .all]).1.tables ∧ accounts.Stock ∧
      accounts.build .standard = .ok accountsFrame ∧
      accountsFrame.Conforms accounts.columns ∧ accounts.schemaMap = accountsFrame.dtypes) ∧
    (accounts.source = .nothing ∧ (accounts.columns.map ColumnDef.name).Nodup) ∧
    (Table.roles ∈ Table.defaults ∧ ∃ frame, Table.roles.build .standard = .ok frame) ∧
    OnlyStock [.register accounts, .all] ∧
    ((fresh.run [.register accounts, .all]).1.step (.build "Public.accounts;" .standard)).2 =
      .frame (some (.ok accountsFrame)) ∧
    ∃ table,
      ((fresh.run [.register accounts, .all]).1.step (.lookup "Public.accounts;")).2 =
        .table (some table) ∧ accountsFrame.Conforms table.columns := by
  have law := built_frames_conform [.register accounts, .all]
  have member : accounts ∈ (fresh.run [.register accounts, .all]).1.tables := by
    rw [run_fresh_state]
    exact List.mem_cons_self
  have stock : accounts.Stock := .inl rfl
  have viewMember : Table.roles ∈ Table.defaults :=
    List.mem_cons_of_mem Table.authid List.mem_cons_self
  have built : accounts.build .standard = .ok accountsFrame := rfl
  have only : OnlyStock [.register accounts, .all] := by
    intro table registered
    simp only [List.mem_cons, Step.register.injEq, reduceCtorEq, List.not_mem_nil, or_false]
      at registered
    rw [registered]
    rfl
  have answered : ((fresh.run [.register accounts, .all]).1.step
      (.build "Public.accounts;" .standard)).2 = .frame (some (.ok accountsFrame)) := by
    rfl
  rcases law.2.2.2 only with ⟨-, answers⟩
  rcases answers _ _ _ answered with ⟨table, found, -, conforms⟩
  exact ⟨⟨member, stock, built, law.1 accounts member stock .standard accountsFrame built⟩,
    ⟨rfl, (law.2.1 accounts member rfl .standard).mp ⟨accountsFrame, built⟩⟩,
    ⟨viewMember, law.2.2.1 Table.roles viewMember .standard⟩,
    only, answered, table, found, conforms⟩

end RoleCatalog.Registry

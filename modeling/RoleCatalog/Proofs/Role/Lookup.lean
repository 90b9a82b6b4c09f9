import RoleCatalog.Proofs.Role.UniqueIndexes
import RoleCatalog.Scan

/-! # Roles by their identifiers and names

Both searches take the first match. No two well-known roles share an identifier or a name,
so the match is the role that was meant, and each search leads back to where the other began.
The rows of `pg_authid` pair identifiers and names as the searches do. The row of the bootstrap
superuser is apart from that: the name in it is a setting, and leads to another role or to none.
-/

namespace RoleCatalog.Role

/-! ## The two searches -/

theorem ofOid?_eq_some_iff {oid : Oid} {role : Role} :
    ofOid? oid = some role ↔ role ∈ wellKnown ∧ role.oid = oid := by
  rw [ofOid?, find?_eq_some_iff_of_unique, beq_iff_eq]
  intro left leftKnown right rightKnown leftOid rightOid
  exact eq_of_oid_eq leftKnown rightKnown ((eq_of_beq leftOid).trans (eq_of_beq rightOid).symm)

theorem ofName_eq_ok_iff_find? {name : String} {role : Role} :
    ofName name = .ok role ↔
      wellKnown.find? (fun role => !role.isBootstrap && role.name == name) = some role := by
  unfold ofName
  split
  · rename_i found
    rw [found, Except.ok.injEq, Option.some.injEq]
  · rename_i missing
    rw [missing]
    exact iff_of_false nofun nofun

theorem ofName_eq_ok_iff {name : String} {role : Role} :
    ofName name = .ok role ↔ role ∈ wellKnown ∧ role.isBootstrap = false ∧ role.name = name := by
  rw [ofName_eq_ok_iff_find?, find?_eq_some_iff_of_unique, Bool.and_eq_true, Bool.not_eq_true',
    beq_iff_eq]
  intro left leftKnown right rightKnown leftMatches rightMatches
  rw [Bool.and_eq_true, beq_iff_eq] at leftMatches rightMatches
  exact eq_of_name_eq leftKnown rightKnown (leftMatches.2.trans rightMatches.2.symm)

/-- A role other than the bootstrap superuser has exactly this name. -/
def PredefinedName (name : String) : Prop :=
  ∃ role ∈ wellKnown, role.isBootstrap = false ∧ role.name = name

instance (name : String) : Decidable (PredefinedName name) :=
  inferInstanceAs (Decidable (∃ role ∈ wellKnown, role.isBootstrap = false ∧ role.name = name))

theorem exists_ofName_eq_ok_iff (name : String) :
    (∃ role, ofName name = .ok role) ↔ PredefinedName name :=
  exists_congr fun _ => ofName_eq_ok_iff

theorem ofName_of_not_predefinedName {name : String} (unknown : ¬ PredefinedName name) :
    ofName name = .error ⟨name⟩ := by
  unfold ofName
  split
  · rename_i role found
    exact absurd ⟨role, ofName_eq_ok_iff.mp (ofName_eq_ok_iff_find?.mpr found)⟩ unknown
  · rfl

/-! ## One search undoes the other -/

/-- The name of a role leads to it exactly when its identifier does, unless it is the
bootstrap superuser. -/
theorem ofName_eq_ok_iff_ofOid? {name : String} {role : Role} :
    ofName name = .ok role ↔
      ofOid? role.oid = some role ∧ role.isBootstrap = false ∧ role.name = name := by
  rw [ofName_eq_ok_iff, ofOid?_eq_some_iff, eq_self, and_true]

theorem isPredefined_eq_true_iff (oid : Oid) :
    isPredefined oid = true ↔ ∃ name role, ofName name = .ok role ∧ role.oid = oid := by
  rw [isPredefined, Option.any_eq_true]
  simp only [ofOid?_eq_some_iff, ofName_eq_ok_iff, Bool.not_eq_true']
  constructor
  · intro predefined
    rcases predefined with ⟨role, ⟨known, same⟩, other⟩
    exact ⟨role.name, role, ⟨known, other, rfl⟩, same⟩
  · intro named
    rcases named with ⟨name, role, ⟨known, other, -⟩, same⟩
    exact ⟨role, ⟨known, same⟩, other⟩

theorem isReservedName_of_ofName {name : String} {role : Role} (found : ofName name = .ok role) :
    isReservedName name = true := by
  rcases ofName_eq_ok_iff.mp found with ⟨known, other, rfl⟩
  exact consistent_wellKnown.reserved role known other

/-! ## Rows -/

theorem isBootstrap_eq_false_iff {role : Role} :
    role.isBootstrap = false ↔ role.oid ≠ RoleOid.bootstrapSuperuser :=
  beq_eq_false_iff_ne

section Rows

variable {settings : Settings} {row : Nat}

theorem getElem?_oid_synthesize :
    (RoleColumns.synthesize settings).oid[row]? = (listed settings)[row]?.map Role.oid := by
  rw [← List.getElem?_map, ← Authid.map_oid_synthesize]
  rfl

theorem getElem?_rolname_synthesize :
    (RoleColumns.synthesize settings).rolname[row]? =
      (listed settings)[row]?.map (displayName settings) := by
  rw [← List.getElem?_map, ← Authid.map_rolname_synthesize]
  rfl

theorem getElem?_rolname_of_listed {role : Role} (isListed : (listed settings)[row]? = some role)
    (notFirst : role.isBootstrap = false) :
    (RoleColumns.synthesize settings).rolname[row]? = some role.name := by
  rw [getElem?_rolname_synthesize, isListed, Option.map_some,
    displayName_of_not_isBootstrap notFirst]

/-- The name in a row leads to the role with the identifier in it. -/
theorem exists_ofName_of_row {oid : Oid}
    (shown : (RoleColumns.synthesize settings).oid[row]? = some oid)
    (other : oid ≠ RoleOid.bootstrapSuperuser) :
    ∃ name role, (RoleColumns.synthesize settings).rolname[row]? = some name ∧
      ofName name = .ok role ∧ role.oid = oid := by
  rw [getElem?_oid_synthesize, Option.map_eq_some_iff] at shown
  rcases shown with ⟨role, isListed, rfl⟩
  have notFirst : role.isBootstrap = false := isBootstrap_eq_false_iff.mpr other
  have known : role ∈ wellKnown := (mem_listed.mp (List.mem_of_getElem? isListed)).1
  exact ⟨role.name, role, getElem?_rolname_of_listed isListed notFirst,
    ofName_eq_ok_iff.mpr ⟨known, notFirst, rfl⟩, rfl⟩

theorem exists_row_of_ofName (included : settings.includePredefined = true) {name : String}
    {role : Role} (found : ofName name = .ok role) :
    ∃ row : Nat, (RoleColumns.synthesize settings).oid[row]? = some role.oid ∧
      (RoleColumns.synthesize settings).rolname[row]? = some name := by
  rcases ofName_eq_ok_iff.mp found with ⟨known, notFirst, rfl⟩
  rcases List.mem_iff_getElem?.mp (mem_listed.mpr ⟨known, .inr included⟩) with ⟨row, isListed⟩
  refine ⟨row, ?_, getElem?_rolname_of_listed isListed notFirst⟩
  rw [getElem?_oid_synthesize, isListed, Option.map_some]

end Rows

/-! ## The law -/

/-- A name leads to the predefined role of exactly that name, and is reported as unknown if
there is none; so no name, not even the one in the settings, leads to the bootstrap superuser.
The names that lead to a role are reserved, and the identifier of the role leads to it too; an
identifier is that of a predefined role exactly when some name leads to it. Under all settings
the name in a row, apart from the row of the bootstrap superuser, leads to the role whose
identifier the row has. With predefined roles included every name that leads to a role has a
row. -/
theorem roles_found_by_name_and_oid :
    (∀ name, (∃ role, ofName name = .ok role) ↔ PredefinedName name) ∧
    (∀ name, ¬ PredefinedName name → ∃ cause, ofName name = .error cause ∧ cause.name = name ∧
      cause.report.kind = .notFound ∧ cause.report.code = "unknown_role" ∧
      cause.report.sqlstate = "42704") ∧
    (∀ name role, ofName name = .ok role ↔
      ofOid? role.oid = some role ∧ role.isBootstrap = false ∧ role.name = name) ∧
    (∀ name role, ofName name = .ok role →
      isPredefined role.oid = true ∧ isReservedName name = true) ∧
    (∀ oid, isPredefined oid = true ↔ ∃ name role, ofName name = .ok role ∧ role.oid = oid) ∧
    (∀ (settings : Settings) (row : Nat) (oid : Oid),
      (RoleColumns.synthesize settings).oid[row]? = some oid →
      oid ≠ RoleOid.bootstrapSuperuser → ∃ name role,
        (RoleColumns.synthesize settings).rolname[row]? = some name ∧
          ofName name = .ok role ∧ role.oid = oid) ∧
    (∀ (settings : Settings) (name : String) (role : Role),
      settings.includePredefined = true → ofName name = .ok role → ∃ row : Nat,
        (RoleColumns.synthesize settings).oid[row]? = some role.oid ∧
          (RoleColumns.synthesize settings).rolname[row]? = some name) := by
  refine ⟨exists_ofName_eq_ok_iff, ?_, ?_, ?_, isPredefined_eq_true_iff, ?_, ?_⟩
  · intro name unknown
    exact ⟨_, ofName_of_not_predefinedName unknown, rfl, rfl, rfl, rfl⟩
  · intro name role
    exact ofName_eq_ok_iff_ofOid?
  · intro name role found
    exact ⟨(isPredefined_eq_true_iff role.oid).mpr ⟨name, role, found, rfl⟩,
      isReservedName_of_ofName found⟩
  · intro settings row oid shown other
    exact exists_ofName_of_row shown other
  · intro settings name role included found
    exact exists_row_of_ofName included found

/-- A bootstrap superuser under the name of a predefined role leaves the name to that role. -/
theorem pgMonitor_found_by_name_and_oid :
    ¬ PredefinedName "POSTGRES" ∧
    (∃ cause, ofName "POSTGRES" = .error cause ∧ cause.name = "POSTGRES" ∧
      cause.report.kind = .notFound ∧ cause.report.code = "unknown_role" ∧
      cause.report.sqlstate = "42704") ∧
    (∃ role, ofName "pg_monitor" = .ok role ∧ role.oid = RoleOid.pgMonitor ∧
      isPredefined role.oid = true ∧ isReservedName "pg_monitor" = true ∧
      ∃ row : Nat,
        (RoleColumns.synthesize ⟨"pg_monitor", true⟩).oid[row]? = some role.oid ∧
          (RoleColumns.synthesize ⟨"pg_monitor", true⟩).rolname[row]? = some "pg_monitor") ∧
    (RoleColumns.synthesize ⟨"pg_monitor", true⟩).oid[12]? = some RoleOid.pgCheckpoint ∧
    RoleOid.pgCheckpoint ≠ RoleOid.bootstrapSuperuser ∧
    ∃ name role, (RoleColumns.synthesize ⟨"pg_monitor", true⟩).rolname[12]? = some name ∧
      ofName name = .ok role ∧ role.oid = RoleOid.pgCheckpoint := by
  rcases roles_found_by_name_and_oid with ⟨-, unknown, -, found, -, rows, listed⟩
  have missing : ¬ PredefinedName "POSTGRES" := by decide
  have monitor : ofName "pg_monitor" = .ok wellKnown[4] := by decide
  have checkpoint : (RoleColumns.synthesize ⟨"pg_monitor", true⟩).oid[12]? =
      some RoleOid.pgCheckpoint := by decide
  have other : RoleOid.pgCheckpoint ≠ RoleOid.bootstrapSuperuser := by decide
  rcases found "pg_monitor" wellKnown[4] monitor with ⟨predefined, reserved⟩
  exact ⟨missing, unknown "POSTGRES" missing,
    ⟨wellKnown[4], monitor, rfl, predefined, reserved,
      listed ⟨"pg_monitor", true⟩ "pg_monitor" wellKnown[4] rfl monitor⟩,
    checkpoint, other, rows ⟨"pg_monitor", true⟩ 12 RoleOid.pgCheckpoint checkpoint other⟩

end RoleCatalog.Role

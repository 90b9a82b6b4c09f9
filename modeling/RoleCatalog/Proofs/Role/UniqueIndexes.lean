import RoleCatalog.Proofs.Role.AuthidFrame
import RoleCatalog.Proofs.Role.Consistency

/-! # Unique indexes over the role tables

A unique index promises that no two rows agree on its key columns. The identifiers of
roles are different, so the index over them keeps its promise under all settings. The
name of the bootstrap superuser is a setting, and nothing keeps it apart from the names
of the predefined roles: the index over names keeps its promise exactly when that name
is not one of theirs or they are left out.
-/

namespace RoleCatalog

namespace Frame

/-- The cells of a row in some columns. -/
def key (frame : Frame) (names : List String) (row : Nat) : List Cell :=
  names.map fun name =>
    (frame.column? name).elim .null fun column => column.cells.toList.getD row .null

/-- No two rows agree on the key columns of the index. -/
def Respects (frame : Frame) (index : IndexDef) : Prop :=
  ((List.range frame.height).map (frame.key index.keys)).Nodup

theorem map_key_singleton {frame : Frame} {name : String} {column : Column}
    (found : frame.column? name = some column) (height : column.height = frame.height) :
    (List.range frame.height).map (frame.key [name]) =
      column.cells.toList.map fun cell => [cell] := by
  rw [← height]
  apply List.ext_getElem
  · simp [Column.height]
  · intro row bound inColumn
    have within : row < column.cells.toList.length := by simpa using inColumn
    simp [key, found, within]

theorem respects_iff_of_key {frame : Frame} {index : IndexDef} {name : String}
    {column : Column} (oneKey : index.keys = [name])
    (found : frame.column? name = some column) (height : column.height = frame.height) :
    frame.Respects index ↔ column.cells.toList.Nodup := by
  rw [Respects, oneKey, map_key_singleton found height]
  exact List.nodup_map_iff fun left right same => List.singleton_inj.mp same

end Frame

namespace Role

/-! ## Identifiers and names of the listed roles -/

theorem mem_listed {settings : Settings} {role : Role} :
    role ∈ listed settings ↔
      role ∈ wellKnown ∧ (role.isBootstrap = true ∨ settings.includePredefined = true) := by
  rw [listed, List.mem_filter, Bool.or_eq_true]

theorem nodup_oid_listed (settings : Settings) : ((listed settings).map Role.oid).Nodup :=
  consistent_wellKnown.oids.sublist (List.filter_sublist.map Role.oid)

theorem eq_of_isBootstrap {settings : Settings} {left right : Role}
    (leftListed : left ∈ listed settings) (rightListed : right ∈ listed settings)
    (leftFirst : left.isBootstrap = true) (rightFirst : right.isBootstrap = true) :
    left = right :=
  List.inj_on_of_nodup_map (nodup_oid_listed settings) leftListed rightListed
    ((eq_of_beq leftFirst).trans (eq_of_beq rightFirst).symm)

/-- A predefined role that is listed has the name given to the bootstrap superuser. -/
def NameTaken (settings : Settings) : Prop :=
  settings.includePredefined = true ∧
    ∃ role ∈ wellKnown, role.isBootstrap = false ∧ role.name = settings.bootstrapSuperuser

instance (settings : Settings) : Decidable (NameTaken settings) :=
  inferInstanceAs (Decidable (settings.includePredefined = true ∧
    ∃ role ∈ wellKnown, role.isBootstrap = false ∧ role.name = settings.bootstrapSuperuser))

theorem displayName_of_isBootstrap {role : Role} (first : role.isBootstrap = true)
    (settings : Settings) : role.displayName settings = settings.bootstrapSuperuser :=
  if_pos first

theorem displayName_of_not_isBootstrap {role : Role} (other : role.isBootstrap = false)
    (settings : Settings) : role.displayName settings = role.name :=
  if_neg (by rw [other]; decide)

theorem nameTaken_of_displayName_eq {settings : Settings} {first other : Role}
    (listedOther : other ∈ listed settings) (isFirst : first.isBootstrap = true)
    (isOther : other.isBootstrap = false)
    (same : first.displayName settings = other.displayName settings) : NameTaken settings := by
  rcases mem_listed.mp listedOther with ⟨known, shown⟩
  rw [displayName_of_isBootstrap isFirst, displayName_of_not_isBootstrap isOther] at same
  rw [isOther] at shown
  exact ⟨shown.resolve_left Bool.false_ne_true, other, known, isOther, same.symm⟩

theorem nodup_displayName_iff (settings : Settings) :
    ((listed settings).map (displayName settings)).Nodup ↔ ¬ NameTaken settings := by
  have nodup : (listed settings).Nodup := (nodup_oid_listed settings).of_map
  rw [List.nodup_map_iff_inj_on nodup]
  constructor
  · rintro distinct ⟨shown, other, known, isOther, name⟩
    have someFirst : ∃ role ∈ wellKnown, role.isBootstrap = true := by decide
    rcases someFirst with ⟨first, firstKnown, isFirst⟩
    have same : first.displayName settings = other.displayName settings := by
      rw [displayName_of_isBootstrap isFirst, displayName_of_not_isBootstrap isOther, name]
    have equal := distinct first (mem_listed.mpr ⟨firstKnown, .inl isFirst⟩) other
      (mem_listed.mpr ⟨known, .inr shown⟩) same
    rw [equal, isOther] at isFirst
    cases isFirst
  · intro free left leftListed right rightListed same
    cases leftFirst : left.isBootstrap with
    | false =>
        cases rightFirst : right.isBootstrap with
        | false =>
            rw [displayName_of_not_isBootstrap leftFirst,
              displayName_of_not_isBootstrap rightFirst] at same
            exact eq_of_name_eq (mem_listed.mp leftListed).1 (mem_listed.mp rightListed).1 same
        | true =>
            exact absurd (nameTaken_of_displayName_eq leftListed rightFirst leftFirst same.symm)
              free
    | true =>
        cases rightFirst : right.isBootstrap with
        | false =>
            exact absurd (nameTaken_of_displayName_eq rightListed leftFirst rightFirst same) free
        | true => exact eq_of_isBootstrap leftListed rightListed leftFirst rightFirst

/-! ## The indexes of `pg_authid` -/

theorem nodup_map_uint32_iff {values : List UInt32} :
    (values.map Cell.uint32).Nodup ↔ values.Nodup :=
  List.nodup_map_iff fun _ _ => Cell.uint32.inj

theorem nodup_map_string_iff {values : List String} :
    (values.map Cell.string).Nodup ↔ values.Nodup :=
  List.nodup_map_iff fun _ _ => Cell.string.inj

theorem respects_oid {index : IndexDef} (oneKey : index.keys = ["oid"])
    (settings : Settings) : (Authid.frame settings).Respects index := by
  rw [Frame.respects_iff_of_key oneKey (Authid.column?_oid settings) (by simp),
    Frame.Column.toList_ofOids, nodup_map_uint32_iff]
  exact nodup_oid_listed settings

theorem respects_rolname_iff {index : IndexDef} (oneKey : index.keys = ["rolname"])
    (settings : Settings) : (Authid.frame settings).Respects index ↔ ¬ NameTaken settings := by
  rw [Frame.respects_iff_of_key oneKey (Authid.column?_rolname settings) (by simp),
    Frame.Column.toList_ofTexts, nodup_map_string_iff]
  exact nodup_displayName_iff settings

/-- Under any settings `pg_authid` builds a row for every listed role. Its rows respect a
unique index of the descriptor, except for an index over the names of the roles while the
bootstrap superuser has taken the name of a listed predefined role. -/
theorem authid_respects_index_iff (lookup : String → Option String) (osUser : Option String) :
    ∃ frame, Table.authid.build (.ofLookup lookup osUser) = .ok frame ∧
      frame.height = (listed (.ofLookup lookup osUser)).length ∧
      ∀ index ∈ Authid.descriptor.indexes, index.unique = true →
        (frame.Respects index ↔
          ("rolname" ∈ index.keys → ¬ NameTaken (.ofLookup lookup osUser))) := by
  refine ⟨Authid.frame (.ofLookup lookup osUser), Table.build_authid _,
    Authid.height_frame _, ?_⟩
  simp only [Authid.descriptor, List.forall_mem_cons]
  refine ⟨fun _ => ?_, fun _ => ?_, fun _ member => nomatch member⟩
  · rw [respects_rolname_iff rfl]
    simp
  · exact iff_of_true (respects_oid rfl _) fun member _ => absurd member (by decide)

/-- The index over names is respected for a name of its own, and for the name of a
predefined role while these are left out. -/
theorem authid_respects_index_of_free_name :
    (∃ frame, Table.authid.build (.ofLookup (fun _ => none) (some "alice")) = .ok frame ∧
      frame.height = 15 ∧
      frame.Respects ⟨Authid.rolnameIndex, "pg_authid_rolname_index", ["rolname"], true⟩) ∧
    ∃ frame, Table.authid.build (.ofLookup
        (fun key => if key = Settings.predefinedVariable then some "off" else none)
        (some "pg_monitor")) = .ok frame ∧
      frame.height = 1 ∧
      frame.Respects ⟨Authid.rolnameIndex, "pg_authid_rolname_index", ["rolname"], true⟩ := by
  rcases authid_respects_index_iff (fun _ => none) (some "alice") with
    ⟨free, freeBuilt, freeHeight, freeIndexes⟩
  rcases authid_respects_index_iff
      (fun key => if key = Settings.predefinedVariable then some "off" else none)
      (some "pg_monitor") with
    ⟨alone, aloneBuilt, aloneHeight, aloneIndexes⟩
  exact ⟨⟨free, freeBuilt, freeHeight.trans (by decide +kernel),
      (freeIndexes _ List.mem_cons_self rfl).mpr fun _ => by decide +kernel⟩,
    alone, aloneBuilt, aloneHeight.trans (by decide +kernel),
    (aloneIndexes _ List.mem_cons_self rfl).mpr fun _ => by decide +kernel⟩

/-- A bootstrap superuser under the name of a predefined role gives two rows one name. -/
theorem not_authid_respects_unique_indexes :
    ¬ ∀ (lookup : String → Option String) (osUser : Option String) (frame : Frame),
      Table.authid.build (.ofLookup lookup osUser) = .ok frame →
      ∀ index ∈ Authid.descriptor.indexes, index.unique = true → frame.Respects index := by
  intro law
  let lookup (key : String) : Option String :=
    if key = Settings.superuserVariable then some "pg_monitor" else none
  have taken : NameTaken (.ofLookup lookup none) := by decide +kernel
  have respected := law lookup none _ (Table.build_authid _)
    ⟨Authid.rolnameIndex, "pg_authid_rolname_index", ["rolname"], true⟩ List.mem_cons_self rfl
  exact (respects_rolname_iff rfl _).mp respected taken

end Role

end RoleCatalog

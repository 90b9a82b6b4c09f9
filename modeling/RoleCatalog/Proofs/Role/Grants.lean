import RoleCatalog.Proofs.Role.Lookup
import RoleCatalog.Proofs.Table.Conformance
import Mathlib.Logic.Relation

/-! # Grants between roles

A row of `pg_auth_members` refers to three roles by their identifiers. The rows and the
roles are listed by two tables that read the settings each on its own, and a third way,
from a member to its roles, passes over identifiers that it does not know. All three
agree: the roles referred to are listed under the same settings, and no grant is lost.
-/

namespace RoleCatalog

namespace Frame

/-- The rows of a frame, each cut to some of the columns. -/
def keys (frame : Frame) (names : List String) : List (List Cell) :=
  (List.range frame.height).map (frame.key names)

/-- The rows of a frame whose columns hold one cell for each item of a list. -/
theorem keys_eq_map {ρ : Type} {frame : Frame} {names : List String} {items : List ρ}
    {cell : ρ → String → Cell} (height : frame.height = items.length)
    (found : ∀ name ∈ names, ∃ column, frame.column? name = some column ∧
      column.cells.toList = items.map fun item => cell item name) :
    frame.keys names = items.map fun item => names.map (cell item) := by
  rw [keys, height]
  apply List.ext_getElem
  · simp
  · intro row _ bound
    rw [List.length_map] at bound
    rw [List.getElem_map, List.getElem_map, List.getElem_range, key]
    apply List.map_congr_left
    intro name member
    rcases found name member with ⟨column, isColumn, cells⟩
    simp [isColumn, cells, bound]

end Frame

/-! ## The frames -/

namespace Membership

def cell (grant : Membership) : String → Cell
  | "oid" => .uint32 grant.oid
  | "roleid" => .uint32 grant.roleId
  | "member" => .uint32 grant.member
  | "grantor" => .uint32 grant.grantor
  | "admin_option" => .boolean grant.adminOption
  | "inherit_option" => .boolean grant.inheritOption
  | "set_option" => .boolean grant.setOption
  | _ => .null

def frame (settings : Settings) : Frame :=
  ⟨toColumns (listed settings)⟩

theorem exists_column?_toColumns (grants : List Membership) :
    ∀ name ∈ Table.authMembers.columns.map ColumnDef.name, ∃ column,
      (Frame.mk (toColumns grants)).column? name = some column ∧
        column.cells.toList = grants.map fun grant => grant.cell name := by
  simp only [Table.authMembers, List.map_cons, List.map_nil, List.forall_mem_cons]
  refine ⟨⟨_, rfl, ?_⟩, ⟨_, rfl, ?_⟩, ⟨_, rfl, ?_⟩, ⟨_, rfl, ?_⟩, ⟨_, rfl, ?_⟩, ⟨_, rfl, ?_⟩,
    ⟨_, rfl, ?_⟩, List.forall_mem_nil _⟩ <;>
  simp [Frame.Column.ofOids, Frame.Column.ofBools, Cells.toList, cell, Function.comp_def]

theorem keys_frame (settings : Settings) {names : List String}
    (declared : names ⊆ Table.authMembers.columns.map ColumnDef.name) :
    (frame settings).keys names = (listed settings).map fun grant => names.map grant.cell := by
  apply Frame.keys_eq_map
  · simp [frame, Frame.height, toColumns]
  · intro name member
    exact exists_column?_toColumns (listed settings) name (declared member)

end Membership

theorem Authid.keys_frame_oid (settings : Settings) :
    (Authid.frame settings).keys ["oid"] =
      (Role.listed settings).map fun role => [.uint32 role.oid] := by
  rw [Frame.keys, Frame.map_key_singleton (column?_oid settings) (by simp),
    Frame.Column.toList_ofOids, List.map_map, List.map_map]
  rfl

/-! ## Roles by their identifiers -/

namespace Role

/-- A search for each role in turn passes over none that is known. -/
theorem map_oid_filterMap_ofOid? {oids : List Oid} (known : oids ⊆ wellKnown.map Role.oid) :
    (oids.filterMap ofOid?).map Role.oid = oids := by
  induction oids with
  | nil => rfl
  | cons oid rest induction =>
      rw [List.cons_subset] at known
      rcases List.mem_map.mp known.1 with ⟨role, member, same⟩
      rw [List.filterMap_cons_some (ofOid?_eq_some_iff.mpr ⟨member, same⟩), List.map_cons,
        induction known.2, same]

end Role

/-! ## Roles that a grant refers to -/

namespace Membership

theorem mem_listed {settings : Settings} {grant : Membership} :
    grant ∈ listed settings ↔ settings.includePredefined = true ∧ grant ∈ bootstrap := by
  rw [listed]
  split <;> simp_all

theorem listed_sublist (settings : Settings) : (listed settings).Sublist bootstrap := by
  rw [listed]
  split
  · exact .refl _
  · exact List.nil_sublist _

/-- The roles that a grant refers to by their identifiers. -/
def references (grant : Membership) : List Oid :=
  [grant.roleId, grant.member, grant.grantor]

theorem references_subset :
    ∀ grant ∈ bootstrap, grant.references ⊆ Role.wellKnown.map Role.oid := by
  decide

theorem map_oid_memberships (member : Oid) :
    (Role.memberships member).map Role.oid =
      (bootstrap.filter fun grant => grant.member == member).map Membership.roleId := by
  have known : (bootstrap.filter fun grant => grant.member == member).map Membership.roleId ⊆
      Role.wellKnown.map Role.oid := by
    intro oid oidMember
    rcases List.mem_map.mp oidMember with ⟨grant, grantMember, rfl⟩
    exact references_subset grant (List.mem_filter.mp grantMember).1 List.mem_cons_self
  have found := Role.map_oid_filterMap_ofOid? known
  rw [List.filterMap_map] at found
  exact found

example : (Role.memberships RoleOid.pgMonitor).map Role.name =
    ["pg_read_all_settings", "pg_read_all_stats", "pg_stat_scan_tables"] := by decide

/-- The rows of a member lead to the roles of that member. -/
theorem filter_keys_frame {settings : Settings} (shown : settings.includePredefined = true)
    (member : Oid) :
    ((frame settings).keys ["member", "roleid"]).filter
        (fun row => row.head? == some (.uint32 member)) =
      (Role.memberships member).map fun role => [.uint32 member, .uint32 role.oid] := by
  have isMember (grant : Membership) :
      ((["member", "roleid"].map grant.cell).head? == some (.uint32 member)) =
        (grant.member == member) := by
    rw [Bool.eq_iff_iff, beq_iff_eq, beq_iff_eq]
    exact Option.some_inj.trans ⟨Cell.uint32.inj, congrArg Cell.uint32⟩
  have oids := congrArg (List.map fun oid => [Cell.uint32 member, .uint32 oid])
    (map_oid_memberships member)
  rw [List.map_map, List.map_map] at oids
  rw [keys_frame settings (by decide), listed, if_pos shown, List.filter_map]
  refine Eq.trans ?_ oids.symm
  simp only [Function.comp_def, isMember]
  apply List.map_congr_left
  intro grant grantMember
  rw [← eq_of_beq (List.mem_filter.mp grantMember).2]
  rfl

/-! ## Chains of grants -/

/-- The role `member` belongs to `role` by a row of the frame. -/
def Belongs (grants : Frame) (member role : Cell) : Prop :=
  [member, role] ∈ grants.keys ["member", "roleid"]

theorem belongs_frame_iff {settings : Settings} {member role : Cell} :
    Belongs (frame settings) member role ↔
      ∃ grant ∈ listed settings, .uint32 grant.member = member ∧ .uint32 grant.roleId = role := by
  rw [Belongs, keys_frame settings (by decide), List.mem_map]
  refine exists_congr fun grant => and_congr_right fun _ => ?_
  exact List.cons_eq_cons.trans (and_congr_right fun _ => List.singleton_inj)

/-- No role that others belong to belongs to a role itself. -/
theorem member_ne_roleId : ∀ grant ∈ bootstrap, ∀ next ∈ bootstrap, next.member ≠ grant.roleId := by
  decide

theorem not_belongs_of_belongs {settings : Settings} {member role next : Cell}
    (first : Belongs (frame settings) member role) : ¬ Belongs (frame settings) role next := by
  intro second
  rcases belongs_frame_iff.mp first with ⟨grant, grantListed, -, isRole⟩
  rcases belongs_frame_iff.mp second with ⟨later, laterListed, isMember, -⟩
  exact member_ne_roleId grant (mem_listed.mp grantListed).2 later (mem_listed.mp laterListed).2
    (Cell.uint32.inj (isMember.trans isRole.symm))

/-- A chain of grants has one link, so it does not come back to where it starts. -/
theorem not_transGen_belongs_self (settings : Settings) (role : Cell) :
    ¬ Relation.TransGen (Belongs (frame settings)) role role := by
  intro cycle
  rcases Relation.TransGen.head'_iff.mp cycle with ⟨next, first, -⟩
  rcases Relation.TransGen.tail'_iff.mp cycle with ⟨previous, -, last⟩
  exact not_belongs_of_belongs last first

/-! ## The law -/

theorem keys_frame_subset (settings : Settings) :
    ∀ name ∈ ["roleid", "member", "grantor"],
      (frame settings).keys [name] ⊆ (Authid.frame settings).keys ["oid"] := by
  have cells (grant : Membership) : ∀ name ∈ ["roleid", "member", "grantor"],
      ∃ oid ∈ grant.references, grant.cell name = .uint32 oid := by
    simp [references, cell]
  have declared : ∀ name ∈ ["roleid", "member", "grantor"],
      [name] ⊆ Table.authMembers.columns.map ColumnDef.name := by
    decide
  intro name isReference row rowMember
  rw [keys_frame settings (declared name isReference)] at rowMember
  rcases List.mem_map.mp rowMember with ⟨grant, grantMember, rfl⟩
  rcases mem_listed.mp grantMember with ⟨shown, atBootstrap⟩
  rcases cells grant name isReference with ⟨oid, oidMember, isOid⟩
  rcases List.mem_map.mp (references_subset grant atBootstrap oidMember) with ⟨role, known, rfl⟩
  rw [Authid.keys_frame_oid, Role.listed_of_includePredefined shown]
  exact List.mem_map.mpr ⟨role, known, congrArg (fun cell => [cell]) isOid.symm⟩

theorem nodup_keys_frame {names : List String}
    (declared : names ⊆ Table.authMembers.columns.map ColumnDef.name)
    (distinct : (bootstrap.map fun grant => names.map grant.cell).Nodup)
    (settings : Settings) : ((frame settings).keys names).Nodup := by
  rw [keys_frame settings declared]
  exact distinct.sublist ((listed_sublist settings).map _)

/-- Under all settings each role that a row of `pg_auth_members` refers to has a row in
`pg_authid`; no two rows agree on the role and its member, or on their own identifier;
and no role belongs to itself, in one step or in several. With predefined roles listed,
the rows of a member are those of the roles it belongs to, in their order. -/
theorem members_refer_to_roles (settings : Settings) :
    (∃ grants roles, Table.authMembers.build settings = .ok grants ∧
      Table.authid.build settings = .ok roles ∧
      (∀ name ∈ ["roleid", "member", "grantor"], grants.keys [name] ⊆ roles.keys ["oid"]) ∧
      (∀ role, ¬ Belongs grants role role) ∧
      (grants.keys ["member", "roleid"]).Nodup ∧
      (grants.keys ["oid"]).Nodup ∧
      ∀ role, ¬ Relation.TransGen (Belongs grants) role role) ∧
    ∀ (superuser : String) (member : Oid), ∃ grants,
      Table.authMembers.build ⟨superuser, true⟩ = .ok grants ∧
      (grants.keys ["member", "roleid"]).filter
          (fun row => row.head? == some (.uint32 member)) =
        (Role.memberships member).map fun role => [.uint32 member, .uint32 role.oid] := by
  constructor
  · refine ⟨frame settings, Authid.frame settings, Table.build_authMembers settings,
      Table.build_authid settings, keys_frame_subset settings, ?_,
      nodup_keys_frame (by decide) (by decide) settings,
      nodup_keys_frame (by decide) (by decide) settings, not_transGen_belongs_self settings⟩
    intro role self
    exact not_transGen_belongs_self settings role (.single self)
  · intro superuser member
    exact ⟨frame ⟨superuser, true⟩, Table.build_authMembers _, filter_keys_frame rfl member⟩

end Membership

end RoleCatalog

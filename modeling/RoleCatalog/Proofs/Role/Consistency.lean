import RoleCatalog.Role.Validation
import Mathlib.Data.List.Nodup

/-! # Consistent tables of roles

Validation accepts the consistent tables of roles and no others. The table of well-known
roles is accepted, so an identifier or a name is that of one role at most.
-/

namespace RoleCatalog.Role

structure Consistent (roles : List Role) : Prop where
  oids : (roles.map Role.oid).Nodup
  names : (roles.map Role.name).Nodup
  reserved : ∀ role ∈ roles, role.isBootstrap = false → isReservedName role.name = true
  oneBootstrap : roles.countP isBootstrap = 1

theorem roleDefect?_eq_none_iff (preceding : List Role) (role : Role) :
    roleDefect? preceding role = none ↔
      (role.isBootstrap = false → isReservedName role.name = true) ∧
        ∀ other ∈ preceding, other.oid ≠ role.oid ∧ other.name ≠ role.name := by
  unfold roleDefect?
  simp only [List.any_eq_true, beq_iff_eq]
  split
  · grind
  · split
    · grind
    · split <;> grind

theorem countDefect?_eq_none_iff (roles : List Role) :
    countDefect? roles = none ↔ roles.countP isBootstrap = 1 := by
  simp [countDefect?]

theorem accepted_iff_consistent (roles : List Role) :
    validate roles = .ok () ↔ Consistent roles := by
  rw [validate_eq_ok_iff, defect?, Option.or_eq_none_iff, countDefect?_eq_none_iff,
    firstDefect?_eq_none_iff roleDefect?_eq_none_iff, List.pairwise_and_iff]
  simp only [List.not_mem_nil, false_implies, implies_true, and_true]
  constructor
  · intro accepted
    rcases accepted with ⟨⟨reserved, oids, names⟩, oneBootstrap⟩
    exact ⟨List.pairwise_map.mpr oids, List.pairwise_map.mpr names, reserved, oneBootstrap⟩
  · intro consistent
    exact ⟨⟨consistent.reserved, List.pairwise_map.mp consistent.oids,
      List.pairwise_map.mp consistent.names⟩, consistent.oneBootstrap⟩

/-! ## The table of well-known roles -/

theorem consistent_wellKnown : Consistent wellKnown :=
  (accepted_iff_consistent wellKnown).mp validate_wellKnown

theorem eq_of_oid_eq {left right : Role} (leftKnown : left ∈ wellKnown)
    (rightKnown : right ∈ wellKnown) (same : left.oid = right.oid) : left = right :=
  List.inj_on_of_nodup_map consistent_wellKnown.oids leftKnown rightKnown same

theorem eq_of_name_eq {left right : Role} (leftKnown : left ∈ wellKnown)
    (rightKnown : right ∈ wellKnown) (same : left.name = right.name) : left = right :=
  List.inj_on_of_nodup_map consistent_wellKnown.names leftKnown rightKnown same

end RoleCatalog.Role

import RoleCatalog.Proofs.Json.Integer
import RoleCatalog.Proofs.Json.Reading

/-! # Readable values

A value is readable up to a depth when its numbers can be read and its containers are
nested no deeper. Arrays and objects are readable one level deeper than what is in them.
-/

namespace RoleCatalog.Json

theorem legible_laterTokens_ofMembers {members : List (String × Value)}
    (legible : ∀ member ∈ members, ∀ token ∈ member.2.tokens, token.Legible) :
    ∀ token ∈ (Members.ofList members).laterTokens, token.Legible := by
  induction members with
  | nil =>
      rw [Members.ofList, Members.laterTokens]
      exact List.forall_mem_nil _
  | cons head tail induction =>
      rw [List.forall_mem_cons] at legible
      rw [Members.ofList, Members.laterTokens, List.forall_mem_cons, List.forall_mem_cons,
        List.forall_mem_cons, List.forall_mem_append]
      exact ⟨trivial, trivial, trivial, legible.1, induction legible.2⟩

theorem legible_tokens_ofMembers {members : List (String × Value)}
    (legible : ∀ member ∈ members, ∀ token ∈ member.2.tokens, token.Legible) :
    ∀ token ∈ (Value.ofMembers members).tokens, token.Legible := by
  cases members with
  | nil =>
      rw [Value.ofMembers, Members.ofList, Value.tokens, List.forall_mem_cons,
        List.forall_mem_singleton]
      exact ⟨trivial, trivial⟩
  | cons head tail =>
      rw [List.forall_mem_cons] at legible
      rw [Value.ofMembers, Members.ofList, Value.tokens, List.forall_mem_cons,
        List.forall_mem_cons, List.forall_mem_cons, List.forall_mem_append,
        List.forall_mem_append, List.forall_mem_singleton]
      exact ⟨trivial, trivial, trivial, ⟨legible.1, legible_laterTokens_ofMembers legible.2⟩,
        trivial⟩

theorem depth_ofMembers_le {members : List (String × Value)} {bound : Nat}
    (shallow : ∀ member ∈ members, member.2.depth ≤ bound) :
    (Value.ofMembers members).depth ≤ bound + 1 := by
  have inner : (Members.ofList members).depth ≤ bound := by
    induction members with
    | nil =>
        rw [Members.ofList, Members.depth]
        exact Nat.zero_le bound
    | cons head tail induction =>
        rw [List.forall_mem_cons] at shallow
        rw [Members.ofList, Members.depth]
        exact Nat.max_le.mpr ⟨shallow.1, induction shallow.2⟩
  rw [Value.ofMembers, Value.depth]
  exact Nat.succ_le_succ inner

/-- A value that is read from the tokens written for it, with the containers in it nested no
deeper than the bound. -/
structure Value.Readable (bound : Nat) (value : Value) : Prop where
  legible : ∀ token ∈ value.tokens, token.Legible
  shallow : value.depth ≤ bound

namespace Value.Readable

variable {bound : Nat}

theorem bool (value : Bool) : (Value.bool value).Readable bound where
  legible := by
    rw [tokens, List.forall_mem_singleton]
    trivial
  shallow := Nat.zero_le bound

theorem number {value : Decimal} (legible : (Token.number value).Legible) :
    (Value.number value).Readable bound where
  legible := by
    rw [tokens, List.forall_mem_singleton]
    exact legible
  shallow := Nat.zero_le bound

theorem ofInt {value : Int} (fits : FitsWord value) : (Value.ofInt value).Readable bound :=
  .number (legible_ofInt fits)

theorem string (value : String) : (Value.string value).Readable bound where
  legible := by
    rw [tokens, List.forall_mem_singleton]
    trivial
  shallow := Nat.zero_le bound

theorem ofList {items : List Value} (readable : ∀ item ∈ items, item.Readable bound) :
    (Value.ofList items).Readable (bound + 1) where
  legible := legible_tokens_ofList fun item member => (readable item member).legible
  shallow := depth_ofList_le fun item member => (readable item member).shallow

theorem ofMembers {members : List (String × Value)}
    (readable : ∀ member ∈ members, member.2.Readable bound) :
    (Value.ofMembers members).Readable (bound + 1) where
  legible := legible_tokens_ofMembers fun member isMember => (readable member isMember).legible
  shallow := depth_ofMembers_le fun member isMember => (readable member isMember).shallow

theorem ofText?_compact {value : Value} (readable : value.Readable bound)
    (small : bound < nestingLimit) : Value.ofText? value.compact = some value :=
  Value.ofText?_compact readable.legible (Nat.lt_of_le_of_lt readable.shallow small)

end Value.Readable

end RoleCatalog.Json

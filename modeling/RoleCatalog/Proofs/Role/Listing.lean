import RoleCatalog.Proofs.Json.Integer
import RoleCatalog.Proofs.Json.Layout
import RoleCatalog.Proofs.Role.AuthidFrame
import RoleCatalog.Role.Listing
import Mathlib.Data.List.Forall2

/-! # The listing of the roles

The listing of the roles is read back as an array with an object for each of them, whatever
characters the name of the bootstrap superuser holds. The object with the identifier of
that role has the name, so the listing shows the identifiers and the names that the rows of
`pg_authid` have when the predefined roles are included.
-/

namespace RoleCatalog

namespace Json.Value

/-- The keys of an object in order. -/
def keys : Value → List String
  | .object members => members.toList.map Prod.fst
  | _ => []

/-- The first value under a key. -/
def member? (value : Value) (key : String) : Option Value :=
  match value with
  | .object members => members.toList.lookup key
  | _ => none

end Json.Value

namespace Role

open Json

/-- The object is about the role. Its name depends on the identifier that it shows. -/
structure ShownBy (settings : Settings) (entry : Value) (role : Role) : Prop where
  keys : entry.keys = ["description", "name", "oid", "symbol"]
  description : entry.member? "description" = some (.string role.description)
  name : entry.member? "name" = some (.string
    (if entry.member? "oid" = some (.ofInt 10) then settings.bootstrapSuperuser else role.name))
  oid : entry.member? "oid" = some (.ofInt role.oid.toNat)
  symbol : entry.member? "symbol" = some (.string role.symbol)

/-- The number in the object tells the bootstrap superuser from the other roles. -/
theorem ofInt_oid_eq_iff (role : Role) :
    some (Value.ofInt role.oid.toNat) = some (.ofInt 10) ↔ role.isBootstrap = true := by
  have number : (role.oid.toNat : Int) = 10 ↔ role.oid = 10 := by
    rw [← UInt32.toNat_inj]
    exact Int.ofNat_inj
  simp [Value.ofInt, Decimal.ofInt, isBootstrap, RoleOid.bootstrapSuperuser, number]

theorem sortMembers_members (role : Role) :
    sortMembers role.members =
      [("description", .string role.description), ("name", .string role.name),
        ("oid", .ofInt role.oid.toNat), ("symbol", .string role.symbol)] := by
  have symbolAfter : keyBefore "symbol" "oid" = false := by decide
  have nameFirst : keyBefore "name" "oid" = true := by decide
  have descriptionFirst : keyBefore "description" "name" = true := by decide
  simp [sortMembers, members, insertMember, symbolAfter, nameFirst, descriptionFirst]

/-- The number leads to the role that rows give the name from the settings. -/
theorem listingEntry_eq (settings : Settings) (role : Role) :
    listingEntry settings role = .ofMembers
      [("description", .string role.description),
        ("name", .string (role.displayName settings)), ("oid", .ofInt role.oid.toNat),
        ("symbol", .string role.symbol)] := by
  have number : some (Value.ofInt role.oid.toNat) =
      some (.ofInt RoleOid.bootstrapSuperuser.toNat) ↔ role.isBootstrap = true :=
    ofInt_oid_eq_iff role
  have shown : (sortMembers role.members).lookup "oid" = some (.ofInt role.oid.toNat) := by
    rw [sortMembers_members]
    rfl
  have nameAfter : keyBefore "name" "description" = false := by decide
  have nameItself : keyBefore "name" "name" = false := by decide
  rw [listingEntry, renameBootstrap, shown, displayName]
  simp only [number]
  split
  · simp [sortMembers_members, insertMember, nameAfter, nameItself]
  · rw [sortMembers_members]

theorem member?_oid_listingEntry (settings : Settings) (role : Role) :
    (listingEntry settings role).member? "oid" = some (.ofInt role.oid.toNat) := by
  rw [listingEntry_eq]
  rfl

theorem member?_name_listingEntry (settings : Settings) (role : Role) :
    (listingEntry settings role).member? "name" = some (.string (role.displayName settings)) := by
  rw [listingEntry_eq]
  rfl

theorem shownBy_listingEntry (settings : Settings) (role : Role) :
    ShownBy settings (listingEntry settings role) role where
  keys := by
    rw [listingEntry_eq]
    rfl
  description := by
    rw [listingEntry_eq]
    rfl
  name := by
    rw [member?_name_listingEntry, member?_oid_listingEntry, displayName]
    simp only [ofInt_oid_eq_iff]
  oid := member?_oid_listingEntry settings role
  symbol := by
    rw [listingEntry_eq]
    rfl

theorem tokens_listingEntry (settings : Settings) (role : Role) :
    (listingEntry settings role).tokens =
      [.openObject, .string "description", .colon, .string role.description, .comma,
        .string "name", .colon, .string (role.displayName settings), .comma,
        .string "oid", .colon, .number (.ofInt role.oid.toNat), .comma,
        .string "symbol", .colon, .string role.symbol, .closeObject] := by
  simp [listingEntry_eq, Value.ofMembers, Members.ofList, Value.tokens, Members.laterTokens,
    Value.ofInt]

theorem depth_listingEntry (settings : Settings) (role : Role) :
    (listingEntry settings role).depth = 1 := by
  simp [listingEntry_eq, Value.ofMembers, Value.ofInt, Members.ofList, Value.depth,
    Members.depth]

theorem legible_tokens_listingEntry (settings : Settings) (role : Role) :
    ∀ token ∈ (listingEntry settings role).tokens, token.Legible := by
  have oid : (Token.number (.ofInt role.oid.toNat)).Legible := by
    have bound := role.oid.toNat_lt
    exact legible_ofInt (Nat.lt_trans bound (by decide))
  simpa [tokens_listingEntry, Token.Legible] using oid

theorem ofText?_listing (settings : Settings) :
    Value.ofText? (listing settings) =
      some (.ofList (wellKnown.map (listingEntry settings))) := by
  have legible : ∀ entry ∈ wellKnown.map (listingEntry settings),
      ∀ token ∈ entry.tokens, token.Legible :=
    List.forall_mem_map.mpr fun role _ => legible_tokens_listingEntry settings role
  have shallow : ∀ entry ∈ wellKnown.map (listingEntry settings), entry.depth ≤ 1 :=
    List.forall_mem_map.mpr fun role _ => Nat.le_of_eq (depth_listingEntry settings role)
  exact Value.ofText?_pretty (legible_tokens_ofList legible)
    (Nat.lt_of_le_of_lt (depth_ofList_le shallow) (by decide))

/-! ## The rows of `pg_authid` -/

section Rows

variable {settings : Settings} (shown : settings.includePredefined = true)

include shown

theorem oid_synthesize :
    (RoleColumns.synthesize settings).oid = wellKnown.map Role.oid := by
  rw [← listed_of_includePredefined shown]
  exact Authid.map_oid_synthesize settings

theorem rolname_synthesize :
    (RoleColumns.synthesize settings).rolname = wellKnown.map (displayName settings) := by
  rw [← listed_of_includePredefined shown]
  exact Authid.map_rolname_synthesize settings

end Rows

/-- The listing is JSON text for an array with one object for each role, in the order of
the table and with its keys in alphabetical order. It does not depend on whether predefined
roles are included, and its identifiers and names are those of the rows of `pg_authid` that
the settings give when they are. -/
theorem listing_reads_as_roles (settings : Settings) :
    (∃ entries, Value.ofText? (listing settings) = some (.ofList entries) ∧
      List.Forall₂ (ShownBy settings) entries wellKnown ∧
      (entries.map fun entry => entry.member? "oid") =
        (RoleColumns.synthesize ⟨settings.bootstrapSuperuser, true⟩).oid.map
          (fun oid => some (.ofInt oid.toNat)) ∧
      (entries.map fun entry => entry.member? "name") =
        (RoleColumns.synthesize ⟨settings.bootstrapSuperuser, true⟩).rolname.map
          (fun name => some (.string name))) ∧
    ∀ included, listing ⟨settings.bootstrapSuperuser, included⟩ = listing settings := by
  constructor
  · refine ⟨_, ofText?_listing settings, ?_, ?_, ?_⟩
    · rw [List.forall₂_map_left_iff, List.forall₂_same]
      exact fun role _ => shownBy_listingEntry settings role
    · rw [oid_synthesize rfl, List.map_map, List.map_map]
      simp only [Function.comp_def, member?_oid_listingEntry]
    · have names : displayName ⟨settings.bootstrapSuperuser, true⟩ = displayName settings := rfl
      rw [rolname_synthesize rfl, names, List.map_map, List.map_map]
      simp only [Function.comp_def, member?_name_listingEntry]
  · exact fun _ => rfl

end Role

end RoleCatalog

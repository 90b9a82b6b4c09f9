/-! A scan of a list for its first defect. Every item is checked against the items
before it, which are kept with the nearest one first. A search in which at most one
item can match finds that item wherever it stands. -/

namespace RoleCatalog

def firstDefect? {α δ : Type} (check : List α → α → Option δ) (preceding : List α) :
    List α → Option δ
  | [] => none
  | item :: rest => (check preceding item).or (firstDefect? check (item :: preceding) rest)

/-- A check that asks for a sound item, apart from each one before it, finds no defect
in a list of sound items that are pairwise apart. -/
theorem firstDefect?_eq_none_iff {α δ : Type} {check : List α → α → Option δ}
    {Sound : α → Prop} {Apart : α → α → Prop}
    (check_eq_none_iff : ∀ preceding item, check preceding item = none ↔
      Sound item ∧ ∀ other ∈ preceding, Apart other item)
    (preceding items : List α) :
    firstDefect? check preceding items = none ↔
      (∀ item ∈ items, Sound item ∧ ∀ other ∈ preceding, Apart other item) ∧
        items.Pairwise Apart := by
  induction items generalizing preceding with
  | nil => simp [firstDefect?]
  | cons item rest induction =>
      simp only [firstDefect?, Option.or_eq_none_iff, check_eq_none_iff, induction,
        List.forall_mem_cons, List.pairwise_cons]
      constructor
      · rintro ⟨head, tail, apart⟩
        exact ⟨⟨head, fun later member => ⟨(tail later member).1, (tail later member).2.2⟩⟩,
          fun later member => (tail later member).2.1, apart⟩
      · rintro ⟨⟨head, tail⟩, fromHead, apart⟩
        exact ⟨head, fun later member =>
          ⟨(tail later member).1, fromHead later member, (tail later member).2⟩, apart⟩

theorem find?_eq_some_iff_of_unique {α : Type} {matching : α → Bool} {items : List α}
    (unique : ∀ left ∈ items, ∀ right ∈ items,
      matching left = true → matching right = true → left = right) {found : α} :
    items.find? matching = some found ↔ found ∈ items ∧ matching found = true := by
  constructor
  · intro result
    exact ⟨List.mem_of_find?_eq_some result, List.find?_some result⟩
  · rintro ⟨member, holds⟩
    have some := List.find?_isSome.mpr ⟨found, member, holds⟩
    rcases Option.isSome_iff_exists.mp some with ⟨first, result⟩
    rw [result, unique first (List.mem_of_find?_eq_some result) found member
      (List.find?_some result) holds]

end RoleCatalog

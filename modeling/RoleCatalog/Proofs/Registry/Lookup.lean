import RoleCatalog.Proofs.Registry.Identifier
import RoleCatalog.Registry.Run

/-! # Lookups

A lookup reads an identifier and searches for it. So it is insensitive to spelling where
the reading is, and plain names are looked up as a search for them would find them: with
a schema first and else in the default schema.
-/

namespace RoleCatalog.Registry

open Identifier

theorem find?_congr (registry : Registry) {schema otherSchema name otherName : String}
    (sameSchema : Text.SameFold schema otherSchema) (sameName : Text.SameFold name otherName) :
    registry.find? schema name = registry.find? otherSchema otherName := by
  unfold find? Text.SameFold
  rw [sameSchema, sameName]

theorem sameFold_lowered (name : String) :
    Text.SameFold (String.ofList (name.toList.map Char.toLower)) name := by
  rw [Text.SameFold, Text.fold, String.toList_ofList, List.map_map]
  exact List.map_congr_left fun character _ => Text.toLower_toLower character

section Separators

variable (registry : Registry) {schema name : String} {left middle right : List Char}
  (leftSeparates : ∀ character ∈ left, isSeparator character = true)
  (middleSeparates : ∀ character ∈ middle, isSeparator character = true)
  (rightSeparates : ∀ character ∈ right, isSeparator character = true)

include leftSeparates rightSeparates in
theorem lookup?_name (plainName : PlainName name.toList) :
    registry.lookup? (String.ofList (left ++ name.toList ++ right)) =
      registry.find? Table.defaultSchema name := by
  rw [lookup?, ofText, String.toList_ofList,
    parts_of_name leftSeparates rightSeparates plainName]
  exact registry.find?_congr rfl (sameFold_lowered name)

include leftSeparates middleSeparates rightSeparates in
theorem lookup?_schema_and_name (plainSchema : PlainName schema.toList)
    (plainName : PlainName name.toList) (nonempty : middle ≠ []) :
    registry.lookup?
        (String.ofList (left ++ schema.toList ++ middle ++ name.toList ++ right)) =
      (registry.find? schema name).or (registry.find? Table.defaultSchema name) := by
  rw [lookup?, ofText, String.toList_ofList, parts_of_schema_and_name leftSeparates
    middleSeparates rightSeparates plainSchema plainName nonempty]
  have qualified := registry.find?_congr (sameFold_lowered schema) (sameFold_lowered name)
  have unqualified := registry.find?_congr (Eq.refl (Text.fold Table.defaultSchema))
    (sameFold_lowered name)
  rw [← qualified, ← unqualified]
  rfl

end Separators

/-- In every state a lookup answers alike for all spellings of a token, wherever the token
is the first word of the text. A schema and a name with separators between and around
them are answered as a search for both would be, or else as one in the default schema;
a name alone is answered as a search in the default schema. -/
theorem lookup_insensitive_to_spelling (registry : Registry) :
    (∀ token spelling blanks ending tail : List Char,
      Text.IsWord token → ';' ∉ token → Respelled token spelling → spelling ≠ [] →
      blanks.all Text.isBlank = true → (ending = [] ∨ ending = [';']) →
      tail.head?.all Text.isBlank = true →
      (registry.step (.lookup (String.ofList (blanks ++ spelling ++ ending ++ tail)))).2 =
        (registry.step (.lookup (String.ofList token))).2) ∧
    (∀ (schema name : String) (left middle right : List Char),
      PlainName schema.toList → PlainName name.toList →
      left.all isSeparator = true → middle.all isSeparator = true →
      right.all isSeparator = true → middle ≠ [] →
      ∃ qualified unqualified,
        (registry.step (.find schema name)).2 = .table qualified ∧
        (registry.step (.find "pg_catalog" name)).2 = .table unqualified ∧
        (registry.step (.lookup
          (String.ofList (left ++ schema.toList ++ middle ++ name.toList ++ right)))).2 =
            .table (qualified.or unqualified)) ∧
    (∀ (name : String) (left right : List Char), PlainName name.toList →
      left.all isSeparator = true → right.all isSeparator = true →
      (registry.step (.lookup (String.ofList (left ++ name.toList ++ right)))).2 =
        (registry.step (.find "pg_catalog" name)).2) := by
  refine ⟨?_, ?_, ?_⟩
  · intro token spelling blanks ending tail isWord absent respelled nonempty blank optional ends
    have read := ofText_append isWord absent respelled nonempty (List.all_eq_true.mp blank)
      optional ends
    exact congrArg (fun identifier => Answer.table (registry.ensureDefaults.resolve? identifier))
      read
  · intro schema name left middle right plainSchema plainName leftSeparates middleSeparates
      rightSeparates nonempty
    exact ⟨_, _, rfl, rfl, congrArg Answer.table (registry.ensureDefaults.lookup?_schema_and_name
      (List.all_eq_true.mp leftSeparates) (List.all_eq_true.mp middleSeparates)
      (List.all_eq_true.mp rightSeparates) plainSchema plainName nonempty)⟩
  · intro name left right plainName leftSeparates rightSeparates
    exact congrArg Answer.table (registry.ensureDefaults.lookup?_name
      (List.all_eq_true.mp leftSeparates) (List.all_eq_true.mp rightSeparates) plainName)

/-- A token with a quotation mark inside and a letter in upper case, then a schema that
has no table of the name, then a name among separators. -/
theorem lookup_spellings_of_registered_table :
    (((fresh.register (.ofColumns "pg_catalog" "Ab" [])).step (.lookup (String.ofList
        (['\t'] ++ ['"', 'A', '\'', 'b'] ++ [';'] ++ [' ', 'x'])))).2 =
      ((fresh.register (.ofColumns "pg_catalog" "Ab" [])).step
        (.lookup (String.ofList ['a', 'b']))).2) ∧
    (∃ qualified unqualified,
      ((fresh.register (.ofColumns "pg_catalog" "Ab" [])).step (.find "public" "aB")).2 =
        .table qualified ∧
      ((fresh.register (.ofColumns "pg_catalog" "Ab" [])).step (.find "pg_catalog" "aB")).2 =
        .table unqualified ∧
      ((fresh.register (.ofColumns "pg_catalog" "Ab" [])).step (.lookup (String.ofList
        (['/'] ++ "public".toList ++ ['.', '\\'] ++ "aB".toList ++ ['.'])))).2 =
          .table (qualified.or unqualified)) ∧
    ((fresh.register (.ofColumns "pg_catalog" "Ab" [])).step (.lookup (String.ofList
        (['.', '.'] ++ "aB".toList ++ ['/'])))).2 =
      ((fresh.register (.ofColumns "pg_catalog" "Ab" [])).step (.find "pg_catalog" "aB")).2 := by
  have law := lookup_insensitive_to_spelling (fresh.register (.ofColumns "pg_catalog" "Ab" []))
  have respelled : Respelled ['a', 'b'] ['"', 'A', '\'', 'b'] :=
    .quoteAdded (.inl rfl) (.letter (by decide) (.quoteAdded (.inr rfl) (.letter rfl .done)))
  exact ⟨law.1 _ _ _ _ _ (by decide) (by decide) respelled (by decide) (by decide) (.inr rfl)
      (by decide),
    law.2.1 "public" "aB" _ _ _ (by decide) (by decide) (by decide) (by decide) (by decide)
      (by decide),
    law.2.2 "aB" _ _ (by decide) (by decide) (by decide)⟩

end RoleCatalog.Registry

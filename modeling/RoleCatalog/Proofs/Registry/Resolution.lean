import RoleCatalog.Proofs.Registry.QualifiedName

/-! # What an identifier is resolved by

A registry resolves an identifier by its name and its schema, or the default schema if it
has none. These are in lower case, so two texts that are not read alike are told apart by
a registry with a table for each of them.
-/

namespace RoleCatalog

namespace Identifier

/-- The schema in which an identifier is looked for first. -/
def schema (identifier : Identifier) : String :=
  identifier.schema?.getD Table.defaultSchema

/-! ## The parts of a text -/

theorem map_toLower_normalize (text : List Char) :
    (normalize text).map Char.toLower = normalize text := by
  rw [normalize, map_toLower_replace (fun _ => Text.toLower_eq_iff (by decide)) (by decide),
    Text.lower, Text.lowerFrom_eq_lowerWithin, Text.map_toLower_lowerWithin]

theorem subset_of_mem_splitOnP {divides : Char → Bool} {word piece : List Char}
    (isPiece : piece ∈ word.splitOnP divides) : piece ⊆ word := by
  induction word generalizing piece with
  | nil => exact (List.mem_singleton.mp isPiece) ▸ List.Subset.refl _
  | cons character rest induction =>
      rw [List.splitOnP_cons_eq_if_modifyHead] at isPiece
      split at isPiece
      · rcases List.mem_cons.mp isPiece with rfl | later
        · exact List.nil_subset _
        · exact List.subset_cons_of_subset character (induction later)
      · cases split : rest.splitOnP divides with
        | nil => exact absurd split (List.splitOnP_ne_nil divides rest)
        | cons head tail =>
            rw [split, List.modifyHead_cons] at isPiece
            rw [split, List.forall_mem_cons] at induction
            rcases List.mem_cons.mp isPiece with rfl | later
            · exact List.cons_subset_cons character induction.1
            · exact List.subset_cons_of_subset character (induction.2 _ later)

theorem map_toLower_of_mem_parts {text part : List Char} (isPart : part ∈ parts text) :
    part.map Char.toLower = part := by
  have inText : part ⊆ normalize text := by
    rw [parts, List.splitOn_eq_splitOnP, List.mem_filter] at isPart
    exact subset_of_mem_splitOnP isPart.1
  have lowered : (normalize text).map Char.toLower = (normalize text).map id := by
    rw [map_toLower_normalize, List.map_id]
  refine (List.map_congr_left ?_).trans (List.map_id part)
  exact fun character member => List.map_eq_map_iff.mp lowered character (inText member)

theorem fold_ofReversedParts {parts : List (List Char)}
    (lowered : ∀ part ∈ parts, part.map Char.toLower = part) :
    Text.fold (ofReversedParts parts).schema = (ofReversedParts parts).schema.toList ∧
      Text.fold (ofReversedParts parts).name = (ofReversedParts parts).name.toList := by
  have folded {part : List Char} (member : part ∈ parts) :
      Text.fold (String.ofList part) = (String.ofList part).toList := by
    rw [Text.fold, String.toList_ofList, lowered part member]
  have default : Text.fold Table.defaultSchema = Table.defaultSchema.toList := by decide
  rcases parts with _ | ⟨name, _ | ⟨schema, earlier⟩⟩
  · exact ⟨default, rfl⟩
  · exact ⟨default, folded List.mem_cons_self⟩
  · exact ⟨folded (List.mem_cons_of_mem name List.mem_cons_self), folded List.mem_cons_self⟩

theorem fold_ofText (text : String) :
    Text.fold (ofText text).schema = (ofText text).schema.toList ∧
      Text.fold (ofText text).name = (ofText text).name.toList :=
  fold_ofReversedParts fun _ member => map_toLower_of_mem_parts (List.mem_reverse.mp member)

end Identifier

namespace Registry

open Identifier

theorem resolve?_eq (registry : Registry) (identifier : Identifier) :
    registry.resolve? identifier = (registry.find? identifier.schema identifier.name).or
      (registry.find? Table.defaultSchema identifier.name) := by
  rcases identifier with ⟨_ | schema, name⟩
  · exact Option.or_self.symm
  · rfl

theorem exists_resolve?_of_mem_keys {registry : Registry} {identifier : Identifier}
    (member : (identifier.schema, identifier.name) ∈ registry.keys) :
    ∃ found, registry.resolve? identifier = some found ∧
      GoesBy found identifier.schema identifier.name := by
  rcases exists_find?_of_mem_keys member with ⟨found, result⟩
  refine ⟨found, ?_, goesBy_of_find? result⟩
  rw [resolve?_eq, result, Option.some_or]

/-- A registry with a table for each of two identifiers resolves them alike only if a search
for one is a search for the other. -/
theorem sameFold_of_resolve?_eq {first second : Identifier}
    (agree : ∀ steps : List Step, (fresh.run steps).1.ensureDefaults.resolve? first =
      (fresh.run steps).1.ensureDefaults.resolve? second) :
    Text.SameFold first.schema second.schema ∧ Text.SameFold first.name second.name := by
  let table (identifier : Identifier) : Table := .ofColumns identifier.schema identifier.name []
  let steps : List Step := [.register (table first), .register (table second), .ensureDefaults]
  have firstLogged : table first ∈ log false steps := List.mem_cons_self
  have secondLogged : table second ∈ log false steps :=
    List.mem_cons_of_mem (table first) List.mem_cons_self
  have firstKey : (first.schema, first.name) ∈ (fresh.run steps).1.keys :=
    key_mem_run_fresh firstLogged
  have secondKey : (second.schema, second.name) ∈ (fresh.run steps).1.keys :=
    key_mem_run_fresh secondLogged
  rcases exists_resolve?_of_mem_keys firstKey with ⟨found, resolved, goesBy⟩
  rcases exists_resolve?_of_mem_keys secondKey with ⟨otherFound, otherResolved, otherGoesBy⟩
  have answers : (fresh.run steps).1.resolve? first = (fresh.run steps).1.resolve? second :=
    agree [.register (table first), .register (table second)]
  have same : found = otherFound :=
    Option.some.inj (resolved.symm.trans (answers.trans otherResolved))
  rw [← same] at otherGoesBy
  exact ⟨goesBy.1.symm.trans otherGoesBy.1, goesBy.2.symm.trans otherGoesBy.2⟩

theorem lookup?_eq_of_alike (registry : Registry) {text other : String}
    (sameSchema : (ofText text).schema = (ofText other).schema)
    (sameName : (ofText text).name = (ofText other).name) :
    registry.lookup? text = registry.lookup? other := by
  rw [lookup?, lookup?, resolve?_eq, resolve?_eq, sameSchema, sameName]

/-- Two texts are looked up alike, in every state that can be reached, exactly when they are
read as the same name and as the same schema, be it the default one. -/
theorem lookups_agree_iff (text other : String) :
    (∀ steps : List Step, ((fresh.run steps).1.step (.lookup text)).2 =
      ((fresh.run steps).1.step (.lookup other)).2) ↔
        (ofText text).schema = (ofText other).schema ∧
          (ofText text).name = (ofText other).name := by
  constructor
  · intro agree
    have same := sameFold_of_resolve?_eq fun steps => Answer.table.inj (agree steps)
    have left := fold_ofText text
    have right := fold_ofText other
    exact ⟨String.toList_inj.mp (left.1.symm.trans (same.1.trans right.1)),
      String.toList_inj.mp (left.2.symm.trans (same.2.trans right.2))⟩
  · rintro ⟨sameSchema, sameName⟩ steps
    exact congrArg Answer.table
      ((fresh.run steps).1.ensureDefaults.lookup?_eq_of_alike sameSchema sameName)

end Registry

end RoleCatalog

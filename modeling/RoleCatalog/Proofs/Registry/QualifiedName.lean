import RoleCatalog.Proofs.Registry.Lookup
import RoleCatalog.Proofs.Registry.Shadowing
import RoleCatalog.Proofs.Text.CaseAgreement

/-! # Qualified names

A lookup brings a schema and a name with a full stop between them into lower case,
letters of all alphabets, and then searches without regard to the case of ASCII letters
only. So it finds what a search for the two finds as long as lower case changes nothing
but ASCII letters in them. For any other two names some registry has a table that the
search finds and the lookup misses.
-/

namespace RoleCatalog

namespace Identifier

/-- A name in any alphabet that is one part of an identifier. -/
structure WholeName (name : List Char) : Prop where
  isWord : Text.IsWord name
  semicolon_not_mem : ';' ∉ name
  unquoted : ∀ character ∈ name, isQuote character = false
  undivided : ∀ character ∈ name, isSeparator character = false

instance (name : List Char) : Decidable (WholeName name) :=
  letI := List.decidableBAll (isQuote · = false) name
  letI := List.decidableBAll (isSeparator · = false) name
  decidable_of_iff
    (Text.IsWord name ∧ ';' ∉ name ∧ (∀ character ∈ name, isQuote character = false) ∧
      ∀ character ∈ name, isSeparator character = false)
    ⟨fun ⟨isWord, semicolon, unquoted, undivided⟩ => ⟨isWord, semicolon, unquoted, undivided⟩,
      fun whole => ⟨whole.isWord, whole.semicolon_not_mem, whole.unquoted, whole.undivided⟩⟩

theorem WholeName.separator_not_mem {name : List Char} (whole : WholeName name)
    {separator : Char} (isSeparator : isSeparator separator = true) : separator ∉ name := by
  intro member
  rw [whole.undivided separator member] at isSeparator
  cases isSeparator

theorem replace_of_not_mem {old : Char} {word : List Char} (absent : old ∉ word) (new : Char) :
    replace old new word = word := by
  refine (List.map_congr_left ?_).trans (List.map_id word)
  intro character member
  exact if_neg fun equal : character = old => absent (equal ▸ member)

/-- Lower case of the schema before a full stop and the name. -/
def lowerSchema (schema name : String) : String :=
  String.ofList (Text.lowerWithin [] ('.' :: name.toList) schema.toList)

/-- Lower case of the name after the schema and a full stop. -/
def lowerName (schema name : String) : String :=
  String.ofList (Text.lowerWithin ('.' :: schema.toList.reverse) [] name.toList)

theorem lower_qualified (schema name : String) :
    Text.lower (schema ++ "." ++ name).toList =
      (lowerSchema schema name ++ "." ++ lowerName schema name).toList := by
  have text : (schema ++ "." ++ name).toList = schema.toList ++ '.' :: name.toList := by simp
  have stop : Text.lowerCharacter (schema.toList.reverse ++ []) '.' name.toList = ['.'] :=
    Text.lowerCharacter_eq_of_foldsAlike (by decide) _ _
  rw [text, Text.lower, Text.lowerFrom_append, Text.lowerFrom, stop, List.append_nil,
    Text.lowerFrom_eq_lowerWithin]
  simp [lowerSchema, lowerName]

section Qualified

variable {schema name : String}

theorem isWord_qualified (wholeSchema : WholeName schema.toList)
    (wholeName : WholeName name.toList) : Text.IsWord (schema ++ "." ++ name).toList := by
  rw [String.toList_append, String.toList_append]
  have stop : Text.Unbroken ".".toList := by decide
  exact (wholeSchema.isWord.append_left stop).append_left wholeName.isWord.unbroken

theorem dropQuotes_qualified (wholeSchema : WholeName schema.toList)
    (wholeName : WholeName name.toList) :
    dropQuotes (schema ++ "." ++ name).toList = (schema ++ "." ++ name).toList := by
  refine List.filter_eq_self.mpr fun character member => ?_
  rw [Bool.not_eq_true']
  simp only [String.toList_append, List.mem_append] at member
  rcases member with (inSchema | isStop) | inName
  · exact wholeSchema.unquoted character inSchema
  · rw [List.mem_singleton.mp isStop]
    rfl
  · exact wholeName.unquoted character inName

theorem separator_not_mem_lowerSchema (wholeSchema : WholeName schema.toList) {separator : Char}
    (known : separator = '.' ∨ separator = '/') :
    separator ∉ (lowerSchema schema name).toList := by
  have isSeparator : isSeparator separator = true := by rcases known with rfl | rfl <;> rfl
  rw [lowerSchema, String.toList_ofList]
  exact Text.not_mem_lowerWithin known (wholeSchema.separator_not_mem isSeparator) _ _

theorem separator_not_mem_lowerName (wholeName : WholeName name.toList) {separator : Char}
    (known : separator = '.' ∨ separator = '/') :
    separator ∉ (lowerName schema name).toList := by
  have isSeparator : isSeparator separator = true := by rcases known with rfl | rfl <;> rfl
  rw [lowerName, String.toList_ofList]
  exact Text.not_mem_lowerWithin known (wholeName.separator_not_mem isSeparator) _ _

theorem normalize_qualified (wholeSchema : WholeName schema.toList)
    (wholeName : WholeName name.toList) :
    normalize (schema ++ "." ++ name).toList =
      (lowerSchema schema name ++ "." ++ lowerName schema name).toList := by
  have semicolon : ';' ∉ (schema ++ "." ++ name).toList := by
    simp [wholeSchema.semicolon_not_mem, wholeName.semicolon_not_mem]
  have backslash : '\\' ∉ (schema ++ "." ++ name).toList := by
    simp [wholeSchema.separator_not_mem, wholeName.separator_not_mem, isSeparator]
  have slash : '/' ∉ (lowerSchema schema name ++ "." ++ lowerName schema name).toList := by
    simp [separator_not_mem_lowerSchema wholeSchema, separator_not_mem_lowerName wholeName]
  rw [normalize_of_isWord (isWord_qualified wholeSchema wholeName) semicolon, canonical,
    dropQuotes_qualified wholeSchema wholeName, replace_of_not_mem backslash, lower_qualified,
    replace_of_not_mem slash]

theorem ofText_qualified (wholeSchema : WholeName schema.toList)
    (wholeName : WholeName name.toList) :
    ofText (schema ++ "." ++ name) =
      ⟨some (lowerSchema schema name), lowerName schema name⟩ := by
  have nonempty : (lowerSchema schema name).toList ≠ [] ∧ (lowerName schema name).toList ≠ [] := by
    rw [lowerSchema, lowerName, String.toList_ofList, String.toList_ofList]
    exact ⟨Text.lowerWithin_ne_nil wholeSchema.isWord.nonempty _ _,
      Text.lowerWithin_ne_nil wholeName.isWord.nonempty _ _⟩
  have apart : (lowerSchema schema name ++ "." ++ lowerName schema name).toList =
      (lowerSchema schema name).toList ++ '.' :: (lowerName schema name).toList := by simp
  rw [ofText, parts_eq, normalize_qualified wholeSchema wholeName, apart, pieces_append_dot,
    pieces_of_solid nonempty.1 (separator_not_mem_lowerSchema wholeSchema (.inl rfl)),
    pieces_of_solid nonempty.2 (separator_not_mem_lowerName wholeName (.inl rfl))]
  simp [ofReversedParts]

end Qualified

/-! ## Lower case that the fold undoes -/

theorem sameFold_lowerSchema_iff (schema name : String) :
    Text.SameFold schema (lowerSchema schema name) ↔
      ∀ character ∈ schema.toList, Text.FoldsAlike character := by
  rw [Text.SameFold, Text.fold, Text.fold, lowerSchema, String.toList_ofList,
    Text.map_toLower_lowerWithin, eq_comm, Text.lowerWithin_eq_map_toLower_iff]

theorem sameFold_lowerName_iff (schema name : String) :
    Text.SameFold name (lowerName schema name) ↔
      ∀ character ∈ name.toList, Text.FoldsAlike character := by
  rw [Text.SameFold, Text.fold, Text.fold, lowerName, String.toList_ofList,
    Text.map_toLower_lowerWithin, eq_comm, Text.lowerWithin_eq_map_toLower_iff]

end Identifier

namespace Registry

open Identifier

theorem lookup?_qualified (registry : Registry) {schema name : String}
    (wholeSchema : WholeName schema.toList) (wholeName : WholeName name.toList) :
    registry.lookup? (schema ++ "." ++ name) =
      (registry.find? (lowerSchema schema name) (lowerName schema name)).or
        (registry.find? Table.defaultSchema (lowerName schema name)) := by
  rw [lookup?, ofText_qualified wholeSchema wholeName]
  rfl

theorem lookup?_qualified_of_foldsAlike (registry : Registry) {schema name : String}
    (wholeSchema : WholeName schema.toList) (wholeName : WholeName name.toList)
    (alike : ∀ character ∈ schema.toList ++ name.toList, Text.FoldsAlike character) :
    registry.lookup? (schema ++ "." ++ name) =
      (registry.find? schema name).or (registry.find? Table.defaultSchema name) := by
  rw [List.forall_mem_append] at alike
  have sameSchema := (sameFold_lowerSchema_iff schema name).mpr alike.1
  have sameName := (sameFold_lowerName_iff schema name).mpr alike.2
  rw [registry.lookup?_qualified wholeSchema wholeName, registry.find?_congr sameSchema sameName,
    registry.find?_congr rfl sameName]

/-! ## A registry with one table more than the defaults -/

/-- The name of a default is in ASCII, so it folds alike. -/
theorem foldsAlike_of_sameFold {name known : String} (same : Text.SameFold name known)
    (ascii : known.toList.all fun character => decide (Text.FoldsAlike character)) :
    ∀ character ∈ name.toList, Text.FoldsAlike character := by
  intro character member
  have lowered : character.toLower ∈ Text.fold known :=
    same ▸ List.mem_map.mpr ⟨character, member, rfl⟩
  rcases List.mem_map.mp lowered with ⟨letter, letterMember, equal⟩
  have alike := of_decide_eq_true (List.all_eq_true.mp ascii letter letterMember)
  rw [← Text.foldsAlike_toLower_iff] at alike ⊢
  rwa [← equal]

/-- A table that goes by the lowered name, or by it in the default schema, has a name
that folds alike. -/
theorem foldsAlike_of_lookup? {registry : Registry} {schema name : String}
    (wholeSchema : WholeName schema.toList) (wholeName : WholeName name.toList)
    {table : Table} (sameSchema : table.schema = schema) (sameName : table.name = name)
    (found : registry.lookup? (schema ++ "." ++ name) = some table) :
    ∀ character ∈ schema.toList ++ name.toList, Text.FoldsAlike character := by
  rw [List.forall_mem_append]
  rw [registry.lookup?_qualified wholeSchema wholeName, Option.or_eq_some_iff] at found
  rcases found with qualified | ⟨-, unqualified⟩
  · have goesBy := goesBy_of_find? qualified
    rw [GoesBy, sameSchema, sameName] at goesBy
    exact ⟨(sameFold_lowerSchema_iff schema name).mp goesBy.1,
      (sameFold_lowerName_iff schema name).mp goesBy.2⟩
  · have goesBy := goesBy_of_find? unqualified
    rw [GoesBy, sameSchema, sameName] at goesBy
    exact ⟨foldsAlike_of_sameFold goesBy.1 (by decide +kernel),
      (sameFold_lowerName_iff schema name).mp goesBy.2⟩

/-- The only registered table is found under its own name, unless a default has it. -/
theorem find?_after_register_fresh {table : Table}
    (different : ∀ default ∈ Table.defaults, ¬ SameKey default table) :
    ((fresh.register table).after (.find table.schema table.name)).find?
      table.schema table.name = some table := by
  refine (find?_after_register_iff fresh table).mpr ⟨fun _ member => (nomatch member), ?_⟩
  intro default member same
  exact absurd same (different default member)

theorem foldsAlike_of_sameKey_default {default : Table} (member : default ∈ Table.defaults)
    {schema name : String} (same : SameKey default (.ofColumns schema name [])) :
    ∀ character ∈ schema.toList ++ name.toList, Text.FoldsAlike character := by
  have ascii : Table.defaults.all fun default =>
      (default.schema.toList ++ default.name.toList).all fun character =>
        decide (Text.FoldsAlike character) := by decide +kernel
  have letters := List.all_eq_true.mp (List.all_eq_true.mp ascii default member)
  rw [same.1, same.2] at letters
  exact fun character inNames => of_decide_eq_true (letters character inNames)

/-! ## The law -/

/-- The lookup of a qualified name searches for its two parts in lower case, and then for
the second in the default schema. It answers with every table that a search for the two
names finds, in every state that can be reached, exactly when lower case does to each of
their characters what the fold of a search does. -/
theorem lookup_qualified_iff_foldsAlike (schema name : String)
    (wholeSchema : WholeName schema.toList) (wholeName : WholeName name.toList) :
    (∃ lowered loweredName : String, '.' ∉ lowered.toList ∧
      Text.lower (schema ++ "." ++ name).toList = (lowered ++ "." ++ loweredName).toList ∧
      ∀ registry : Registry, ∃ qualified unqualified,
        (registry.step (.find lowered loweredName)).2 = .table qualified ∧
        (registry.step (.find "pg_catalog" loweredName)).2 = .table unqualified ∧
        (registry.step (.lookup (schema ++ "." ++ name))).2 =
          .table (qualified.or unqualified)) ∧
    ((∀ (steps : List Step) (table : Table),
        ((fresh.run steps).1.step (.find schema name)).2 = .table (some table) →
        ((fresh.run steps).1.step (.lookup (schema ++ "." ++ name))).2 = .table (some table)) ↔
      ∀ character ∈ schema.toList ++ name.toList,
        Text.lower [character] = [character.toLower]) := by
  refine ⟨⟨lowerSchema schema name, lowerName schema name,
    separator_not_mem_lowerSchema wholeSchema (.inl rfl), lower_qualified schema name, ?_⟩, ?_⟩
  · intro registry
    exact ⟨_, _, rfl, rfl, congrArg Answer.table
      (registry.ensureDefaults.lookup?_qualified wholeSchema wholeName)⟩
  · constructor
    · intro law
      by_cases known : ∃ default ∈ Table.defaults, SameKey default (.ofColumns schema name [])
      · rcases known with ⟨default, member, same⟩
        exact foldsAlike_of_sameKey_default member same
      · have different : ∀ default ∈ Table.defaults,
            ¬ SameKey default (.ofColumns schema name []) :=
          fun default member same => known ⟨default, member, same⟩
        have searched := find?_after_register_fresh different
        have looked := law [.register (.ofColumns schema name [])] _
          (congrArg Answer.table searched)
        exact foldsAlike_of_lookup? wholeSchema wholeName rfl rfl (Answer.table.inj looked)
    · intro alike steps table searched
      have found := Answer.table.inj searched
      have looked := (fresh.run steps).1.ensureDefaults.lookup?_qualified_of_foldsAlike
        wholeSchema wholeName alike
      refine congrArg Answer.table (looked.trans ?_)
      change (Option.or ((fresh.run steps).1.after (.find schema name) |>.find? schema name) _) = _
      rw [found, Option.some_or]

/-- Lower case leaves the letters of other alphabets here, and the fold the ASCII ones. -/
theorem lookup_qualified_of_small_letters :
    WholeName "Lager".toList ∧ WholeName "größe".toList ∧
      ((fresh.run [.register (.ofColumns "lager" "GRöße" [])]).1.step
        (.find "Lager" "größe")).2 = .table (some (.ofColumns "lager" "GRöße" [])) ∧
      ((fresh.run [.register (.ofColumns "lager" "GRöße" [])]).1.step
        (.lookup ("Lager" ++ "." ++ "größe"))).2 =
          .table (some (.ofColumns "lager" "GRöße" [])) := by
  have wholeSchema : WholeName "Lager".toList := by decide
  have wholeName : WholeName "größe".toList := by decide
  have alike : ("Lager".toList ++ "größe".toList).all fun character =>
      decide (Text.FoldsAlike character) := by decide +kernel
  have searched : ((fresh.run [.register (.ofColumns "lager" "GRöße" [])]).1.step
      (.find "Lager" "größe")).2 = .table (some (.ofColumns "lager" "GRöße" [])) := rfl
  have law := lookup_qualified_iff_foldsAlike "Lager" "größe" wholeSchema wholeName
  have looked := law.2.mpr fun character member =>
    of_decide_eq_true (List.all_eq_true.mp alike character member)
  exact ⟨wholeSchema, wholeName, searched, looked _ _ searched⟩

/-- A letter of another alphabet in upper case is lost on the way to the search. -/
theorem not_lookup_qualified_of_find :
    ¬ ∀ (steps : List Step) (schema name : String) (table : Table),
      WholeName schema.toList → WholeName name.toList →
      ((fresh.run steps).1.step (.find schema name)).2 = .table (some table) →
      ((fresh.run steps).1.step (.lookup (schema ++ "." ++ name))).2 = .table (some table) := by
  intro law
  have looked := law [.register (.ofColumns "public" "É" [])] "public" "É"
    (.ofColumns "public" "É" []) (by decide) (by decide) rfl
  have missed : ((fresh.run [.register (.ofColumns "public" "É" [])]).1.step
      (.lookup ("public" ++ "." ++ "É"))).2 = .table none := rfl
  exact Option.some_ne_none _ (Answer.table.inj (looked.symm.trans missed))

end Registry

end RoleCatalog

import RoleCatalog.Authid
import RoleCatalog.Proofs.Header.Lines
import Mathlib.Algebra.Group.Nat.Defs

/-! # Headers read back

A rendered header reads back as the bindings it was rendered from, when no name in it
has a blank and every symbol is a word. The lines between the bindings define nothing:
the banner is a comment, the guards give no value and the other lines start with
another word. One binding may fail to read, that of the number of columns, when it
does not fit into 64 bits with a sign.
-/

namespace RoleCatalog.Header

open Text

/-- Names without a blank, and symbols that are one word. -/
structure Readable (descriptor : Descriptor) (symbols : Symbols) (roles : List Role) : Prop where
  relname : Unbroken descriptor.relname.toList
  columns : ∀ column ∈ descriptor.columns, Unbroken column.name.toList
  symbols : ∀ symbol ∈ symbols.toList, IsWord symbol.toList
  roles : ∀ role ∈ roles, IsWord role.symbol.toList

/-! ## One line -/

theorem isWord_defineWord : IsWord defineWord.toList :=
  ⟨by decide, by decide⟩

theorem definition?_of_words_eq {line symbol value : List Char} {rest : List (List Char)}
    (isWords : words line = defineWord.toList :: symbol :: value :: rest) :
    definition? line = some (symbol, value) := by
  rw [definition?, isWords]
  exact if_pos rfl

theorem definition?_of_other_word {line first : List Char} {rest : List (List Char)}
    (isWords : words line = first :: rest) (other : first ≠ defineWord.toList) :
    definition? line = none := by
  rw [definition?, isWords]
  split
  · rename_i equal
    cases equal
    exact if_neg other
  · rfl

theorem definition?_of_few_words {line : List Char} (few : (words line).length ≤ 2) :
    definition? line = none := by
  rw [definition?]
  split
  · rename_i equal
    rw [equal] at few
    simp at few
  · rfl

theorem definition?_line {binding : Binding} (word : IsWord binding.symbol.toList) :
    definition? binding.line.toList =
      some (binding.symbol.toList, (toString binding.value).toList) := by
  apply @definition?_of_words_eq _ _ _ []
  rw [toList_line, words_isWord_append isWord_defineWord rfl, words_isWord_append word rfl,
    words_of_isWord (isWord_toString binding.value)]

/-- A line that can stand among others and binds nothing. -/
structure Silent (line : List Char) : Prop where
  newline_not_mem : '\n' ∉ line
  nothing : definition? line = none

/-- The lines by which a comment goes on. -/
theorem silent_comment {rest : List Char} (newline : '\n' ∉ rest) :
    Silent (" *".toList ++ rest) where
  newline_not_mem := by simp [newline]
  nothing := by
    rcases exists_words_eq_of_nonblank (rfl : isBlank '*' = false) rest with
      ⟨word, others, isWords⟩
    apply definition?_of_other_word ((words_blank_cons rfl ('*' :: rest)).trans isWords)
    intro equal
    have heads : some '*' = some '#' := congrArg List.head? equal
    exact absurd heads (by decide)

theorem silent_of_few_words {line : List Char} (newline : '\n' ∉ line)
    (few : (words line).length ≤ 2) : Silent line :=
  ⟨newline, definition?_of_few_words few⟩

instance (line : List Char) : Decidable (Silent line) :=
  decidable_of_iff ('\n' ∉ line ∧ definition? line = none)
    ⟨fun ⟨newline, nothing⟩ => ⟨newline, nothing⟩,
      fun silent => ⟨silent.newline_not_mem, silent.nothing⟩⟩

/-- The comment goes on from line to line, also over the two that hold the name. -/
theorem starred_banner (relname : String) :
    ∀ line ∈ (banner relname).tail, line.toList.take 2 = " *".toList := by
  have fixed : ∀ line ∈ (banner "").drop 4, line.toList.take 2 = " *".toList := by
    decide +kernel
  have parts : (banner relname).tail = " *" :: (" * " ++ relname ++ "_d.h") ::
      (" *    Macro definitions for " ++ relname) :: (banner "").drop 4 := rfl
  intro line member
  simp only [parts, List.mem_cons] at member
  rcases member with rfl | rfl | rfl | note
  · rfl
  · simp
  · simp
  · exact fixed line note

theorem silent_banner {relname : String} (newline : '\n' ∉ relname.toList) :
    ∀ line ∈ banner relname, Silent line.toList := by
  intro line member
  have absent := newline_not_mem_banner newline line member
  rcases List.mem_cons.mp member with rule | noted
  · rw [rule]
    decide +kernel
  · rw [← List.take_append_drop 2 line.toList, starred_banner relname line noted]
    exact silent_comment fun dropped => absent (List.mem_of_mem_drop dropped)

/-! ## Guards -/

theorem unbroken_guard {relname : String} (unbroken : Unbroken relname.toList) :
    Unbroken (guard relname).toList := by
  rw [guard, String.toList_append, unbroken_append]
  exact ⟨unbroken_asciiUpper unbroken, by decide⟩

theorem isWord_guard {relname : String} (unbroken : Unbroken relname.toList) :
    IsWord (guard relname).toList where
  nonempty := by simp [guard]
  unbroken := unbroken_guard unbroken

/-- A guard gives no value, whether it is tested or defined. -/
theorem silent_guard {relname : String} (unbroken : Unbroken relname.toList) {keyword : String}
    (word : IsWord keyword.toList) : Silent (keyword ++ " " ++ guard relname).toList := by
  have text : (keyword ++ " " ++ guard relname).toList =
      keyword.toList ++ ' ' :: (guard relname).toList := by simp
  rw [text]
  apply silent_of_few_words
  · simp [word.unbroken.newline_not_mem, (unbroken_guard unbroken).newline_not_mem]
  · rw [words_isWord_append word rfl, words_of_isWord (isWord_guard unbroken)]
    simp

theorem silent_endif {relname : String} (unbroken : Unbroken relname.toList) :
    Silent ("#endif\t\t\t\t\t\t\t/* " ++ guard relname ++ " */").toList where
  newline_not_mem := by simp [(unbroken_guard unbroken).newline_not_mem]
  nothing := by
    have text : ("#endif\t\t\t\t\t\t\t/* " ++ guard relname ++ " */").toList =
        "#endif".toList ++ '\t' :: ("\t\t\t\t\t\t/* " ++ guard relname ++ " */").toList := by
      simp
    rw [text]
    apply definition?_of_other_word (words_isWord_append ⟨by decide, by decide⟩ rfl _)
    decide

/-! ## Many lines -/

/-- A binding that its line reads back as. -/
structure Legible (binding : Binding) : Prop where
  word : IsWord binding.symbol.toList
  fits : FitsInt64 binding.value

theorem readLines_silent {silent : List (List Char)} (nothing : ∀ line ∈ silent, Silent line)
    (number : Nat) (rest : List (List Char)) :
    readLines number (silent ++ rest) = readLines (number + silent.length) rest := by
  induction silent generalizing number with
  | nil => rfl
  | cons line later induction =>
      rw [List.forall_mem_cons] at nothing
      rw [List.cons_append, readLines, nothing.1.nothing]
      rw [induction nothing.2, List.length_cons, Nat.add_right_comm]
      rfl

theorem readLines_line {binding : Binding} (word : IsWord binding.symbol.toList)
    (number : Nat) (rest : List (List Char)) :
    readLines number (binding.line.toList :: rest) =
      if FitsInt64 binding.value then (readLines (number + 1) rest).map (binding :: ·)
      else .error ⟨number, toString binding.value, binding.symbol⟩ := by
  rw [readLines, definition?_line word]
  by_cases fits : FitsInt64 binding.value
  · simp only [readInt64_toString, if_pos fits, String.ofList_toList]
  · simp only [readInt64_toString, if_neg fits, String.ofList_toList]

theorem readLines_group {members : List Binding} (legible : ∀ member ∈ members, Legible member)
    (number : Nat) (rest : List (List Char)) :
    readLines number ((group members).map String.toList ++ rest) =
      (readLines (number + (1 + members.length)) rest).map (members ++ ·) := by
  have lines (start : Nat) :
      readLines start ((members.map Binding.line).map String.toList ++ rest) =
        (readLines (start + members.length) rest).map (members ++ ·) := by
    induction members generalizing start with
    | nil => exact (id_map _).symm
    | cons member later induction =>
        rw [List.forall_mem_cons] at legible
        rw [List.map_cons, List.map_cons, List.cons_append, readLines_line legible.1.word,
          if_pos legible.1.fits, induction legible.2, List.length_cons]
        rw [Nat.add_assoc, Nat.add_comm 1]
        cases readLines (start + (later.length + 1)) rest <;> rfl
  rw [group, List.map_cons, List.cons_append, ← Nat.add_assoc, ← lines (number + 1)]
  have blank : ∀ line ∈ [[]], Silent line := by decide
  exact readLines_silent blank number _

/-! ## The bindings of a header -/

theorem isWord_affixed {text : String} (unbroken : Unbroken text.toList) {start : String}
    (word : IsWord start.toList) : IsWord (start ++ text).toList := by
  rw [String.toList_append]
  exact word.append_left unbroken

theorem legible_objectBindings {descriptor : Descriptor} {symbols : Symbols}
    (words : ∀ symbol ∈ symbols.toList, IsWord symbol.toList) :
    ∀ member ∈ objectBindings descriptor symbols, Legible member := by
  intro member isMember
  rw [objectBindings, ← List.map_uncurry_zip_eq_zipWith] at isMember
  rcases List.mem_map.mp isMember with ⟨⟨symbol, object⟩, pair, rfl⟩
  refine ⟨words symbol (List.of_mem_zip pair).1, ?_⟩
  have bound := object.oid.toNat_lt
  change FitsInt64 (object.oid.toNat : Int)
  omega

theorem legible_columnBindings {descriptor : Descriptor}
    (relname : Unbroken descriptor.relname.toList)
    (columns : ∀ column ∈ descriptor.columns, Unbroken column.name.toList) :
    ∀ member ∈ columnBindings descriptor, Legible member := by
  intro member isMember
  rcases List.mem_map.mp isMember with ⟨column, columnMember, rfl⟩
  constructor
  · apply isWord_affixed (columns column columnMember)
    have stem : IsWord ("Anum_" ++ descriptor.relname).toList :=
      isWord_affixed relname ⟨by decide, by decide⟩
    have underscore : Unbroken "_".toList := by decide
    exact isWord_affixed underscore stem
  · have lower := Int16.le_toInt column.attnum
    have upper := Int16.toInt_lt column.attnum
    change FitsInt64 column.attnum.toInt
    omega

theorem isWord_nattsBinding {descriptor : Descriptor}
    (relname : Unbroken descriptor.relname.toList) :
    IsWord (nattsBinding descriptor).symbol.toList :=
  isWord_affixed relname ⟨by decide, by decide⟩

theorem legible_roleBindings {roles : List Role}
    (words : ∀ role ∈ roles, IsWord role.symbol.toList) :
    ∀ member ∈ roleBindings roles, Legible member := by
  intro member isMember
  rcases List.mem_map.mp isMember with ⟨role, roleMember, rfl⟩
  refine ⟨words role roleMember, ?_⟩
  have bound := role.oid.toNat_lt
  change FitsInt64 (role.oid.toNat : Int)
  omega

/-! ## The lines of a header -/

theorem silent_opening {relname : String} (unbroken : Unbroken relname.toList) :
    ∀ line ∈ opening relname, Silent line.toList := by
  intro line member
  rcases List.mem_append.mp member with isBanner | isGuard
  · exact silent_banner unbroken.newline_not_mem line isBanner
  · rcases List.mem_cons.mp isGuard with rfl | isGuard
    · have keyword : IsWord "#ifndef".toList := ⟨by decide, by decide⟩
      have split : "#ifndef " = "#ifndef" ++ " " := rfl
      rw [split]
      exact silent_guard unbroken keyword
    · rw [List.mem_singleton.mp isGuard]
      exact silent_guard unbroken isWord_defineWord

theorem silent_closing {relname : String} (unbroken : Unbroken relname.toList) :
    ∀ line ∈ closing relname, Silent line.toList := by
  intro line member
  rcases List.mem_cons.mp member with rfl | isEnd
  · decide
  · rw [List.mem_singleton.mp isEnd]
    exact silent_endif unbroken

theorem Readable.oneLine {descriptor : Descriptor} {symbols : Symbols} {roles : List Role}
    (readable : Readable descriptor symbols roles) : OneLine descriptor symbols roles where
  relname := readable.relname.newline_not_mem
  columns column member := (readable.columns column member).newline_not_mem
  symbols symbol member := (readable.symbols symbol member).unbroken.newline_not_mem
  roles role member := (readable.roles role member).unbroken.newline_not_mem

theorem lines_headerLines {descriptor : Descriptor} {symbols : Symbols} {roles : List Role}
    (readable : Readable descriptor symbols roles) :
    lines ("\n".intercalate (headerLines descriptor symbols roles)).toList =
      (headerLines descriptor symbols roles).map String.toList :=
  readable.oneLine.lines_headerLines

/-! ## Reading -/

theorem map_silent {texts : List String} (silent : ∀ text ∈ texts, Silent text.toList) :
    ∀ line ∈ texts.map String.toList, Silent line :=
  List.forall_mem_map.mpr silent

theorem readLines_optionalGroup {members : List Binding}
    (legible : ∀ member ∈ members, Legible member) (number : Nat) {rest : List (List Char)}
    (silent : ∀ line ∈ rest, Silent line) :
    readLines number ((optionalGroup members).map String.toList ++ rest) = .ok members := by
  have nothing (start : Nat) : readLines start rest = .ok [] := by
    have read := readLines_silent silent start []
    rw [List.append_nil] at read
    exact read
  rcases optionalGroup_eq members with ⟨empty, rfl⟩ | full
  · rw [empty]
    exact nothing number
  · rw [full, readLines_group legible, nothing]
    simp [Except.map]

/-- Reading a header gives its bindings if the number of columns fits. Otherwise reading
stops at the line for it. -/
theorem parse_headerLines {descriptor : Descriptor} {symbols : Symbols} {roles : List Role}
    (readable : Readable descriptor symbols roles) :
    parse ("\n".intercalate (headerLines descriptor symbols roles)) =
      if FitsInt64 (nattsBinding descriptor).value then .ok (bindings descriptor symbols roles)
      else .error ⟨23 + (objectBindings descriptor symbols).length + descriptor.columns.length,
        toString (nattsBinding descriptor).value, (nattsBinding descriptor).symbol⟩ := by
  rw [parse, lines_headerLines readable, headerLines_eq]
  simp only [List.map_append]
  rw [readLines_silent (map_silent (silent_opening readable.relname)), List.length_map,
    length_opening, readLines_group (legible_objectBindings readable.symbols),
    readLines_group (legible_columnBindings readable.relname readable.columns),
    group, List.map_singleton, List.map_cons, List.map_singleton, List.cons_append]
  rw [← List.singleton_append, readLines_silent (by decide), List.singleton_append,
    readLines_line (isWord_nattsBinding readable.relname),
    readLines_optionalGroup (legible_roleBindings readable.roles) _
      (map_silent (silent_closing readable.relname))]
  split
  · simp [Except.map, bindings]
  · simp [Except.map, columnBindings]
    omega

/-! ## The round trip -/

theorem length_objectBindings {descriptor : Descriptor} {symbols : Symbols}
    (parallel : symbols.indexes.length = descriptor.indexes.length) :
    (objectBindings descriptor symbols).length = 4 + descriptor.indexes.length := by
  simp [objectBindings_eq, parallel]
  omega

theorem getElem?_headerLines {descriptor : Descriptor} {symbols : Symbols} (roles : List Role)
    (parallel : symbols.indexes.length = descriptor.indexes.length) :
    (headerLines descriptor symbols roles)[
        26 + descriptor.indexes.length + descriptor.columns.length]? =
      some (nattsBinding descriptor).line := by
  have parts : headerLines descriptor symbols roles =
      (opening descriptor.relname ++ (group (objectBindings descriptor symbols) ++
        (group (columnBindings descriptor) ++ [""]))) ++ (nattsBinding descriptor).line ::
        (optionalGroup (roleBindings roles) ++ closing descriptor.relname) := by
    simp [headerLines_eq, group]
  have position : (opening descriptor.relname ++ (group (objectBindings descriptor symbols) ++
      (group (columnBindings descriptor) ++ [""]))).length =
      26 + descriptor.indexes.length + descriptor.columns.length := by
    simp [length_opening, group, length_objectBindings parallel, columnBindings]
    omega
  rw [parts, ← position]
  simp

/-- A header of readable names gives back the objects of the relation, the columns, their
number and the roles, in this order and without anything else, unless the number of
columns is too large: then reading reports the line that holds it. Without one symbol
for each index there is no header. -/
theorem parse_render (descriptor : Descriptor) (symbols : Symbols) (roles : List Role) :
    (symbols.indexes.length = descriptor.indexes.length → Readable descriptor symbols roles →
      ∃ text, render descriptor symbols roles = .ok text ∧
        (descriptor.natts.toNat < 2 ^ 63 → parse text = .ok (
          [⟨symbols.relation, descriptor.relationId.toNat⟩,
           ⟨symbols.rowtype, descriptor.rowtypeId.toNat⟩,
           ⟨symbols.toastTable, descriptor.toastTable.toNat⟩,
           ⟨symbols.toastIndex, descriptor.toastIndex.toNat⟩] ++
          symbols.indexes.zipWith (fun symbol index => ⟨symbol, index.oid.toNat⟩)
            descriptor.indexes ++
          descriptor.columns.map (fun column =>
            ⟨"Anum_" ++ descriptor.relname ++ "_" ++ column.name, column.attnum.toInt⟩) ++
          [⟨"Natts_" ++ descriptor.relname, descriptor.natts.toNat⟩] ++
          roles.map (fun role => ⟨role.symbol, role.oid.toNat⟩))) ∧
        (2 ^ 63 ≤ descriptor.natts.toNat →
          parse text = .error
            ⟨27 + descriptor.indexes.length + descriptor.columns.length,
              toString descriptor.natts.toNat, "Natts_" ++ descriptor.relname⟩ ∧
          (parse text).mapError BadDefine.report = .error ⟨.userInput, "bad_define",
            "line " ++ toString (27 + descriptor.indexes.length + descriptor.columns.length) ++
              ": value '" ++ toString descriptor.natts.toNat ++ "' of " ++
              ("Natts_" ++ descriptor.relname) ++ " is not an integer"⟩ ∧
          (lines text.toList)[26 + descriptor.indexes.length + descriptor.columns.length]? =
            some ("#define " ++ ("Natts_" ++ descriptor.relname) ++ " " ++
              toString descriptor.natts.toNat).toList)) ∧
    (symbols.indexes.length ≠ descriptor.indexes.length →
      (render descriptor symbols roles).mapError SymbolMismatch.report =
        .error ⟨.internal, "header_names_mismatch",
          descriptor.relname ++ ": " ++ toString symbols.indexes.length ++
            " index macro names for " ++ toString descriptor.indexes.length ++ " indexes"⟩) := by
  constructor
  · intro parallel readable
    refine ⟨_, render_eq_ok_iff.mpr ⟨parallel, rfl⟩, ?_, ?_⟩
    · intro small
      have fits : FitsInt64 (nattsBinding descriptor).value := by
        change FitsInt64 (descriptor.natts.toNat : Int)
        omega
      rw [parse_headerLines readable, if_pos fits, bindings, objectBindings_eq]
      simp [columnBindings, nattsBinding, roleBindings]
    · intro large
      have unfit : ¬ FitsInt64 (nattsBinding descriptor).value := by
        change ¬ FitsInt64 (descriptor.natts.toNat : Int)
        omega
      have failed : parse ("\n".intercalate (headerLines descriptor symbols roles)) = .error
          ⟨27 + descriptor.indexes.length + descriptor.columns.length,
            toString descriptor.natts.toNat, "Natts_" ++ descriptor.relname⟩ := by
        rw [parse_headerLines readable, if_neg unfit, length_objectBindings parallel,
          ← Nat.add_assoc 23 4]
        rfl
      refine ⟨failed, ?_, ?_⟩
      · rw [failed]
        rfl
      · rw [lines_headerLines readable, List.getElem?_map, getElem?_headerLines roles parallel]
        rfl
  · intro mismatch
    rw [render, if_neg mismatch]
    rfl

theorem readable_authid : Readable Authid.descriptor Authid.symbols Role.wellKnown where
  relname := by decide
  columns := by decide
  symbols := by decide
  roles := by decide +kernel

theorem authid_parse_render :
    (∃ text, Authid.header = .ok text ∧
      ∃ rest, parse text = .ok (⟨"AuthIdRelationId", 1260⟩ :: rest)) ∧
    (∃ text, render { Authid.descriptor with natts := 9223372036854775808 } Authid.symbols [] =
        .ok text ∧
      parse text = .error ⟨41, toString 9223372036854775808, "Natts_pg_authid"⟩ ∧
      (parse text).mapError BadDefine.report = .error ⟨.userInput, "bad_define",
        "line 41: value '9223372036854775808' of Natts_pg_authid is not an integer"⟩) ∧
    (render Authid.descriptor { Authid.symbols with indexes := [] } []).mapError
        SymbolMismatch.report =
      .error ⟨.internal, "header_names_mismatch",
        "pg_authid: 0 index macro names for 2 indexes"⟩ := by
  refine ⟨?_, ?_, ?_⟩
  · rcases (parse_render Authid.descriptor Authid.symbols Role.wellKnown).1 rfl
      readable_authid with ⟨text, rendered, small, -⟩
    exact ⟨text, rendered, _, small (by decide)⟩
  · have readable : Readable { Authid.descriptor with natts := 9223372036854775808 }
        Authid.symbols [] :=
      ⟨readable_authid.relname, readable_authid.columns, readable_authid.symbols, by decide⟩
    rcases (parse_render _ _ _).1 rfl readable with ⟨text, rendered, -, large⟩
    rcases large (by decide) with ⟨failed, reported, -⟩
    exact ⟨text, rendered, failed, reported⟩
  · exact (parse_render _ _ _).2 (by decide)

end RoleCatalog.Header

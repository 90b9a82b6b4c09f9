import RoleCatalog.Authid
import RoleCatalog.Proofs.Header.Lines

/-! # What a header says

The text of a header depends on its content alone: the name of the relation, the symbols
with their numbers and the number of columns. The content can be recovered from the
lines, since empty lines end the groups and the last space of a line comes before the
number, and so from the text when no name in it has a line feed.
-/

namespace RoleCatalog.Header

/-- The objects of the relation and the roles come with their identifiers, and the
columns with their attribute numbers. -/
structure Content where
  relname : String
  objects : List (String × Oid)
  columns : List (String × AttrNumber)
  natts : UInt64
  roles : List (String × Oid)
deriving Repr, DecidableEq

def content (descriptor : Descriptor) (symbols : Symbols) (roles : List Role) : Content where
  relname := descriptor.relname
  objects :=
    [(symbols.relation, descriptor.relationId), (symbols.rowtype, descriptor.rowtypeId),
     (symbols.toastTable, descriptor.toastTable), (symbols.toastIndex, descriptor.toastIndex)] ++
      symbols.indexes.zip (descriptor.indexes.map IndexDef.oid)
  columns := descriptor.columns.map fun column => (column.name, column.attnum)
  natts := descriptor.natts
  roles := roles.map fun role => (role.symbol, role.oid)

/-! ## Texts with a separator -/

section Separator

variable {α : Type} {separator : α} {left otherLeft right otherRight : List α}

theorem append_cons_inj_of_not_mem_left (absent : separator ∉ left)
    (otherAbsent : separator ∉ otherLeft)
    (equal : left ++ separator :: right = otherLeft ++ separator :: otherRight) :
    left = otherLeft ∧ right = otherRight := by
  induction left generalizing otherLeft with
  | nil =>
      cases otherLeft with
      | nil => exact ⟨rfl, List.tail_eq_of_cons_eq equal⟩
      | cons head rest =>
          exact absurd (List.head_eq_of_cons_eq equal ▸ List.mem_cons_self) otherAbsent
  | cons head rest induction =>
      cases otherLeft with
      | nil => exact absurd (List.head_eq_of_cons_eq equal ▸ List.mem_cons_self) absent
      | cons otherHead otherRest =>
          rw [List.mem_cons, not_or] at absent otherAbsent
          rcases induction absent.2 otherAbsent.2 (List.tail_eq_of_cons_eq equal) with
            ⟨rests, rights⟩
          exact ⟨List.head_eq_of_cons_eq equal ▸ rests ▸ rfl, rights⟩

theorem append_cons_inj_of_not_mem_right (absent : separator ∉ right)
    (otherAbsent : separator ∉ otherRight)
    (equal : left ++ separator :: right = otherLeft ++ separator :: otherRight) :
    left = otherLeft ∧ right = otherRight := by
  have reversed := congrArg List.reverse equal
  simp only [List.reverse_append, List.reverse_cons, List.append_assoc,
    List.singleton_append] at reversed
  rw [← List.mem_reverse] at absent otherAbsent
  rcases append_cons_inj_of_not_mem_left absent otherAbsent reversed with ⟨rights, lefts⟩
  exact ⟨List.reverse_inj.mp lefts, List.reverse_inj.mp rights⟩

end Separator

/-! ## One line -/

theorem blank_not_mem_toString (value : Int) : ' ' ∉ (toString value).toList := fun member =>
  absurd ((Text.isWord_toString value).unbroken ' ' member) (by decide)

/-- A symbol may hold spaces, and a number does not. -/
theorem line_injective {binding other : Binding} (equal : binding.line = other.line) :
    binding = other := by
  have texts := congrArg String.toList equal
  rw [toList_line, toList_line] at texts
  have after := List.tail_eq_of_cons_eq (List.append_cancel_left texts)
  rcases append_cons_inj_of_not_mem_right (blank_not_mem_toString binding.value)
    (blank_not_mem_toString other.value) after with ⟨symbols, values⟩
  cases binding with
  | mk symbol value =>
      cases other with
      | mk otherSymbol otherValue =>
          rw [Binding.mk.injEq]
          exact ⟨String.toList_inj.mp symbols,
            Text.toString_int_injective (String.toList_inj.mp values)⟩

theorem line_ne_empty (binding : Binding) : binding.line ≠ "" := by
  intro empty
  have text := congrArg String.toList empty
  rw [toList_line] at text
  have heads : some '#' = none := congrArg List.head? text
  exact absurd heads (by decide)

theorem empty_not_mem_map_line (members : List Binding) : "" ∉ members.map Binding.line := by
  intro member
  rcases List.mem_map.mp member with ⟨binding, -, empty⟩
  exact line_ne_empty binding empty

theorem map_line_injective {members others : List Binding}
    (equal : members.map Binding.line = others.map Binding.line) : members = others :=
  (List.map_inj_right fun _ _ => line_injective).mp equal

/-! ## Groups of lines -/

/-- The next group starts with an empty line, so the first one ends there. -/
theorem group_append_group_inj {members others : List Binding} {rest otherRest : List String}
    (equal : group members ++ "" :: rest = group others ++ "" :: otherRest) :
    members = others ∧ rest = otherRest := by
  rcases append_cons_inj_of_not_mem_left (empty_not_mem_map_line members)
    (empty_not_mem_map_line others) (List.tail_eq_of_cons_eq equal) with ⟨lines, rests⟩
  exact ⟨map_line_injective lines, rests⟩

theorem optionalGroup_injective {members others : List Binding}
    (equal : optionalGroup members = optionalGroup others) : members = others := by
  cases members with
  | nil =>
      cases others with
      | nil => rfl
      | cons other rest => exact absurd equal.symm (List.cons_ne_nil _ _)
  | cons member rest =>
      cases others with
      | nil => exact absurd equal (List.cons_ne_nil _ _)
      | cons other otherRest => exact map_line_injective (List.tail_eq_of_cons_eq equal)

theorem opening_injective {relname other : String} (equal : opening relname = opening other) :
    relname = other := by
  have title : " * " ++ relname ++ "_d.h" = " * " ++ other ++ "_d.h" :=
    Option.some.inj (congrArg (fun lines : List String => lines[2]?) equal)
  exact (String.append_right_inj " * ").mp ((String.append_left_inj "_d.h").mp title)

/-! ## The content -/

namespace Content

def objectBinding (object : String × Oid) : Binding :=
  ⟨object.1, object.2.toNat⟩

def columnBinding (relname : String) (column : String × AttrNumber) : Binding :=
  ⟨"Anum_" ++ relname ++ "_" ++ column.1, column.2.toInt⟩

theorem objectBinding_injective {object other : String × Oid}
    (equal : objectBinding object = objectBinding other) : object = other := by
  have values := Int.ofNat_inj.mp (congrArg Binding.value equal)
  exact Prod.ext (congrArg Binding.symbol equal) (UInt32.toNat_inj.mp values)

theorem columnBinding_injective {relname : String} {column other : String × AttrNumber}
    (equal : columnBinding relname column = columnBinding relname other) : column = other :=
  Prod.ext ((String.append_right_inj _).mp (congrArg Binding.symbol equal))
    (Int16.toInt_inj.mp (congrArg Binding.value equal))

def nattsBinding (content : Content) : Binding :=
  ⟨"Natts_" ++ content.relname, content.natts.toNat⟩

/-- The lines of a header, from its content alone. -/
def lines (content : Content) : List String :=
  opening content.relname ++ (group (content.objects.map objectBinding) ++
    (group (content.columns.map (columnBinding content.relname)) ++
      (group [content.nattsBinding] ++
        (optionalGroup (content.roles.map objectBinding) ++ closing content.relname))))

theorem lines_injective {content other : Content} (equal : content.lines = other.lines) :
    content = other := by
  rcases List.append_inj equal (length_opening _) with ⟨openings, afterOpening⟩
  have relnames := opening_injective openings
  rcases group_append_group_inj afterOpening with ⟨objects, afterObjects⟩
  rcases group_append_group_inj (congrArg ("" :: ·) afterObjects) with ⟨columns, afterColumns⟩
  have natts := line_injective (List.head_eq_of_cons_eq afterColumns)
  have afterNatts := List.tail_eq_of_cons_eq afterColumns
  -- Both texts close alike, so the line before the end shows whether there are roles.
  rw [relnames] at columns afterNatts
  have roles := optionalGroup_injective (List.append_cancel_right afterNatts)
  have counts := Int.ofNat_inj.mp (congrArg Binding.value natts)
  cases content with
  | mk relname objectPairs columnPairs count rolePairs =>
      cases other with
      | mk otherRelname otherObjects otherColumns otherCount otherRoles =>
          rw [Content.mk.injEq]
          exact ⟨relnames, (List.map_inj_right fun _ _ => objectBinding_injective).mp objects,
            (List.map_inj_right fun _ _ => columnBinding_injective).mp columns,
            UInt64.toNat_inj.mp counts,
            (List.map_inj_right fun _ _ => objectBinding_injective).mp roles⟩

end Content

theorem lines_content (descriptor : Descriptor) (symbols : Symbols) (roles : List Role) :
    (content descriptor symbols roles).lines = headerLines descriptor symbols roles := by
  have objects : (content descriptor symbols roles).objects.map Content.objectBinding =
      objectBindings descriptor symbols := by
    rw [objectBindings_eq, content, List.map_append, List.zip, List.map_zipWith,
      List.zipWith_map_right]
    rfl
  have columns : (content descriptor symbols roles).columns.map
      (Content.columnBinding descriptor.relname) = columnBindings descriptor :=
    List.map_map
  have members : (content descriptor symbols roles).roles.map Content.objectBinding =
      roleBindings roles :=
    List.map_map
  rw [headerLines_eq, ← objects, ← columns, ← members]
  rfl

/-! ## The text -/

theorem intercalate_injective {texts others : List String} (nonempty : texts ≠ [])
    (otherNonempty : others ≠ []) (newline : ∀ text ∈ texts, '\n' ∉ text.toList)
    (otherNewline : ∀ text ∈ others, '\n' ∉ text.toList)
    (equal : "\n".intercalate texts = "\n".intercalate others) : texts = others := by
  have read := lines_intercalate nonempty newline
  rw [equal, lines_intercalate otherNonempty otherNewline] at read
  exact ((List.map_inj_right fun _ _ => String.toList_injective).mp read).symm

section Pair

variable {descriptor other : Descriptor} {symbols otherSymbols : Symbols}
  {roles otherRoles : List Role} {text otherText : String}
  (rendered : render descriptor symbols roles = .ok text)
  (otherRendered : render other otherSymbols otherRoles = .ok otherText)

include rendered otherRendered

theorem text_eq_of_content_eq
    (equal : content descriptor symbols roles = content other otherSymbols otherRoles) :
    text = otherText := by
  rw [← (render_eq_ok_iff.mp rendered).2, ← (render_eq_ok_iff.mp otherRendered).2,
    ← lines_content, ← lines_content, equal]

theorem content_eq_of_text_eq (oneLine : OneLine descriptor symbols roles)
    (otherOneLine : OneLine other otherSymbols otherRoles) (equal : text = otherText) :
    content descriptor symbols roles = content other otherSymbols otherRoles := by
  rw [← (render_eq_ok_iff.mp rendered).2, ← (render_eq_ok_iff.mp otherRendered).2] at equal
  apply Content.lines_injective
  rw [lines_content, lines_content]
  exact intercalate_injective (headerLines_ne_nil _ _ _) (headerLines_ne_nil _ _ _)
    oneLine.newline_not_mem_headerLines otherOneLine.newline_not_mem_headerLines equal

end Pair

/-! ## What a header leaves out -/

/-- The descriptor with blanks for all that a header does not show. -/
def shownDescriptor (descriptor : Descriptor) : Descriptor :=
  { descriptor with
    schema := ""
    shared := false
    indexes := descriptor.indexes.map fun index => ⟨index.oid, "", [], false⟩
    columns := descriptor.columns.map fun column => ⟨column.name, .text, column.attnum, false⟩ }

def shownRole (role : Role) : Role :=
  ⟨role.oid, role.symbol, "", ""⟩

theorem content_shown (descriptor : Descriptor) (symbols : Symbols) (roles : List Role) :
    content (shownDescriptor descriptor) symbols (roles.map shownRole) =
      content descriptor symbols roles := by
  simp [content, shownDescriptor, shownRole, Function.comp_def]

theorem render_shown {descriptor : Descriptor} {symbols : Symbols} {roles : List Role}
    {text : String} (rendered : render descriptor symbols roles = .ok text) :
    render (shownDescriptor descriptor) symbols (roles.map shownRole) = .ok text := by
  rw [render_eq_ok_iff, ← lines_content] at rendered ⊢
  rw [content_shown]
  exact ⟨rendered.1.trans (List.length_map _).symm, rendered.2⟩

/-- Two headers of one content have the same text, which what a header leaves out does not
change. The content is all that can make two texts differ, and it does so whenever the
names and symbols stay on their lines. -/
theorem text_eq_iff_content_eq (descriptor other : Descriptor) (symbols otherSymbols : Symbols)
    (roles otherRoles : List Role) (text otherText : String)
    (rendered : render descriptor symbols roles = .ok text)
    (otherRendered : render other otherSymbols otherRoles = .ok otherText) :
    (content descriptor symbols roles = content other otherSymbols otherRoles →
      text = otherText) ∧
    render (shownDescriptor descriptor) symbols (roles.map shownRole) = .ok text ∧
    (OneLine descriptor symbols roles → OneLine other otherSymbols otherRoles →
      (text = otherText ↔
        content descriptor symbols roles = content other otherSymbols otherRoles)) := by
  have sameText := text_eq_of_content_eq rendered otherRendered
  refine ⟨sameText, render_shown rendered, ?_⟩
  intro oneLine otherOneLine
  exact ⟨content_eq_of_text_eq rendered otherRendered oneLine otherOneLine, sameText⟩

/-- One more column changes the text. Other types and descriptions do not. -/
theorem authid_text_eq_iff_content_eq :
    ∃ text sameText otherText,
      render Authid.descriptor Authid.symbols Role.wellKnown = .ok text ∧
      render (shownDescriptor Authid.descriptor) Authid.symbols (Role.wellKnown.map shownRole) =
        .ok sameText ∧
      render { Authid.descriptor with natts := 13 } Authid.symbols Role.wellKnown =
        .ok otherText ∧
      text = sameText ∧ text ≠ otherText := by
  refine ⟨_, _, _, rfl, rfl, rfl, ?_, ?_⟩
  · apply (text_eq_iff_content_eq Authid.descriptor (shownDescriptor Authid.descriptor)
      Authid.symbols Authid.symbols Role.wellKnown (Role.wellKnown.map shownRole)
      _ _ rfl rfl).1
    decide
  · intro equal
    have law := (text_eq_iff_content_eq Authid.descriptor { Authid.descriptor with natts := 13 }
      Authid.symbols Authid.symbols Role.wellKnown Role.wellKnown _ _ rfl rfl).2.2
        (by decide +kernel) (by decide +kernel)
    exact absurd (congrArg Content.natts (law.mp equal)) (by decide)

end RoleCatalog.Header

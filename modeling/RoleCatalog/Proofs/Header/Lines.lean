import RoleCatalog.Header.Render
import RoleCatalog.Proofs.Text.Numeral

/-! # The lines of a header

A rendered header consists of the lines it was put together from when no name or symbol
in it has a line feed. An opening of fixed length comes first, then a group for each
kind of binding, the one of the roles only if there are any.
-/

namespace RoleCatalog.Header

open Text

/-- Names and symbols that do not end a line. -/
structure OneLine (descriptor : Descriptor) (symbols : Symbols) (roles : List Role) : Prop where
  relname : '\n' ∉ descriptor.relname.toList
  columns : ∀ column ∈ descriptor.columns, '\n' ∉ column.name.toList
  symbols : ∀ symbol ∈ symbols.toList, '\n' ∉ symbol.toList
  roles : ∀ role ∈ roles, '\n' ∉ role.symbol.toList

instance (descriptor : Descriptor) (symbols : Symbols) (roles : List Role) :
    Decidable (OneLine descriptor symbols roles) :=
  decidable_of_iff
    ('\n' ∉ descriptor.relname.toList ∧
      (∀ column ∈ descriptor.columns, '\n' ∉ column.name.toList) ∧
      (∀ symbol ∈ symbols.toList, '\n' ∉ symbol.toList) ∧
      ∀ role ∈ roles, '\n' ∉ role.symbol.toList)
    ⟨fun ⟨relname, columns, words, roles⟩ => ⟨relname, columns, words, roles⟩,
      fun oneLine => ⟨oneLine.relname, oneLine.columns, oneLine.symbols, oneLine.roles⟩⟩

/-! ## The parts -/

/-- The banner and the guard come before the first binding. -/
def opening (relname : String) : List String :=
  banner relname ++ ["#ifndef " ++ guard relname, defineWord ++ " " ++ guard relname]

def closing (relname : String) : List String :=
  ["", "#endif\t\t\t\t\t\t\t/* " ++ guard relname ++ " */"]

theorem headerLines_eq (descriptor : Descriptor) (symbols : Symbols) (roles : List Role) :
    headerLines descriptor symbols roles =
      opening descriptor.relname ++ (group (objectBindings descriptor symbols) ++
        (group (columnBindings descriptor) ++ (group [nattsBinding descriptor] ++
          (optionalGroup (roleBindings roles) ++ closing descriptor.relname)))) := by
  simp only [headerLines, opening, closing, List.append_assoc]

/-- The symbols of the indexes run beside the indexes. -/
theorem objectBindings_eq (descriptor : Descriptor) (symbols : Symbols) :
    objectBindings descriptor symbols =
      [⟨symbols.relation, descriptor.relationId.toNat⟩,
       ⟨symbols.rowtype, descriptor.rowtypeId.toNat⟩,
       ⟨symbols.toastTable, descriptor.toastTable.toNat⟩,
       ⟨symbols.toastIndex, descriptor.toastIndex.toNat⟩] ++
        symbols.indexes.zipWith (fun symbol index => ⟨symbol, index.oid.toNat⟩)
          descriptor.indexes := by
  simp [objectBindings, Symbols.toList, Descriptor.relationOids, List.zipWith_map_right]

theorem length_opening (relname : String) : (opening relname).length = 19 :=
  rfl

theorem optionalGroup_eq (members : List Binding) :
    optionalGroup members = [] ∧ members = [] ∨ optionalGroup members = group members := by
  cases members with
  | nil => exact .inl ⟨rfl, rfl⟩
  | cons member rest => exact .inr rfl

/-! ## Lines without a line feed -/

theorem toList_line (binding : Binding) :
    binding.line.toList = defineWord.toList ++ ' ' :: (binding.symbol.toList ++
      ' ' :: (toString binding.value).toList) := by
  simp [Binding.line]

theorem newline_not_mem_guard {relname : String} (newline : '\n' ∉ relname.toList) :
    '\n' ∉ (guard relname).toList := by
  simp [guard, newline_not_mem_asciiUpper newline]

/-- Two lines of the banner hold the name of the relation, and the others are fixed. -/
theorem newline_not_mem_banner {relname : String} (newline : '\n' ∉ relname.toList) :
    ∀ line ∈ banner relname, '\n' ∉ line.toList := by
  have fixed : ∀ line ∈ banner "", '\n' ∉ line.toList := by decide +kernel
  have parts : banner relname = (banner "").take 2 ++
      ((" * " ++ relname ++ "_d.h") :: (" *    Macro definitions for " ++ relname) ::
        (banner "").drop 4) := rfl
  intro line member
  simp only [parts, List.mem_append, List.mem_cons] at member
  rcases member with rule | title | purpose | note
  · exact fixed line (List.mem_of_mem_take rule)
  · simp [title, newline]
  · simp [purpose, newline]
  · exact fixed line (List.mem_of_mem_drop note)

theorem newline_not_mem_opening {relname : String} (newline : '\n' ∉ relname.toList) :
    ∀ line ∈ opening relname, '\n' ∉ line.toList := by
  have keyword : '\n' ∉ defineWord.toList := by decide
  rw [opening, List.forall_mem_append]
  refine ⟨newline_not_mem_banner newline, ?_⟩
  simp [newline_not_mem_guard newline, keyword]

theorem newline_not_mem_closing {relname : String} (newline : '\n' ∉ relname.toList) :
    ∀ line ∈ closing relname, '\n' ∉ line.toList := by
  simp [closing, newline_not_mem_guard newline]

theorem newline_not_mem_line {binding : Binding} (newline : '\n' ∉ binding.symbol.toList) :
    '\n' ∉ binding.line.toList := by
  rw [toList_line]
  simp only [List.mem_append, List.mem_cons, not_or]
  exact ⟨by decide, by decide, newline, by decide,
    (isWord_toString binding.value).unbroken.newline_not_mem⟩

theorem newline_not_mem_group {members : List Binding}
    (newline : ∀ member ∈ members, '\n' ∉ member.symbol.toList) :
    ∀ line ∈ group members, '\n' ∉ line.toList := by
  intro line isLine
  rcases List.mem_cons.mp isLine with rfl | isLine
  · decide
  · rcases List.mem_map.mp isLine with ⟨member, isMember, rfl⟩
    exact newline_not_mem_line (newline member isMember)

theorem newline_not_mem_optionalGroup {members : List Binding}
    (newline : ∀ member ∈ members, '\n' ∉ member.symbol.toList) :
    ∀ line ∈ optionalGroup members, '\n' ∉ line.toList := by
  rcases optionalGroup_eq members with ⟨empty, -⟩ | full
  · simp [empty]
  · rw [full]
    exact newline_not_mem_group newline

namespace OneLine

variable {descriptor : Descriptor} {symbols : Symbols} {roles : List Role}
  (oneLine : OneLine descriptor symbols roles)

include oneLine

theorem newline_not_mem_objectBindings :
    ∀ member ∈ objectBindings descriptor symbols, '\n' ∉ member.symbol.toList := by
  intro member isMember
  rw [objectBindings, ← List.map_uncurry_zip_eq_zipWith] at isMember
  rcases List.mem_map.mp isMember with ⟨⟨symbol, object⟩, pair, rfl⟩
  exact oneLine.symbols symbol (List.of_mem_zip pair).1

theorem newline_not_mem_columnBindings :
    ∀ member ∈ columnBindings descriptor, '\n' ∉ member.symbol.toList := by
  intro member isMember
  rcases List.mem_map.mp isMember with ⟨column, columnMember, rfl⟩
  simp [oneLine.relname, oneLine.columns column columnMember]

theorem newline_not_mem_nattsBinding : '\n' ∉ (nattsBinding descriptor).symbol.toList := by
  simp [nattsBinding, oneLine.relname]

theorem newline_not_mem_roleBindings :
    ∀ member ∈ roleBindings roles, '\n' ∉ member.symbol.toList := by
  intro member isMember
  rcases List.mem_map.mp isMember with ⟨role, roleMember, rfl⟩
  exact oneLine.roles role roleMember

theorem newline_not_mem_headerLines :
    ∀ line ∈ headerLines descriptor symbols roles, '\n' ∉ line.toList := by
  rw [headerLines_eq]
  simp only [List.forall_mem_append]
  exact ⟨newline_not_mem_opening oneLine.relname,
    newline_not_mem_group oneLine.newline_not_mem_objectBindings,
    newline_not_mem_group oneLine.newline_not_mem_columnBindings,
    newline_not_mem_group (List.forall_mem_singleton.mpr oneLine.newline_not_mem_nattsBinding),
    newline_not_mem_optionalGroup oneLine.newline_not_mem_roleBindings,
    newline_not_mem_closing oneLine.relname⟩

end OneLine

/-! ## The text as lines -/

theorem lines_intercalate {texts : List String} (nonempty : texts ≠ [])
    (newline : ∀ text ∈ texts, '\n' ∉ text.toList) :
    lines ("\n".intercalate texts).toList = texts.map String.toList := by
  rw [lines, String.toList_intercalate]
  apply List.splitOn_intercalate
  · rw [List.forall_mem_map]
    exact newline
  · simpa using nonempty

theorem headerLines_ne_nil (descriptor : Descriptor) (symbols : Symbols) (roles : List Role) :
    headerLines descriptor symbols roles ≠ [] := by
  simp [headerLines, banner]

theorem OneLine.lines_headerLines {descriptor : Descriptor} {symbols : Symbols}
    {roles : List Role} (oneLine : OneLine descriptor symbols roles) :
    lines ("\n".intercalate (headerLines descriptor symbols roles)).toList =
      (headerLines descriptor symbols roles).map String.toList :=
  lines_intercalate (headerLines_ne_nil descriptor symbols roles)
    oneLine.newline_not_mem_headerLines

end RoleCatalog.Header

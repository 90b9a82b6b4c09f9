import RoleCatalog.Json.Writer
import RoleCatalog.Proofs.Json.Spelling

/-! # Both layouts of a value

The blanks and line feeds that a text has outside its strings can be deleted without
knowledge of its tokens: a quotation mark begins or ends a string, unless it comes right
after a backslash in one. Without them the pretty text of a value is its compact text.
-/

namespace RoleCatalog.Json

/-- Outside of all strings, inside one, or right after a backslash inside one. -/
inductive Place where
  | outside
  | inside
  | escaped
deriving DecidableEq

def Place.after (place : Place) (character : Char) : Place :=
  match place with
  | .outside => if character = '"' then .inside else .outside
  | .inside =>
      if character = '"' then .outside else if character = '\\' then .escaped else .inside
  | .escaped => .inside

/-- The text from the place on, without the blanks and line feeds outside its strings. -/
def withoutLayout : Place → List Char → List Char
  | _, [] => []
  | place, character :: rest =>
      let later := withoutLayout (place.after character) rest
      if place = .outside ∧ (character = ' ' ∨ character = '\n') then later
      else character :: later

example : withoutLayout .outside "[1,\n \"a \\\" b\" ]".toList = "[1,\"a \\\" b\"]".toList := by
  decide

/-! ## Pieces of a text -/

/-- Outside of strings these characters stay, and no string begins with them. -/
abbrev IsMark (character : Char) : Prop :=
  character ≠ '"' ∧ character ≠ ' ' ∧ character ≠ '\n'

theorem withoutLayout_mark (character : Char) (isMark : IsMark character) (rest : List Char) :
    withoutLayout .outside (character :: rest) = character :: withoutLayout .outside rest := by
  have here : Place.after .outside character = .outside := if_neg isMark.1
  have kept : ¬(Place.outside = .outside ∧ (character = ' ' ∨ character = '\n')) := by
    simp [isMark]
  rw [withoutLayout, here, if_neg kept]

theorem withoutLayout_outside {piece : List Char} (marks : ∀ character ∈ piece, IsMark character)
    (rest : List Char) :
    withoutLayout .outside (piece ++ rest) = piece ++ withoutLayout .outside rest := by
  induction piece with
  | nil => rfl
  | cons character later induction =>
      rw [List.forall_mem_cons] at marks
      rw [List.cons_append, withoutLayout_mark character marks.1, induction marks.2]
      rfl

theorem withoutLayout_inside {piece : List Char}
    (plain : ∀ character ∈ piece, character ≠ '"' ∧ character ≠ '\\') (rest : List Char) :
    withoutLayout .inside (piece ++ rest) = piece ++ withoutLayout .inside rest := by
  induction piece with
  | nil => rfl
  | cons character later induction =>
      rw [List.forall_mem_cons] at plain
      have here : Place.after .inside character = .inside :=
        (if_neg plain.1.1).trans (if_neg plain.1.2)
      rw [List.cons_append, withoutLayout, here, if_neg (by simp), induction plain.2]
      rfl

theorem withoutLayout_escape (named : Char) (rest : List Char) :
    withoutLayout .inside ('\\' :: named :: rest) =
      '\\' :: named :: withoutLayout .inside rest :=
  rfl

theorem hexDigit_plain {value : Nat} (small : value < 16) :
    hexDigit value ≠ '"' ∧ hexDigit value ≠ '\\' := by
  have all : ∀ value < 16, hexDigit value ≠ '"' ∧ hexDigit value ≠ '\\' := by decide
  exact all value small

theorem withoutLayout_escapeCharacter (character : Char) (rest : List Char) :
    withoutLayout .inside (escapeCharacter character ++ rest) =
      escapeCharacter character ++ withoutLayout .inside rest := by
  unfold escapeCharacter
  split
  · rfl
  · rfl
  · rfl
  · rfl
  · rfl
  · rfl
  · rfl
  · rename_i notQuote notBackslash _ _ _ _ _
    split
    · rename_i control
      have digits : ∀ digit ∈ ['0', '0', hexDigit (character.toNat / 16),
          hexDigit (character.toNat % 16)], digit ≠ '"' ∧ digit ≠ '\\' := by
        simp only [List.forall_mem_cons]
        exact ⟨by decide, by decide, hexDigit_plain (by omega), hexDigit_plain (by omega), nofun⟩
      have code := withoutLayout_inside digits rest
      exact (withoutLayout_escape 'u' _).trans (congrArg (fun text => '\\' :: 'u' :: text) code)
    · exact withoutLayout_inside (List.forall_mem_singleton.mpr ⟨notQuote, notBackslash⟩) rest

theorem withoutLayout_quoted (text : String) (rest : List Char) :
    withoutLayout .outside (quoted text ++ rest) =
      quoted text ++ withoutLayout .outside rest := by
  have characters (read : List Char) :
      withoutLayout .inside (read.flatMap escapeCharacter ++ '"' :: rest) =
        read.flatMap escapeCharacter ++ '"' :: withoutLayout .outside rest := by
    induction read with
    | nil => rfl
    | cons character later induction =>
        rw [List.flatMap_cons, List.append_assoc, withoutLayout_escapeCharacter, induction,
          List.append_assoc]
  simp only [quoted, List.cons_append, List.append_assoc, List.nil_append]
  exact congrArg ('"' :: ·) (characters text.toList)

/-- Words have no quotation marks and no blanks. -/
theorem isMark_of_isWordCharacter {character : Char} (inWord : isWordCharacter character = true) :
    IsMark character := by
  refine ⟨?_, ?_, ?_⟩ <;>
  · rintro rfl
    exact absurd inWord (by decide)

theorem withoutLayout_token (token : Token) (rest : List Char) :
    withoutLayout .outside (token.text ++ rest) =
      token.text ++ withoutLayout .outside rest := by
  cases token with
  | string text => exact withoutLayout_quoted text rest
  | number value =>
      exact withoutLayout_outside
        (fun _ member => isMark_of_isWordCharacter (isWordCharacter_of_mem_text member)) rest
  | bool value => cases value <;> rfl
  | _ => rfl

theorem withoutLayout_newLine (depth : Nat) (rest : List Char) :
    withoutLayout .outside (newLine depth ++ rest) = withoutLayout .outside rest := by
  have indent (count : Nat) :
      withoutLayout .outside (List.replicate count ' ' ++ rest) =
        withoutLayout .outside rest := by
    induction count with
    | zero => rfl
    | succ count induction => exact induction
  exact indent (2 * depth)

theorem withoutLayout_memberLabel (key : String) (rest : List Char) :
    withoutLayout .outside (memberLabel key ++ rest) =
      quoted key ++ ':' :: withoutLayout .outside rest := by
  rw [memberLabel, List.append_assoc, withoutLayout_quoted]
  rfl

/-! ## Values -/

mutual

theorem Value.withoutLayout_layout : ∀ (value : Value) (depth : Nat) (rest : List Char),
    withoutLayout .outside (value.layout depth ++ rest) =
      value.tokens.flatMap Token.text ++ withoutLayout .outside rest
  | .null, depth, rest => by
      rw [Value.layout, Value.tokens, List.flatMap_singleton]
      exact withoutLayout_token .null rest
  | .bool value, depth, rest => by
      rw [Value.layout, Value.tokens, List.flatMap_singleton]
      exact withoutLayout_token (.bool value) rest
  | .number value, depth, rest => by
      rw [Value.layout, Value.tokens, List.flatMap_singleton]
      exact withoutLayout_token (.number value) rest
  | .string value, depth, rest => by
      rw [Value.layout, Value.tokens, List.flatMap_singleton]
      exact withoutLayout_token (.string value) rest
  | .array .nil, depth, rest => by
      rw [Value.layout, Value.tokens]
      rfl
  | .array (.cons head tail), depth, rest => by
      rw [Value.layout, Value.tokens]
      simp only [List.cons_append, List.append_assoc, List.nil_append, List.flatMap_cons,
        List.flatMap_append, List.flatMap_nil, Token.text]
      rw [withoutLayout_mark '[' (by decide), withoutLayout_newLine, head.withoutLayout_layout,
        tail.withoutLayout_laterLayout, withoutLayout_newLine,
        withoutLayout_mark ']' (by decide)]
  | .object .nil, depth, rest => by
      rw [Value.layout, Value.tokens]
      rfl
  | .object (.cons key value tail), depth, rest => by
      rw [Value.layout, Value.tokens]
      simp only [List.cons_append, List.append_assoc, List.nil_append, List.flatMap_cons,
        List.flatMap_append, List.flatMap_nil, Token.text]
      rw [withoutLayout_mark '\x7b' (by decide), withoutLayout_newLine,
        withoutLayout_memberLabel, value.withoutLayout_layout, tail.withoutLayout_laterLayout,
        withoutLayout_newLine, withoutLayout_mark '\x7d' (by decide)]

theorem Values.withoutLayout_laterLayout : ∀ (items : Values) (depth : Nat) (rest : List Char),
    withoutLayout .outside (items.laterLayout depth ++ rest) =
      items.laterTokens.flatMap Token.text ++ withoutLayout .outside rest
  | .nil, depth, rest => by
      rw [Values.laterLayout, Values.laterTokens]
      rfl
  | .cons head tail, depth, rest => by
      rw [Values.laterLayout, Values.laterTokens]
      simp only [List.cons_append, List.append_assoc, List.nil_append, List.flatMap_cons,
        List.flatMap_append, Token.text]
      rw [withoutLayout_mark ',' (by decide), withoutLayout_newLine, head.withoutLayout_layout,
        tail.withoutLayout_laterLayout]

theorem Members.withoutLayout_laterLayout : ∀ (members : Members) (depth : Nat)
    (rest : List Char), withoutLayout .outside (members.laterLayout depth ++ rest) =
      members.laterTokens.flatMap Token.text ++ withoutLayout .outside rest
  | .nil, depth, rest => by
      rw [Members.laterLayout, Members.laterTokens]
      rfl
  | .cons key value tail, depth, rest => by
      rw [Members.laterLayout, Members.laterTokens]
      simp only [List.cons_append, List.append_assoc, List.nil_append, List.flatMap_cons,
        List.flatMap_append, Token.text]
      rw [withoutLayout_mark ',' (by decide), withoutLayout_newLine, withoutLayout_memberLabel,
        value.withoutLayout_layout, tail.withoutLayout_laterLayout]

end

theorem Value.withoutLayout_pretty (value : Value) :
    withoutLayout .outside value.pretty.toList = value.compact.toList := by
  have condensed := value.withoutLayout_layout 0 []
  rw [List.append_nil] at condensed
  rw [pretty, compact, String.toList_ofList, String.toList_ofList, condensed]
  exact List.append_nil _

end RoleCatalog.Json

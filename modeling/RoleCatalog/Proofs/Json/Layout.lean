import RoleCatalog.Proofs.Json.Reading

/-! # The pretty text

The pretty text of a value spells the same tokens as its compact text. What it adds are
blanks, and none of them parts a word. So it is read as the same value.
-/

namespace RoleCatalog.Json

theorem Spells.blanks {blanks text : List Char} {tokens : List Token}
    (areBlank : ∀ character ∈ blanks, isJsonBlank character = true)
    (rest : Spells text tokens) : Spells (blanks ++ text) tokens := by
  induction blanks with
  | nil => exact rest
  | cons character later induction =>
      rw [List.forall_mem_cons] at areBlank
      exact .blank areBlank.1 (induction areBlank.2)

theorem isJsonBlank_of_mem_newLine {depth : Nat} {character : Char}
    (member : character ∈ newLine depth) : isJsonBlank character = true := by
  rcases List.mem_cons.mp member with newline | indent
  · rw [newline]
    rfl
  · rw [List.eq_of_mem_replicate indent]
    rfl

/-- The text spells the tokens, and no word before it goes on into it. -/
structure SpellsApart (text : List Char) (tokens : List Token) : Prop where
  spells : Spells text tokens
  ends : EndsWord text

theorem SpellsApart.nil : SpellsApart [] [] :=
  ⟨.done, nofun⟩

theorem SpellsApart.newLine {text : List Char} {tokens : List Token} (depth : Nat)
    (rest : Spells text tokens) : SpellsApart (newLine depth ++ text) tokens where
  spells := rest.blanks fun _ => isJsonBlank_of_mem_newLine
  ends := by
    intro character isHead
    cases isHead
    rfl

/-- A token that is no word can stand before any text. -/
theorem Spells.mark (token : Token) (legible : token.Legible) (notWord : token.isWord = false)
    {text : List Char} {tokens : List Token} (rest : Spells text tokens) :
    Spells (token.text ++ text) (token :: tokens) :=
  .token legible (fun isWord => absurd (notWord.symm.trans isWord) Bool.false_ne_true) rest

theorem SpellsApart.comma {text : List Char} {tokens : List Token} (rest : Spells text tokens) :
    SpellsApart (',' :: text) (.comma :: tokens) where
  spells := rest.mark .comma trivial rfl
  ends := by
    intro character isHead
    cases isHead
    rfl

theorem Spells.memberLabel (key : String) {text : List Char} {tokens : List Token}
    (rest : Spells text tokens) :
    Spells (memberLabel key ++ text) (.string key :: .colon :: tokens) := by
  have colon : Spells (':' :: ' ' :: text) (.colon :: tokens) :=
    Spells.mark .colon trivial rfl (.blank rfl rest)
  rw [Json.memberLabel, List.append_assoc]
  exact colon.mark (.string key) trivial rfl

mutual

theorem Value.spells_layout : ∀ (value : Value) (depth : Nat) {rest : List Char}
    {tokens : List Token}, (∀ token ∈ value.tokens, token.Legible) → SpellsApart rest tokens →
      Spells (value.layout depth ++ rest) (value.tokens ++ tokens)
  | .null, depth, rest, tokens, legible, apart => by
      rw [Value.layout, Value.tokens]
      exact .token trivial (fun _ => apart.ends) apart.spells
  | .bool value, depth, rest, tokens, legible, apart => by
      rw [Value.layout, Value.tokens]
      exact .token trivial (fun _ => apart.ends) apart.spells
  | .number value, depth, rest, tokens, legible, apart => by
      rw [Value.tokens, List.forall_mem_singleton] at legible
      rw [Value.layout, Value.tokens]
      exact .token legible (fun _ => apart.ends) apart.spells
  | .string value, depth, rest, tokens, legible, apart => by
      rw [Value.layout, Value.tokens]
      exact .token trivial (fun _ => apart.ends) apart.spells
  | .array .nil, depth, rest, tokens, legible, apart => by
      rw [Value.layout, Value.tokens]
      exact (apart.spells.mark .closeArray trivial rfl).mark .openArray trivial rfl
  | .array (.cons head tail), depth, rest, tokens, legible, apart => by
      rw [Value.tokens, List.forall_mem_cons, List.forall_mem_append,
        List.forall_mem_append] at legible
      have closing : SpellsApart (newLine depth ++ ']' :: rest) (.closeArray :: tokens) :=
        .newLine depth (apart.spells.mark .closeArray trivial rfl)
      have items := head.spells_layout (depth + 1) legible.2.1.1
        (tail.spellsApart_laterLayout (depth + 1) legible.2.1.2 closing)
      have opened := (SpellsApart.newLine (depth + 1) items).spells.mark .openArray trivial rfl
      simpa only [Value.layout, Value.tokens, Token.text, List.cons_append, List.nil_append,
        List.append_assoc] using opened
  | .object .nil, depth, rest, tokens, legible, apart => by
      rw [Value.layout, Value.tokens]
      exact (apart.spells.mark .closeObject trivial rfl).mark .openObject trivial rfl
  | .object (.cons key value tail), depth, rest, tokens, legible, apart => by
      rw [Value.tokens, List.forall_mem_cons, List.forall_mem_cons, List.forall_mem_cons,
        List.forall_mem_append, List.forall_mem_append] at legible
      have closing : SpellsApart (newLine depth ++ '\x7d' :: rest) (.closeObject :: tokens) :=
        .newLine depth (apart.spells.mark .closeObject trivial rfl)
      have members := value.spells_layout (depth + 1) legible.2.2.2.1.1
        (tail.spellsApart_laterLayout (depth + 1) legible.2.2.2.1.2 closing)
      have opened := (SpellsApart.newLine (depth + 1) (members.memberLabel key)).spells.mark
        .openObject trivial rfl
      simpa only [Value.layout, Value.tokens, Token.text, List.cons_append, List.nil_append,
        List.append_assoc] using opened

theorem Values.spellsApart_laterLayout : ∀ (items : Values) (depth : Nat) {rest : List Char}
    {tokens : List Token}, (∀ token ∈ items.laterTokens, token.Legible) →
      SpellsApart rest tokens →
        SpellsApart (items.laterLayout depth ++ rest) (items.laterTokens ++ tokens)
  | .nil, depth, rest, tokens, legible, apart => by
      rw [Values.laterLayout, Values.laterTokens]
      exact apart
  | .cons head tail, depth, rest, tokens, legible, apart => by
      rw [Values.laterTokens, List.forall_mem_cons, List.forall_mem_append] at legible
      have items := head.spells_layout depth legible.2.1
        (tail.spellsApart_laterLayout depth legible.2.2 apart)
      have separated := SpellsApart.comma (SpellsApart.newLine depth items).spells
      simpa only [Values.laterLayout, Values.laterTokens, List.cons_append,
        List.append_assoc] using separated

theorem Members.spellsApart_laterLayout : ∀ (members : Members) (depth : Nat)
    {rest : List Char} {tokens : List Token}, (∀ token ∈ members.laterTokens, token.Legible) →
      SpellsApart rest tokens →
        SpellsApart (members.laterLayout depth ++ rest) (members.laterTokens ++ tokens)
  | .nil, depth, rest, tokens, legible, apart => by
      rw [Members.laterLayout, Members.laterTokens]
      exact apart
  | .cons key value tail, depth, rest, tokens, legible, apart => by
      rw [Members.laterTokens, List.forall_mem_cons, List.forall_mem_cons, List.forall_mem_cons,
        List.forall_mem_append] at legible
      have members := value.spells_layout depth legible.2.2.2.1
        (tail.spellsApart_laterLayout depth legible.2.2.2.2 apart)
      have separated := SpellsApart.comma
        (SpellsApart.newLine depth (members.memberLabel key)).spells
      simpa only [Members.laterLayout, Members.laterTokens, List.cons_append,
        List.append_assoc] using separated

end

theorem Value.ofText?_pretty {value : Value} (legible : ∀ token ∈ value.tokens, token.Legible)
    (shallow : value.depth < nestingLimit) : ofText? value.pretty = some value := by
  have spells := value.spells_layout 0 legible .nil
  rw [List.append_nil, List.append_nil] at spells
  exact ofText?_of_spells spells shallow

end RoleCatalog.Json

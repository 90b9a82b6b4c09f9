import RoleCatalog.Json.Reader
import RoleCatalog.Json.Writer
import RoleCatalog.Proofs.Json.Spelling
import Mathlib.Data.List.Chain

/-! # Values read back

The tokens of a value are read as the value unless it is nested too deep. A text that has
these tokens with any blanks between them spells them, since a comma, a colon, a bracket or
a blank follows every word that is not the last. So such a text is read as the value, and
the compact text, which has no blanks, as the value that it was written for.
-/

namespace RoleCatalog.Json

namespace Reader

/-! ## Tokens of a value -/

theorem run_cons (state : State) (token : Token) (rest : List Token) :
    run state (token :: rest) = (step state token).bind fun next => run next rest :=
  rfl

/-- A value does not begin with the end of an array. -/
theorem exists_tokens_eq (value : Value) :
    ∃ first rest, value.tokens = first :: rest ∧ first ≠ .closeArray := by
  cases value with
  | null => exact ⟨.null, [], by rw [Value.tokens], Token.noConfusion⟩
  | bool value => exact ⟨.bool value, [], by rw [Value.tokens], Token.noConfusion⟩
  | number value => exact ⟨.number value, [], by rw [Value.tokens], Token.noConfusion⟩
  | string value => exact ⟨.string value, [], by rw [Value.tokens], Token.noConfusion⟩
  | array items =>
      cases items <;> exact ⟨.openArray, _, by rw [Value.tokens], Token.noConfusion⟩
  | object members =>
      cases members <;> exact ⟨.openObject, _, by rw [Value.tokens], Token.noConfusion⟩

/-- So the first item of an array is read like any other. -/
theorem run_firstItem (value : Value) (outer : List Frame) (rest : List Token) :
    run (.firstItem outer) (value.tokens ++ rest) =
      run (.value (.array [] :: outer)) (value.tokens ++ rest) := by
  rcases exists_tokens_eq value with ⟨first, later, tokens, notClose⟩
  rw [tokens, List.cons_append, run_cons, run_cons]
  cases first with
  | closeArray => exact absurd rfl notClose
  | _ => rfl

/-! A value is read in whatever containers it stands and whatever comes after it. The later
items and members of a container are read from the state in which the one before them
is done. -/

mutual

theorem run_value : ∀ (value : Value) (outer : List Frame) (rest : List Token),
    outer.length + value.depth < nestingLimit →
      run (.value outer) (value.tokens ++ rest) = run (.done value outer) rest
  | .null, outer, rest, _ => by rw [Value.tokens]; rfl
  | .bool value, outer, rest, _ => by rw [Value.tokens]; rfl
  | .number value, outer, rest, _ => by rw [Value.tokens]; rfl
  | .string value, outer, rest, _ => by rw [Value.tokens]; rfl
  | .array items, outer, rest, shallow => by
      rw [Value.depth] at shallow
      have opened : step (.value outer) .openArray = some (.firstItem outer) :=
        if_pos (by omega)
      cases items with
      | nil =>
          rw [Value.tokens, List.cons_append, run_cons, opened]
          rfl
      | cons head tail =>
          rw [Values.depth] at shallow
          rw [Value.tokens, List.cons_append, run_cons, opened, Option.bind_some,
            List.append_assoc, List.append_assoc, run_firstItem,
            run_value head (.array [] :: outer) _ (by rw [List.length_cons]; omega),
            List.singleton_append, run_laterItems tail head [] outer rest (by omega)]
          simp [Value.ofList, Values.ofList]
  | .object members, outer, rest, shallow => by
      rw [Value.depth] at shallow
      have opened : step (.value outer) .openObject = some (.firstKey outer) :=
        if_pos (by omega)
      cases members with
      | nil =>
          rw [Value.tokens, List.cons_append, run_cons, opened]
          rfl
      | cons key value tail =>
          rw [Members.depth] at shallow
          have labelled : run (.firstKey outer)
              (.string key :: .colon :: (value.tokens ++ (tail.laterTokens ++
                .closeObject :: rest))) =
              run (.value (.object [] key :: outer)) (value.tokens ++ (tail.laterTokens ++
                .closeObject :: rest)) := rfl
          rw [Value.tokens, List.cons_append, run_cons, opened, Option.bind_some,
            List.cons_append, List.cons_append, List.append_assoc, List.append_assoc,
            List.singleton_append, labelled,
            run_value value (.object [] key :: outer) _ (by rw [List.length_cons]; omega),
            run_laterMembers tail key value [] outer rest (by omega)]
          simp [Value.ofMembers, Members.ofList]

theorem run_laterItems : ∀ (items : Values) (last : Value) (before : List Value)
    (outer : List Frame) (rest : List Token), outer.length + 1 + items.depth < nestingLimit →
      run (.done last (.array before :: outer)) (items.laterTokens ++ .closeArray :: rest) =
        run (.done (.ofList (before.reverse ++ last :: items.toList)) outer) rest
  | .nil, last, before, outer, rest, _ => by
      rw [Values.laterTokens, Values.toList, ← List.reverse_cons]
      rfl
  | .cons head tail, last, before, outer, rest, shallow => by
      rw [Values.depth] at shallow
      have separated : run (.done last (.array before :: outer))
          (.comma :: (head.tokens ++ (tail.laterTokens ++ .closeArray :: rest))) =
          run (.value (.array (last :: before) :: outer))
            (head.tokens ++ (tail.laterTokens ++ .closeArray :: rest)) := rfl
      rw [Values.laterTokens, List.cons_append, List.append_assoc, separated,
        run_value head (.array (last :: before) :: outer) _ (by rw [List.length_cons]; omega),
        run_laterItems tail head (last :: before) outer rest (by omega), Values.toList,
        List.reverse_cons, List.append_assoc, List.singleton_append]

theorem run_laterMembers : ∀ (members : Members) (key : String) (last : Value)
    (before : List (String × Value)) (outer : List Frame) (rest : List Token),
    outer.length + 1 + members.depth < nestingLimit →
      run (.done last (.object before key :: outer))
          (members.laterTokens ++ .closeObject :: rest) =
        run (.done (.ofMembers (before.reverse ++ (key, last) :: members.toList)) outer) rest
  | .nil, key, last, before, outer, rest, _ => by
      rw [Members.laterTokens, Members.toList, ← List.reverse_cons]
      rfl
  | .cons next value tail, key, last, before, outer, rest, shallow => by
      rw [Members.depth] at shallow
      have separated : run (.done last (.object before key :: outer))
          (.comma :: .string next :: .colon ::
            (value.tokens ++ (tail.laterTokens ++ .closeObject :: rest))) =
          run (.value (.object ((key, last) :: before) next :: outer))
            (value.tokens ++ (tail.laterTokens ++ .closeObject :: rest)) := rfl
      rw [Members.laterTokens, List.cons_append, List.cons_append, List.cons_append,
        List.append_assoc, separated,
        run_value value (.object ((key, last) :: before) next :: outer) _
          (by rw [List.length_cons]; omega),
        run_laterMembers tail next value ((key, last) :: before) outer rest (by omega),
        Members.toList, List.reverse_cons, List.append_assoc, List.singleton_append]

end

end Reader

theorem ofTokens?_tokens {value : Value} (shallow : value.depth < nestingLimit) :
    ofTokens? value.tokens = some value := by
  have read := Reader.run_value value [] [] (by rwa [List.length_nil, Nat.zero_add])
  rw [List.append_nil] at read
  rw [ofTokens?, read]
  rfl

theorem Value.ofText?_of_spells {text : List Char} {value : Value}
    (spells : Spells text value.tokens) (shallow : value.depth < nestingLimit) :
    ofText? (String.ofList text) = some value := by
  rw [ofText?, String.toList_ofList, spells.tokens?_eq, Option.bind_some,
    ofTokens?_tokens shallow]

/-! ## Texts with blanks -/

/-- No word comes right after another. -/
def Separated (tokens : List Token) : Prop :=
  tokens.IsChain fun left right => left.isWord = true → right.isWord = false

/-- Tokens that may come after a value. -/
structure Follows (tokens : List Token) : Prop where
  separated : Separated tokens
  head : ∀ token ∈ tokens.head?, token.isWord = false

theorem Separated.cons_mark {token : Token} (notWord : token.isWord = false)
    {rest : List Token} (separated : Separated rest) : Separated (token :: rest) :=
  List.isChain_cons.mpr
    ⟨fun _ _ isWord => absurd (notWord.symm.trans isWord) Bool.false_ne_true, separated⟩

theorem Follows.cons_mark {token : Token} (notWord : token.isWord = false)
    {rest : List Token} (separated : Separated rest) : Follows (token :: rest) where
  separated := separated.cons_mark notWord
  head := by
    intro head isHead
    cases isHead
    exact notWord

theorem Follows.cons_separated {rest : List Token} (follows : Follows rest) (token : Token) :
    Separated (token :: rest) :=
  List.isChain_cons.mpr ⟨fun head isHead _ => follows.head head isHead, follows.separated⟩

mutual

theorem Value.separated_tokens : ∀ (value : Value) {rest : List Token}, Follows rest →
    Separated (value.tokens ++ rest)
  | .null, rest, follows => by rw [Value.tokens]; exact follows.cons_separated .null
  | .bool value, rest, follows => by rw [Value.tokens]; exact follows.cons_separated (.bool value)
  | .number value, rest, follows => by
      rw [Value.tokens]
      exact follows.cons_separated (.number value)
  | .string value, rest, follows => by
      rw [Value.tokens]
      exact follows.cons_separated (.string value)
  | .array .nil, rest, follows => by
      rw [Value.tokens]
      exact .cons_mark rfl (.cons_mark rfl follows.separated)
  | .array (.cons head tail), rest, follows => by
      have closing : Follows (.closeArray :: rest) := .cons_mark rfl follows.separated
      rw [Value.tokens, List.cons_append, List.append_assoc, List.append_assoc,
        List.singleton_append]
      exact .cons_mark rfl (head.separated_tokens (tail.follows_laterTokens closing))
  | .object .nil, rest, follows => by
      rw [Value.tokens]
      exact .cons_mark rfl (.cons_mark rfl follows.separated)
  | .object (.cons key value tail), rest, follows => by
      have closing : Follows (.closeObject :: rest) := .cons_mark rfl follows.separated
      rw [Value.tokens, List.cons_append, List.cons_append, List.cons_append, List.append_assoc,
        List.append_assoc, List.singleton_append]
      exact .cons_mark rfl (.cons_mark rfl (.cons_mark rfl
        (value.separated_tokens (tail.follows_laterTokens closing))))

theorem Values.follows_laterTokens : ∀ (items : Values) {rest : List Token}, Follows rest →
    Follows (items.laterTokens ++ rest)
  | .nil, rest, follows => by
      rw [Values.laterTokens]
      exact follows
  | .cons head tail, rest, follows => by
      rw [Values.laterTokens, List.cons_append, List.append_assoc]
      exact .cons_mark rfl (head.separated_tokens (tail.follows_laterTokens follows))

theorem Members.follows_laterTokens : ∀ (members : Members) {rest : List Token}, Follows rest →
    Follows (members.laterTokens ++ rest)
  | .nil, rest, follows => by
      rw [Members.laterTokens]
      exact follows
  | .cons key value tail, rest, follows => by
      rw [Members.laterTokens, List.cons_append, List.cons_append, List.cons_append,
        List.append_assoc]
      exact .cons_mark rfl (.cons_mark rfl (.cons_mark rfl
        (value.separated_tokens (tail.follows_laterTokens follows))))

end

/-- Punctuation and strings end the word before them. -/
theorem endsWord_text {token : Token} (notWord : token.isWord = false) (rest : List Char) :
    EndsWord (token.text ++ rest) := by
  intro character isHead
  cases token with
  | null => cases notWord
  | bool value => cases notWord
  | number value => cases notWord
  | _ =>
      cases isHead
      rfl

/-- The text has the tokens one after the other, with blanks wherever they can stand. -/
inductive Written : List Char → List Token → Prop where
  | done : Written [] []
  | blank {character : Char} {text : List Char} {tokens : List Token}
      (isBlank : isJsonBlank character = true) (rest : Written text tokens) :
      Written (character :: text) tokens
  | token {text : List Char} {tokens : List Token} (token : Token)
      (rest : Written text tokens) : Written (token.text ++ text) (token :: tokens)
  | string {spelling text : List Char} {value : String} {tokens : List Token}
      (spells : SpellsString spelling value.toList) (rest : Written text tokens) :
      Written ('"' :: (spelling ++ '"' :: text)) (.string value :: tokens)

theorem written_flatMap_text (tokens : List Token) :
    Written (tokens.flatMap Token.text) tokens := by
  induction tokens with
  | nil => exact .done
  | cons token rest induction =>
      rw [List.flatMap_cons]
      exact .token token induction

theorem Written.endsWord {text : List Char} {tokens : List Token} (written : Written text tokens)
    (mark : ∀ token ∈ tokens.head?, token.isWord = false) : EndsWord text := by
  cases written with
  | done => exact nofun
  | blank isBlank rest =>
      intro character isHead
      cases isHead
      exact Lexer.isWordCharacter_of_isJsonBlank isBlank
  | @token rest _ token _ => exact endsWord_text (mark token rfl) rest
  | string spells rest =>
      intro character isHead
      cases isHead
      rfl

theorem Written.spells {text : List Char} {tokens : List Token} (written : Written text tokens)
    (separated : Separated tokens) (legible : ∀ token ∈ tokens, token.Legible) :
    Spells text tokens := by
  induction written with
  | done => exact .done
  | blank isBlank _ induction => exact .blank isBlank (induction separated legible)
  | token token rest induction =>
      rcases List.isChain_cons.mp separated with ⟨apart, later⟩
      rw [List.forall_mem_cons] at legible
      refine .token legible.1 ?_ (induction later legible.2)
      exact fun isWord => rest.endsWord fun next isNext => apart next isNext isWord
  | string spells _ induction =>
      rw [List.forall_mem_cons] at legible
      exact .string spells (induction (List.isChain_cons.mp separated).2 legible.2)

/-- Blanks make no difference, nor does the way in which strings are spelled. -/
theorem Value.ofText?_of_written {text : List Char} {value : Value}
    (written : Written text value.tokens) (legible : ∀ token ∈ value.tokens, token.Legible)
    (shallow : value.depth < nestingLimit) : ofText? (String.ofList text) = some value := by
  have separated : Separated (value.tokens ++ []) := value.separated_tokens ⟨.nil, nofun⟩
  rw [List.append_nil] at separated
  exact ofText?_of_spells (written.spells separated legible) shallow

theorem Value.ofText?_compact {value : Value} (legible : ∀ token ∈ value.tokens, token.Legible)
    (shallow : value.depth < nestingLimit) : ofText? value.compact = some value :=
  ofText?_of_written (written_flatMap_text value.tokens) legible shallow

/-! ## Lists of values

Both conditions for reading a list are met when its items meet them. -/

theorem legible_laterTokens_ofList {items : List Value}
    (legible : ∀ item ∈ items, ∀ token ∈ item.tokens, token.Legible) :
    ∀ token ∈ (Values.ofList items).laterTokens, token.Legible := by
  induction items with
  | nil =>
      rw [Values.ofList, Values.laterTokens]
      exact List.forall_mem_nil _
  | cons head tail induction =>
      rw [List.forall_mem_cons] at legible
      rw [Values.ofList, Values.laterTokens, List.forall_mem_cons, List.forall_mem_append]
      exact ⟨trivial, legible.1, induction legible.2⟩

theorem legible_tokens_ofList {items : List Value}
    (legible : ∀ item ∈ items, ∀ token ∈ item.tokens, token.Legible) :
    ∀ token ∈ (Value.ofList items).tokens, token.Legible := by
  cases items with
  | nil =>
      rw [Value.ofList, Values.ofList, Value.tokens, List.forall_mem_cons,
        List.forall_mem_singleton]
      exact ⟨trivial, trivial⟩
  | cons head tail =>
      rw [List.forall_mem_cons] at legible
      rw [Value.ofList, Values.ofList, Value.tokens, List.forall_mem_cons,
        List.forall_mem_append, List.forall_mem_append, List.forall_mem_singleton]
      exact ⟨trivial, ⟨legible.1, legible_laterTokens_ofList legible.2⟩, trivial⟩

theorem depth_ofList_le {items : List Value} {bound : Nat}
    (shallow : ∀ item ∈ items, item.depth ≤ bound) :
    (Value.ofList items).depth ≤ bound + 1 := by
  have inner : (Values.ofList items).depth ≤ bound := by
    induction items with
    | nil =>
        rw [Values.ofList, Values.depth]
        exact Nat.zero_le bound
    | cons head tail induction =>
        rw [List.forall_mem_cons] at shallow
        rw [Values.ofList, Values.depth]
        exact Nat.max_le.mpr ⟨shallow.1, induction shallow.2⟩
  rw [Value.ofList, Value.depth]
  exact Nat.succ_le_succ inner

end RoleCatalog.Json

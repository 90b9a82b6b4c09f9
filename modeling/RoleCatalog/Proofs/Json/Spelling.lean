import RoleCatalog.Proofs.Json.StringText
import RoleCatalog.Proofs.Text.Numeral

/-! # Spellings of tokens

A text spells a list of tokens when it consists of their texts with blanks between them,
and no word runs on into the next token. A string may be spelled in other ways than the
writer's. The lexer reads such a text as these tokens. Every token is read as itself but
for numbers beyond the range of a double.
-/

namespace RoleCatalog.Json

/-- Tokens that end only where another character comes. -/
def Token.isWord : Token → Bool
  | .null | .bool _ | .number _ => true
  | _ => false

/-- The text of the token is read as the token. -/
def Token.Legible : Token → Prop
  | .number value => readNumber value.text = some value
  | _ => True

/-- No word goes on into the text. -/
def EndsWord (text : List Char) : Prop :=
  ∀ character ∈ text.head?, isWordCharacter character = false

inductive Spells : List Char → List Token → Prop where
  | done : Spells [] []
  | blank {character : Char} {text : List Char} {tokens : List Token}
      (isBlank : isJsonBlank character = true) (rest : Spells text tokens) :
      Spells (character :: text) tokens
  | token {token : Token} {text : List Char} {tokens : List Token} (legible : token.Legible)
      (ends : token.isWord = true → EndsWord text) (rest : Spells text tokens) :
      Spells (token.text ++ text) (token :: tokens)
  | string {spelling text : List Char} {value : String} {tokens : List Token}
      (spells : SpellsString spelling value.toList) (rest : Spells text tokens) :
      Spells ('"' :: (spelling ++ '"' :: text)) (.string value :: tokens)

namespace Lexer

theorem run_quoted (text : String) (tokens : List Token) (rest : List Char) :
    run ⟨.idle, tokens⟩ (quoted text ++ rest) = run ⟨.idle, .string text :: tokens⟩ rest := by
  rw [quoted, List.cons_append, List.append_assoc, List.singleton_append]
  exact run_string (spellsString_escaped text.toList) tokens rest

/-! ## Words -/

theorem isWordCharacter_of_isJsonBlank {character : Char}
    (blank : isJsonBlank character = true) : isWordCharacter character = false := by
  simp only [isJsonBlank, Bool.or_eq_true, beq_iff_eq, or_assoc] at blank
  rcases blank with rfl | rfl | rfl | rfl <;> rfl

theorem start_word {character : Char} (inWord : isWordCharacter character = true)
    (tokens : List Token) : start tokens character = some ⟨.word [character], tokens⟩ := by
  have notBlank : isJsonBlank character = false := by
    cases blank : isJsonBlank character with
    | false => rfl
    | true => exact absurd (inWord.symm.trans (isWordCharacter_of_isJsonBlank blank)) (by decide)
  have notQuote : character ≠ '"' := by
    intro quote
    rw [quote] at inWord
    exact absurd inWord (by decide)
  rw [start, notBlank, if_neg Bool.false_ne_true, if_neg notQuote, if_pos inWord]

theorem run_wordCharacters {word : List Char}
    (inWord : ∀ character ∈ word, isWordCharacter character = true) (read : List Char)
    (tokens : List Token) (rest : List Char) :
    run ⟨.word read, tokens⟩ (word ++ rest) = run ⟨.word (word.reverse ++ read), tokens⟩ rest := by
  induction word generalizing read with
  | nil => rfl
  | cons character later induction =>
      rw [List.forall_mem_cons] at inWord
      rw [List.cons_append, run_cons, step]
      simp only
      rw [if_pos inWord.1, Option.bind_some, induction inWord.2, List.reverse_cons,
        List.append_assoc, List.singleton_append]

/-- The character after a word is read as if the word had been finished before. -/
theorem finish_run_word {read : List Char} {token : Token}
    (isToken : wordToken? read.reverse = some token) {rest : List Char} (ends : EndsWord rest)
    (tokens : List Token) :
    (run ⟨.word read, tokens⟩ rest).bind finish =
      (run ⟨.idle, token :: tokens⟩ rest).bind finish := by
  cases rest with
  | nil =>
      change (wordToken? read.reverse).map _ = _
      rw [isToken]
      rfl
  | cons character later =>
      have outside : isWordCharacter character = false := ends character rfl
      rw [run_cons, run_cons, step, step]
      simp only
      rw [outside, if_neg Bool.false_ne_true, isToken, Option.bind_some]

theorem finish_run_wordText {word : List Char} (nonempty : word ≠ [])
    (inWord : ∀ character ∈ word, isWordCharacter character = true) {token : Token}
    (isToken : wordToken? word = some token) {rest : List Char} (ends : EndsWord rest)
    (tokens : List Token) :
    (run ⟨.idle, tokens⟩ (word ++ rest)).bind finish =
      (run ⟨.idle, token :: tokens⟩ rest).bind finish := by
  cases word with
  | nil => exact absurd rfl nonempty
  | cons first later =>
      rw [List.forall_mem_cons] at inWord
      have started : run ⟨.idle, tokens⟩ (first :: later ++ rest) =
          run ⟨.word [first], tokens⟩ (later ++ rest) := by
        rw [List.cons_append, run_cons, step]
        simp only
        rw [start_word inWord.1, Option.bind_some]
      rw [started, run_wordCharacters inWord.2]
      apply finish_run_word _ ends
      rw [List.reverse_append, List.reverse_reverse, List.reverse_singleton,
        List.singleton_append]
      exact isToken

end Lexer

/-! ## The words of numbers and literals -/

theorem isWordCharacter_of_mem_toString {value : Int} {character : Char}
    (member : character ∈ (toString value).toList) : isWordCharacter character = true := by
  have digit {number : Nat} (member : character ∈ Nat.toDigits 10 number) :
      isWordCharacter character = true := by
    simp [isWordCharacter, Char.isAlphanum, Text.isDigit_of_mem_toDigits member]
  cases value with
  | ofNat number =>
      rw [Int.ofNat_eq_natCast, Text.toList_toString_ofNat] at member
      exact digit member
  | negSucc number =>
      rw [Text.toList_toString_negSucc] at member
      rcases List.mem_cons.mp member with rfl | later
      · rfl
      · exact digit later

theorem isWordCharacter_of_mem_text {value : Decimal} {character : Char}
    (member : character ∈ value.text) : isWordCharacter character = true := by
  simp only [Decimal.text] at member
  split at member
  · exact isWordCharacter_of_mem_toString member
  · rcases List.mem_append.mp member with significand | exponent
    · exact isWordCharacter_of_mem_toString significand
    · rcases List.mem_cons.mp exponent with rfl | numeral
      · rfl
      · exact isWordCharacter_of_mem_toString numeral

theorem Decimal.text_ne_nil (value : Decimal) : value.text ≠ [] := by
  have numeral : (toString value.significand).toList ≠ [] :=
    (Text.isWord_toString value.significand).nonempty
  simp only [text]
  split
  · exact numeral
  · simp

/-- No literal is read as a number. -/
theorem wordToken?_text {value : Decimal} (legible : (Token.number value).Legible) :
    wordToken? value.text = some (.number value) := by
  have read : readNumber value.text = some value := legible
  -- Each of the three literals would have to be read as the number.
  have other {literal : List Char} (unread : readNumber literal = none) :
      value.text ≠ literal := by
    intro equal
    rw [equal, unread] at read
    cases read
  rw [wordToken?, if_neg (other (by decide)), if_neg (other (by decide)),
    if_neg (other (by decide)), read]
  rfl

/-! ## The law -/

/-- The token is read off the front of the text. -/
theorem Lexer.finish_run_token {token : Token} (legible : token.Legible) {rest : List Char}
    (ends : token.isWord = true → EndsWord rest) (tokens : List Token) :
    (run ⟨.idle, tokens⟩ (token.text ++ rest)).bind finish =
      (run ⟨.idle, token :: tokens⟩ rest).bind finish := by
  cases token with
  | string text => exact congrArg (Option.bind · finish) (run_quoted text tokens rest)
  | number value =>
      exact finish_run_wordText value.text_ne_nil (fun _ => isWordCharacter_of_mem_text)
        (wordToken?_text legible) (ends rfl) tokens
  | null => exact finish_run_wordText (by decide) (List.all_eq_true.mp rfl) rfl (ends rfl) tokens
  | bool value =>
      cases value with
      | false =>
          exact finish_run_wordText (by decide) (List.all_eq_true.mp rfl) rfl (ends rfl) tokens
      | true =>
          exact finish_run_wordText (by decide) (List.all_eq_true.mp rfl) rfl (ends rfl) tokens
  | openArray => rfl
  | closeArray => rfl
  | openObject => rfl
  | closeObject => rfl
  | comma => rfl
  | colon => rfl

theorem Spells.finish_run {text : List Char} {tokens : List Token} (spells : Spells text tokens)
    (earlier : List Token) :
    (Lexer.run ⟨.idle, earlier⟩ text).bind Lexer.finish = some (earlier.reverse ++ tokens) := by
  -- The tokens read so far only grow, so the induction is over all of them.
  induction spells generalizing earlier with
  | done => exact congrArg some (List.append_nil _).symm
  | blank isBlank _ induction =>
      rw [Lexer.run_cons, Lexer.step]
      simp only
      rw [Lexer.start, if_pos isBlank, Option.bind_some, induction]
  | token legible ends _ induction =>
      rw [Lexer.finish_run_token legible ends, induction, List.reverse_cons, List.append_assoc,
        List.singleton_append]
  | string spells _ induction =>
      rw [Lexer.run_string spells, induction, List.reverse_cons, List.append_assoc,
        List.singleton_append]

theorem Spells.tokens?_eq {text : List Char} {tokens : List Token} (spells : Spells text tokens) :
    tokens? text = some tokens :=
  spells.finish_run []

end RoleCatalog.Json

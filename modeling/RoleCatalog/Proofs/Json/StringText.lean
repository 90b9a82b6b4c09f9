import RoleCatalog.Json.Lexer

/-! # Strings in JSON text

A character of a string may be written as itself, by a short name or by its code, which
takes a pair of surrogates beyond 16 bits. The lexer reads all these spellings, and among
them the one that the writer chooses.
-/

namespace RoleCatalog.Json

/-- Four hexadecimal digits with the number that they give. -/
inductive HexCode : List Char → Nat → Prop where
  | digits {first second third fourth : Char} {a b c d : Nat}
      (isFirst : hexValue? first = some a) (isSecond : hexValue? second = some b)
      (isThird : hexValue? third = some c) (isFourth : hexValue? fourth = some d) :
      HexCode [first, second, third, fourth] (16 * (16 * (16 * a + b) + c) + d)

inductive SpellsCharacter : List Char → Char → Prop where
  | itself {character : Char} (visible : 32 ≤ character.toNat) (notQuote : character ≠ '"')
      (notBackslash : character ≠ '\\') : SpellsCharacter [character] character
  | named {name character : Char} (meaning : namedEscape? name = some character) :
      SpellsCharacter ['\\', name] character
  | code {digits : List Char} {character : Char} (code : HexCode digits character.toNat) :
      SpellsCharacter ('\\' :: 'u' :: digits) character
  | pair {first second : List Char} {high low : Nat} {character : Char}
      (firstCode : HexCode first high) (secondCode : HexCode second low)
      (isHigh : IsHighSurrogate high) (isLow : IsLowSurrogate low)
      (joined : character.toNat = 0x10000 + 0x400 * (high - 0xD800) + (low - 0xDC00)) :
      SpellsCharacter ('\\' :: 'u' :: (first ++ '\\' :: 'u' :: second)) character

/-- The text spells the characters of a string one after the other. -/
inductive SpellsString : List Char → List Char → Prop where
  | nil : SpellsString [] []
  | cons {piece spelling characters : List Char} {character : Char}
      (spells : SpellsCharacter piece character) (rest : SpellsString spelling characters) :
      SpellsString (piece ++ spelling) (character :: characters)

namespace Lexer

theorem run_cons (state : State) (character : Char) (rest : List Char) :
    run state (character :: rest) = (step state character).bind fun next => run next rest :=
  rfl

theorem run_hexCode {digits : List Char} {value : Nat} (code : HexCode digits value)
    (read : List Char) (high : Option Nat) (tokens : List Token) (rest : List Char) :
    run ⟨.code read high 4 0, tokens⟩ (digits ++ rest) =
      (finishCode read high value).bind fun mode => run ⟨mode, tokens⟩ rest := by
  cases code with
  | digits isFirst isSecond isThird isFourth =>
      simp only [List.cons_append, List.nil_append, run_cons, step, stepCode, isFirst, isSecond,
        isThird, isFourth, Option.bind_some, Option.bind_map, Function.comp_def, Nat.mul_zero,
        Nat.zero_add]

theorem not_surrogate (character : Char) :
    ¬ IsHighSurrogate character.toNat ∧ ¬ IsLowSurrogate character.toNat := by
  have valid : character.toNat.isValidChar := character.valid
  unfold Nat.isValidChar at valid
  omega

theorem run_spellsCharacter {piece : List Char} {character : Char}
    (spells : SpellsCharacter piece character) (read : List Char) (tokens : List Token)
    (rest : List Char) :
    run ⟨.text read, tokens⟩ (piece ++ rest) =
      run ⟨.text (character :: read), tokens⟩ rest := by
  cases spells with
  | itself visible notQuote notBackslash =>
      rw [List.singleton_append, run_cons, step]
      simp only
      rw [if_neg notQuote, if_neg notBackslash, if_neg (Nat.not_lt.mpr visible), Option.bind_some]
  | @named name _ meaning =>
      have notCode : name ≠ 'u' := by
        rintro rfl
        cases meaning
      have escaped : run ⟨.text read, tokens⟩ ('\\' :: name :: rest) =
          run ⟨.escape read, tokens⟩ (name :: rest) := rfl
      rw [List.cons_append, List.singleton_append, escaped, run_cons, step]
      simp only
      rw [if_neg notCode, meaning, Option.map_some, Option.bind_some]
  | @code digits _ code =>
      have begun : run ⟨.text read, tokens⟩ ('\\' :: 'u' :: (digits ++ rest)) =
          run ⟨.code read none 4 0, tokens⟩ (digits ++ rest) := rfl
      rw [List.cons_append, List.cons_append, begun, run_hexCode code, finishCode]
      rw [if_neg (not_surrogate character).1, if_neg (not_surrogate character).2,
        Option.bind_some, Char.ofNat_toNat]
  | @pair first second high low _ firstCode secondCode isHigh isLow joined =>
      have begun : run ⟨.text read, tokens⟩
            ('\\' :: 'u' :: (first ++ '\\' :: 'u' :: (second ++ rest))) =
          run ⟨.code read none 4 0, tokens⟩ (first ++ '\\' :: 'u' :: (second ++ rest)) := rfl
      have continued : run ⟨.lowEscape read high, tokens⟩ ('\\' :: 'u' :: (second ++ rest)) =
          run ⟨.code read (some high) 4 0, tokens⟩ (second ++ rest) := rfl
      simp only [List.cons_append, List.append_assoc]
      rw [begun, run_hexCode firstCode, finishCode]
      rw [if_pos isHigh, Option.bind_some, continued, run_hexCode secondCode, finishCode]
      rw [if_pos isLow, Option.bind_some, ← joined, Char.ofNat_toNat]

theorem run_spellsString {spelling characters : List Char}
    (spells : SpellsString spelling characters) (read : List Char) (tokens : List Token)
    (rest : List Char) :
    run ⟨.text read, tokens⟩ (spelling ++ '"' :: rest) =
      run ⟨.idle, .string (String.ofList (read.reverse ++ characters)) :: tokens⟩ rest := by
  induction spells generalizing read with
  | nil =>
      rw [List.append_nil]
      rfl
  | cons spells _ induction =>
      rw [List.append_assoc, run_spellsCharacter spells, induction, List.reverse_cons,
        List.append_assoc, List.singleton_append]

/-- A string is read from the text between two quotation marks. -/
theorem run_string {spelling : List Char} {value : String}
    (spells : SpellsString spelling value.toList) (tokens : List Token) (rest : List Char) :
    run ⟨.idle, tokens⟩ ('"' :: (spelling ++ '"' :: rest)) =
      run ⟨.idle, .string value :: tokens⟩ rest := by
  have opened : run ⟨.idle, tokens⟩ ('"' :: (spelling ++ '"' :: rest)) =
      run ⟨.text [], tokens⟩ (spelling ++ '"' :: rest) := rfl
  rw [opened, run_spellsString spells, List.reverse_nil, List.nil_append, String.ofList_toList]

end Lexer

/-! ## The spelling of the writer -/

theorem hexValue?_hexDigit {value : Nat} (small : value < 16) :
    hexValue? (hexDigit value) = some value := by
  have all : ∀ value < 16, hexValue? (hexDigit value) = some value := by decide
  exact all value small

/-- A control character has two hexadecimal digits. -/
theorem hexCode_of_control {code : Nat} (control : code < 32) :
    HexCode ['0', '0', hexDigit (code / 16), hexDigit (code % 16)] code := by
  have digits : HexCode ['0', '0', hexDigit (code / 16), hexDigit (code % 16)]
      (16 * (16 * (16 * 0 + 0) + code / 16) + code % 16) :=
    .digits rfl rfl (hexValue?_hexDigit (by omega)) (hexValue?_hexDigit (by omega))
  have value : 16 * (16 * (16 * 0 + 0) + code / 16) + code % 16 = code := by omega
  rwa [value] at digits

theorem spellsCharacter_escapeCharacter (character : Char) :
    SpellsCharacter (escapeCharacter character) character := by
  unfold escapeCharacter
  split
  · exact .named rfl
  · exact .named rfl
  · exact .named rfl
  · exact .named rfl
  · exact .named rfl
  · exact .named rfl
  · exact .named rfl
  · rename_i notQuote notBackslash _ _ _ _ _
    split
    · rename_i control
      exact .code (hexCode_of_control control)
    · rename_i visible
      exact .itself (Nat.not_lt.mp visible) notQuote notBackslash

theorem spellsString_escaped (characters : List Char) :
    SpellsString (characters.flatMap escapeCharacter) characters := by
  induction characters with
  | nil => exact .nil
  | cons character later induction =>
      rw [List.flatMap_cons]
      exact .cons (spellsCharacter_escapeCharacter character) induction

end RoleCatalog.Json

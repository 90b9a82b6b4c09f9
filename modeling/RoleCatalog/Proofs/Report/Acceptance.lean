import RoleCatalog.Proofs.Json.Readable
import RoleCatalog.Report.Json

/-! # Texts that hold a report

Of the texts with an object, those hold a report that give its kind, its code and its
message once each, as strings and anywhere among their members. Of the texts with an array,
those hold one that have the three strings and nothing else in it. It makes no difference
how the strings are spelled and where blanks stand. All other such texts are refused.
-/

namespace RoleCatalog.Report

open Json

/-- All numbers in the value are signed integers of 64 bits. -/
def OnlyIntegers (value : Value) : Prop :=
  ∀ number, Token.number number ∈ value.tokens →
    ∃ integer, Text.FitsInt64 integer ∧ number = .ofInt integer

/-- How each kind of report is named. -/
def kindNames : List (String × Kind) :=
  [("user_input", .userInput), ("not_found", .notFound), ("conflict", .conflict),
    ("internal", .internal)]

/-- The key occurs once, and what is under it is the string. -/
structure GivesOnce (members : List (String × Value)) (key text : String) : Prop where
  once : (members.map Prod.fst).count key = 1
  given : (key, .string text) ∈ members

/-- The members tell the kind, the code and the message of the report. -/
structure Tells (members : List (String × Value)) (report : Report) : Prop where
  kind : ∃ name, (name, report.kind) ∈ kindNames ∧ GivesOnce members "type" name
  code : GivesOnce members "code" report.code
  message : GivesOnce members "message" report.message

/-! ## What is read from a value -/

theorem ofLabel?_eq_some_iff {name : String} {kind : Kind} :
    Kind.ofLabel? name = some kind ↔ (name, kind) ∈ kindNames := by
  constructor
  · intro known
    have label := List.find?_some known
    rw [beq_iff_eq] at label
    rw [← label]
    cases kind <;> decide
  · intro member
    simp only [kindNames, List.mem_cons, List.not_mem_nil, or_false, Prod.mk.injEq] at member
    rcases member with ⟨rfl, rfl⟩ | ⟨rfl, rfl⟩ | ⟨rfl, rfl⟩ | ⟨rfl, rfl⟩ <;> decide

theorem ofParts?_eq_some_iff {name code message : String} {report : Report} :
    ofParts? name code message = some report ↔
      (name, report.kind) ∈ kindNames ∧ code = report.code ∧ message = report.message := by
  rw [ofParts?, Option.map_eq_some_iff]
  constructor
  · rintro ⟨kind, known, rfl⟩
    exact ⟨ofLabel?_eq_some_iff.mp known, rfl, rfl⟩
  · rintro ⟨known, rfl, rfl⟩
    exact ⟨report.kind, ofLabel?_eq_some_iff.mpr known, rfl⟩

theorem givesOnce_iff {members : List (String × Value)} {key text : String} :
    GivesOnce members key text ↔
      (members.filter fun member => member.1 == key) = [(key, .string text)] := by
  have occurrences : (members.map Prod.fst).count key =
      (members.filter fun member => member.1 == key).length := by
    rw [List.count, List.countP_map, List.countP_eq_length_filter]
    rfl
  constructor
  · rintro ⟨once, given⟩
    rw [occurrences] at once
    rcases List.length_eq_one_iff.mp once with ⟨member, sole⟩
    have kept : (key, .string text) ∈ members.filter fun member => member.1 == key :=
      List.mem_filter.mpr ⟨given, beq_self_eq_true key⟩
    rw [sole, List.mem_singleton] at kept
    rw [sole, kept]
  · intro sole
    have kept : (key, .string text) ∈ members.filter fun member => member.1 == key :=
      sole ▸ List.mem_singleton_self _
    exact ⟨occurrences.trans (congrArg List.length sole), (List.mem_filter.mp kept).1⟩

theorem soleText?_eq_some_iff {members : List (String × Value)} {key text : String} :
    soleText? members key = some text ↔ GivesOnce members key text := by
  rw [givesOnce_iff, soleText?]
  split
  · rename_i found given sole
    -- The key of a member that is kept is the one that was asked for.
    have kept : (found, Value.string given) ∈ members.filter fun member => member.1 == key :=
      sole ▸ List.mem_singleton_self _
    have sameKey : found = key := beq_iff_eq.mp (List.mem_filter.mp kept).2
    rw [sole, sameKey]
    simp
  · rename_i other
    simp only [reduceCtorEq, false_iff]
    exact other key text

theorem ofMembers?_eq_some_iff {members : List (String × Value)} {report : Report} :
    ofMembers? members = some report ↔ Tells members report := by
  simp only [ofMembers?, Option.bind_eq_bind, Option.bind_eq_some_iff, soleText?_eq_some_iff,
    ofParts?_eq_some_iff]
  constructor
  · rintro ⟨name, kind, _, code, _, message, known, rfl, rfl⟩
    exact ⟨⟨name, known, kind⟩, code, message⟩
  · rintro ⟨⟨name, known, kind⟩, code, message⟩
    exact ⟨name, kind, _, code, _, message, known, rfl, rfl⟩

theorem ofItems?_eq_some_iff {items : List Value} {report : Report} :
    ofItems? items = some report ↔
      ∃ name, (name, report.kind) ∈ kindNames ∧
        items = [.string name, .string report.code, .string report.message] := by
  constructor
  · intro read
    unfold ofItems? at read
    split at read
    · rcases ofParts?_eq_some_iff.mp read with ⟨known, rfl, rfl⟩
      exact ⟨_, known, rfl⟩
    · cases read
  · rintro ⟨name, known, rfl⟩
    exact ofParts?_eq_some_iff.mpr ⟨known, rfl, rfl⟩

/-! ## What is read from a text -/

theorem fitsWord_of_fitsInt64 {integer : Int} (fits : Text.FitsInt64 integer) :
    FitsWord integer := by
  omega

theorem OnlyIntegers.readable {value : Value} (integers : OnlyIntegers value) {bound : Nat}
    (shallow : value.depth ≤ bound) : value.Readable bound where
  legible := by
    intro token member
    cases token with
    | number number =>
        rcases integers number member with ⟨integer, fits, rfl⟩
        exact legible_ofInt (fitsWord_of_fitsInt64 fits)
    | _ => trivial
  shallow := shallow

theorem ofText_eq_ok_iff {text : String} {value : Value}
    (holds : Value.ofText? text = some value) {report : Report} :
    ofText text = .ok report ↔ ofJson? value = some report := by
  rw [ofText, holds, Option.bind_some]
  cases ofJson? value <;> simp

theorem ofText?_of_readable {text : String} {value : Value} {bound : Nat}
    (readable : value.Readable bound) (small : bound < nestingLimit)
    (written : Written text.toList value.tokens) : Value.ofText? text = some value := by
  rw [← Value.ofText?_of_written written readable.legible
    (Nat.lt_of_le_of_lt readable.shallow small), String.ofList_toList]

/-- A report is read from an object exactly if the members tell it, and from an array exactly
if the items are its three strings. What is not read has a report of its own. -/
theorem reading_accepts_tagged_values :
    (∀ (members : List (String × Value)) (text : String),
      (∀ member ∈ members, OnlyIntegers member.2 ∧ member.2.depth < 100) →
      Written text.toList (Value.ofMembers members).tokens →
      ∀ report, ofText text = .ok report ↔ Tells members report) ∧
    (∀ (items : List Value) (text : String),
      (∀ item ∈ items, OnlyIntegers item ∧ item.depth < 100) →
      Written text.toList (Value.ofList items).tokens →
      ∀ report, ofText text = .ok report ↔
        ∃ name, (name, report.kind) ∈ kindNames ∧
          items = [.string name, .string report.code, .string report.message]) ∧
    ∀ text error, ofText text = .error error →
      error.kind = .internal ∧ error.code = "json_encode" := by
  refine ⟨?_, ?_, ?_⟩
  · intro members text plain written report
    have readable : (Value.ofMembers members).Readable 100 :=
      .ofMembers fun member isMember =>
        (plain member isMember).1.readable (Nat.le_of_lt_succ (plain member isMember).2)
    have holds := ofText?_of_readable readable (by decide) written
    rw [ofText_eq_ok_iff holds, ← ofMembers?_eq_some_iff]
    exact iff_of_eq (congrArg (ofMembers? · = some report) (Members.toList_ofList members))
  · intro items text plain written report
    have readable : (Value.ofList items).Readable 100 :=
      .ofList fun item isItem =>
        (plain item isItem).1.readable (Nat.le_of_lt_succ (plain item isItem).2)
    have holds := ofText?_of_readable readable (by decide) written
    rw [ofText_eq_ok_iff holds, ← ofItems?_eq_some_iff]
    exact iff_of_eq (congrArg (ofItems? · = some report) (Values.toList_ofList items))
  · intro text error refused
    unfold ofText at refused
    split at refused
    · cases refused
    · cases refused
      exact ⟨rfl, rfl⟩

/-- The kind comes after a member that nothing reads, under a key with an escape. -/
theorem reading_accepts_late_kind :
    ofText ("\x7b \"at\":[7, null],\"\\u0074ype\" :\"conflict\",\"at\":1," ++
      "\"message\":\"m\",\"code\":\"c\"\x7d\n") = .ok ⟨.conflict, "c", "m"⟩ ∧
    ofText "[\"conflict\",\"c\", \"m\"]" = .ok ⟨.conflict, "c", "m"⟩ := by
  have law := reading_accepts_tagged_values
  have gap : isJsonBlank ' ' = true := rfl
  have newline : isJsonBlank '\n' = true := rfl
  have hexCode : HexCode ['0', '0', '7', '4'] 't'.toNat :=
    .digits (a := 0) (b := 0) (c := 7) (d := 4) rfl rfl rfl rfl
  have escaped : SpellsString ['\\', 'u', '0', '0', '7', '4', 'y', 'p', 'e'] "type".toList :=
    .cons (.code hexCode) (spellsString_escaped ['y', 'p', 'e'])
  have string (value : String) : OnlyIntegers (.string value) := by
    intro number member
    simp [Value.tokens] at member
  have list : OnlyIntegers (.ofList [.ofInt 7, .null]) := by
    intro number member
    simp [Value.ofList, Values.ofList, Value.ofInt, Value.tokens, Values.laterTokens] at member
    exact ⟨7, by decide, member⟩
  have integer : OnlyIntegers (.ofInt 1) := by
    intro number member
    simp [Value.ofInt, Value.tokens] at member
    exact ⟨1, by decide, member⟩
  refine ⟨(law.1 [("at", .ofList [.ofInt 7, .null]), ("type", .string "conflict"),
      ("at", .ofInt 1), ("message", .string "m"), ("code", .string "c")] _ ?_ ?_ _).mpr ?_,
    (law.2.1 [.string "conflict", .string "c", .string "m"] _ ?_ ?_ _).mpr ?_⟩
  · simp only [List.forall_mem_cons]
    exact ⟨⟨list, by decide⟩, ⟨string _, by decide⟩, ⟨integer, by decide⟩,
      ⟨string _, by decide⟩, ⟨string _, by decide⟩, nofun⟩
  · have written := Written.token .openObject <| .blank gap <|
      .token (.string "at") <| .token .colon <| .token .openArray <| .token (.number (.ofInt 7)) <|
      .token .comma <| .blank gap <| .token .null <| .token .closeArray <|
      .token .comma <| .string escaped <| .blank gap <| .token .colon <|
      .token (.string "conflict") <| .token .comma <| .token (.string "at") <|
      .token .colon <| .token (.number (.ofInt 1)) <| .token .comma <|
      .token (.string "message") <| .token .colon <| .token (.string "m") <|
      .token .comma <| .token (.string "code") <| .token .colon <| .token (.string "c") <|
      .token .closeObject <| .blank newline .done
    exact written
  · exact ⟨⟨"conflict", by decide, by decide, by decide⟩, ⟨by decide, by decide⟩,
      ⟨by decide, by decide⟩⟩
  · simp only [List.forall_mem_cons]
    exact ⟨⟨string _, by decide⟩, ⟨string _, by decide⟩, ⟨string _, by decide⟩, nofun⟩
  · have written := Written.token .openArray <| .token (.string "conflict") <| .token .comma <|
      .token (.string "c") <| .token .comma <| .blank gap <| .token (.string "m") <|
      .token .closeArray .done
    exact written
  · exact ⟨"conflict", by decide, rfl⟩

end RoleCatalog.Report

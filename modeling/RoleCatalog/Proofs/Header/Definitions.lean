import RoleCatalog.Proofs.Header.RoundTrip

/-! # The definitions in a text

Any text is read line by line. A line defines something when its first word is the
keyword and two more words follow it. Reading gives the second and the third word of
each of these lines, or stops at the first one whose third word is no integer of 64
bits. No line acts on another, so two texts one after the other read as they do alone,
except that the lines of the second are counted on from those of the first.
-/

namespace RoleCatalog.Header

open Text

/-! ## The lines of a text -/

/-- A line ends at a line feed, or at a carriage return and a line feed. The last line
need not end. -/
def endedLines : List Char → List (List Char)
  | [] => []
  | '\n' :: rest => [] :: endedLines rest
  | '\r' :: '\n' :: rest => [] :: endedLines rest
  | character :: rest =>
      match endedLines rest with
      | [] => [[character]]
      | line :: later => (character :: line) :: later

example : endedLines "a\r\n\n\rb\r".toList = [['a'], [], ['\r', 'b', '\r']] := by decide

theorem lines_newline (rest : List Char) : lines ('\n' :: rest) = [] :: lines rest := by
  rw [lines, List.splitOn, List.splitOnP_cons_eq_if_modifyHead, if_pos (beq_self_eq_true _)]
  rfl

theorem lines_cons {character : Char} (other : character ≠ '\n') (rest : List Char) :
    lines (character :: rest) = (lines rest).modifyHead (character :: ·) := by
  rw [lines, List.splitOn, List.splitOnP_cons_eq_if_modifyHead, if_neg (by simpa using other)]
  rfl

theorem lines_append (left right : List Char) :
    lines (left ++ '\n' :: right) = lines left ++ lines right :=
  List.splitOnP_append_cons left right (beq_self_eq_true '\n')

theorem length_lines (text : List Char) : (lines text).length = text.count '\n' + 1 := by
  induction text with
  | nil => rfl
  | cons character rest induction =>
      by_cases newline : character = '\n'
      · rw [newline, lines_newline, List.length_cons, induction, List.count_cons_self]
      · rw [lines_cons newline, List.length_modifyHead, induction,
          List.count_cons_of_ne newline]

/-- A piece between two line feeds is a line, perhaps with the carriage return that ends
the line. -/
def Holds (piece line : List Char) : Prop :=
  piece = line ∨ piece = line ++ ['\r']

theorem Holds.cons {piece line : List Char} (holds : Holds piece line) (character : Char) :
    Holds (character :: piece) (character :: line) :=
  holds.imp (congrArg _) (congrArg _)

theorem Holds.words_eq {piece line : List Char} (holds : Holds piece line) :
    words piece = words line := by
  rcases holds with rfl | rfl
  · rfl
  · exact (words_append_blank rfl line []).trans (List.append_nil _)

/-- Splitting at line feeds alone leaves an empty piece after the last of them. -/
theorem exists_pieces (text : List Char) :
    ∃ pieces, List.Forall₂ Holds pieces (endedLines text) ∧
      (lines text = pieces ∨ lines text = pieces ++ [[]]) := by
  fun_induction endedLines text with
  | case1 => exact ⟨[], .nil, .inr rfl⟩
  | case2 rest induction =>
      rcases induction with ⟨pieces, held, same⟩
      rw [lines_newline]
      exact ⟨[] :: pieces, .cons (.inl rfl) held, same.imp (congrArg _) (congrArg _)⟩
  | case3 rest induction =>
      rcases induction with ⟨pieces, held, same⟩
      rw [lines_cons (by decide), lines_newline]
      exact ⟨['\r'] :: pieces, .cons (.inr rfl) held, same.imp (congrArg _) (congrArg _)⟩
  | case4 character rest other _ ended induction =>
      rcases induction with ⟨pieces, held, same⟩
      rw [ended] at held
      cases held
      rw [lines_cons other]
      refine ⟨[[character]], .cons (.inl rfl) .nil, .inl ?_⟩
      rcases same with same | same
      · exact absurd same (List.splitOnP_ne_nil _ rest)
      · rw [same]
        rfl
  | case5 character rest other _ line later ended induction =>
      rcases induction with ⟨pieces, held, same⟩
      rw [ended] at held
      cases held with
      | cons holds held =>
          rw [lines_cons other]
          exact ⟨_ :: _, .cons (holds.cons character) held,
            same.imp (congrArg _) (congrArg _)⟩

/-! ## One line -/

/-- The line gives a value to a symbol. -/
def Gives (line symbol value : List Char) : Prop :=
  ∃ later, words line = "#define".toList :: symbol :: value :: later

/-- A numeral for an integer of 64 bits with a sign. -/
def Spells (text : List Char) (number : Int) : Prop :=
  Numeral text number ∧ -2 ^ 63 ≤ number ∧ number < 2 ^ 63

/-- The line gives something else than an integer for a value. -/
def Misdefines (line symbol value : List Char) : Prop :=
  Gives line symbol value ∧ ∀ number, ¬ Spells value number

def Misdefined (line : List Char) : Prop :=
  ∃ symbol value, Misdefines line symbol value

theorem definition?_congr {left right : List Char} (same : words left = words right) :
    definition? left = definition? right := by
  rw [definition?, definition?, same]

theorem definition?_eq_some_iff {line symbol value : List Char} :
    definition? line = some (symbol, value) ↔ Gives line symbol value := by
  constructor
  · intro defined
    unfold definition? at defined
    split at defined
    · rename_i isWords
      split_ifs at defined with isKeyword
      cases defined
      exact ⟨_, isKeyword ▸ isWords⟩
    · cases defined
  · rintro ⟨later, isWords⟩
    exact definition?_of_words_eq isWords

theorem definition?_eq_none_iff {line : List Char} :
    definition? line = none ↔ ∀ symbol value, ¬ Gives line symbol value := by
  simp only [Option.eq_none_iff_forall_ne_some, Prod.forall, ne_eq, definition?_eq_some_iff]

theorem readInt64_eq_some_iff_spells {text : List Char} {number : Int} :
    readInt64 text = some number ↔ Spells text number :=
  readInt64_eq_some_iff

theorem readInt64_eq_none_iff {text : List Char} :
    readInt64 text = none ↔ ∀ number, ¬ Spells text number := by
  simp only [Option.eq_none_iff_forall_ne_some, ne_eq, readInt64_eq_some_iff_spells]

/-! ## Reading on from one line -/

theorem readLines_passed {line : List Char} (nothing : ∀ symbol value, ¬ Gives line symbol value)
    (number : Nat) (later : List (List Char)) :
    readLines number (line :: later) = readLines (number + 1) later := by
  rw [readLines, definition?_eq_none_iff.mpr nothing]

theorem readLines_binding {line symbol value : List Char} (gives : Gives line symbol value)
    {integer : Int} (spells : Spells value integer) (number : Nat) (later : List (List Char)) :
    readLines number (line :: later) =
      (readLines (number + 1) later).map (⟨String.ofList symbol, integer⟩ :: ·) := by
  simp only [readLines, definition?_eq_some_iff.mpr gives,
    readInt64_eq_some_iff_spells.mpr spells]

theorem readLines_misdefined {line symbol value : List Char}
    (misdefines : Misdefines line symbol value) (number : Nat) (later : List (List Char)) :
    readLines number (line :: later) =
      .error ⟨number, String.ofList value, String.ofList symbol⟩ := by
  simp only [readLines, definition?_eq_some_iff.mpr misdefines.1,
    readInt64_eq_none_iff.mpr misdefines.2]

theorem line_cases (line : List Char) :
    (∀ symbol value, ¬ Gives line symbol value) ∨
    (∃ symbol value integer, Gives line symbol value ∧ Spells value integer) ∨
    Misdefined line := by
  by_cases given : ∃ symbol value, Gives line symbol value
  · rcases given with ⟨symbol, value, gives⟩
    by_cases integral : ∃ integer, Spells value integer
    · rcases integral with ⟨integer, spells⟩
      exact .inr (.inl ⟨symbol, value, integer, gives, spells⟩)
    · exact .inr (.inr ⟨symbol, value, gives, not_exists.mp integral⟩)
  · exact .inl fun symbol value gives => given ⟨symbol, value, gives⟩

theorem readLines_append (number : Nat) (left right : List (List Char)) :
    readLines number (left ++ right) =
      (readLines number left).bind fun earlier =>
        (readLines (number + left.length) right).map (earlier ++ ·) := by
  induction left generalizing number with
  | nil => exact (id_map _).symm
  | cons line rest induction =>
      rw [List.cons_append, List.length_cons, Nat.add_comm rest.length, ← Nat.add_assoc]
      rcases line_cases line with nothing | ⟨symbol, value, integer, gives, spells⟩ |
        ⟨symbol, value, misdefines⟩
      · rw [readLines_passed nothing, readLines_passed nothing, induction]
      · rw [readLines_binding gives spells, readLines_binding gives spells, induction]
        cases readLines (number + 1) rest with
        | error cause => rfl
        | ok bindings => cases readLines (number + 1 + rest.length) right <;> rfl
      · rw [readLines_misdefined misdefines, readLines_misdefined misdefines]
        rfl

/-- The same complaint about a line that stands further down. -/
def BadDefine.moved (distance : Nat) (cause : BadDefine) : BadDefine :=
  { cause with lineNumber := cause.lineNumber + distance }

theorem readLines_add (number distance : Nat) (texts : List (List Char)) :
    readLines (number + distance) texts =
      (readLines number texts).mapError (BadDefine.moved distance) := by
  induction texts generalizing number with
  | nil => rfl
  | cons line rest induction =>
      rcases line_cases line with nothing | ⟨symbol, value, integer, gives, spells⟩ |
        ⟨symbol, value, misdefines⟩
      · rw [readLines_passed nothing, readLines_passed nothing, Nat.add_right_comm, induction]
      · rw [readLines_binding gives spells, readLines_binding gives spells, Nat.add_right_comm,
          induction]
        cases readLines (number + 1) rest <;> rfl
      · rw [readLines_misdefined misdefines, readLines_misdefined misdefines]
        rfl

theorem readLines_pieces {pieces texts : List (List Char)}
    (held : List.Forall₂ Holds pieces texts) (number : Nat) :
    readLines number pieces = readLines number texts := by
  induction held generalizing number with
  | nil => rfl
  | cons holds _ induction =>
      simp only [readLines, definition?_congr holds.words_eq, induction]

theorem parse_eq_readLines (text : String) :
    parse text = readLines 1 (endedLines text.toList) := by
  rcases exists_pieces text.toList with ⟨pieces, held, same⟩
  rw [← readLines_pieces held, parse]
  rcases same with same | same
  · rw [same]
  · rw [same, readLines_append]
    cases readLines 1 pieces with
    | error cause => rfl
    | ok bindings => exact congrArg Except.ok (List.append_nil bindings)

/-! ## Reading all the lines -/

/-- The bindings are what the lines give, in order, where each value is an integer. -/
inductive Reads : List (List Char) → List Binding → Prop
  | nil : Reads [] []
  | passed {line : List Char} {later : List (List Char)} {bindings : List Binding}
      (nothing : ∀ symbol value, ¬ Gives line symbol value) (reads : Reads later bindings) :
      Reads (line :: later) bindings
  | binding {line symbol value : List Char} {integer : Int} {later : List (List Char)}
      {bindings : List Binding} (gives : Gives line symbol value)
      (spells : Spells value integer) (reads : Reads later bindings) :
      Reads (line :: later) (⟨String.ofList symbol, integer⟩ :: bindings)

/-- The complaint is about the first misdefined line. -/
inductive StopsAt : List (List Char) → BadDefine → Prop
  | intro {earlier : List (List Char)} {line symbol value : List Char}
      (sound : ∀ other ∈ earlier, ¬ Misdefined other)
      (misdefines : Misdefines line symbol value) (later : List (List Char)) :
      StopsAt (earlier ++ line :: later)
        ⟨earlier.length + 1, String.ofList value, String.ofList symbol⟩

theorem Reads.readLines_eq {texts : List (List Char)} {bindings : List Binding}
    (reads : Reads texts bindings) (number : Nat) : readLines number texts = .ok bindings := by
  induction reads generalizing number with
  | nil => rfl
  | passed nothing _ induction => rw [readLines_passed nothing, induction]
  | binding gives spells _ induction =>
      rw [readLines_binding gives spells, induction]
      rfl

theorem exists_reads {texts : List (List Char)} (sound : ∀ line ∈ texts, ¬ Misdefined line) :
    ∃ bindings, Reads texts bindings := by
  induction texts with
  | nil => exact ⟨[], .nil⟩
  | cons line later induction =>
      rw [List.forall_mem_cons] at sound
      rcases induction sound.2 with ⟨bindings, reads⟩
      rcases line_cases line with nothing | ⟨symbol, value, integer, gives, spells⟩ | misdefined
      · exact ⟨_, .passed nothing reads⟩
      · exact ⟨_, .binding gives spells reads⟩
      · exact absurd misdefined sound.1

theorem StopsAt.readLines_eq {texts : List (List Char)} {cause : BadDefine}
    (stops : StopsAt texts cause) : readLines 1 texts = .error cause := by
  rcases stops with ⟨sound, misdefines, later⟩
  rcases exists_reads sound with ⟨bindings, reads⟩
  rw [readLines_append, reads.readLines_eq, readLines_misdefined misdefines, Nat.add_comm]
  rfl

theorem StopsAt.exists_misdefined {texts : List (List Char)} {cause : BadDefine}
    (stops : StopsAt texts cause) : ∃ line ∈ texts, Misdefined line := by
  rcases stops with ⟨-, misdefines, later⟩
  exact ⟨_, List.mem_append_cons_self, _, _, misdefines⟩

theorem exists_stopsAt {texts : List (List Char)}
    (misdefined : ∃ line ∈ texts, Misdefined line) : ∃ cause, StopsAt texts cause := by
  classical
  have found : (texts.find? fun line => decide (Misdefined line)).isSome := by
    simpa using misdefined
  rcases Option.isSome_iff_exists.mp found with ⟨line, first⟩
  rcases List.find?_eq_some_iff_append.mp first with ⟨here, earlier, later, rfl, sound⟩
  rcases of_decide_eq_true here with ⟨symbol, value, misdefines⟩
  exact ⟨_, .intro (fun other member => by simpa using sound other member) misdefines later⟩

theorem readLines_eq_ok_iff {texts : List (List Char)} {bindings : List Binding} :
    readLines 1 texts = .ok bindings ↔ Reads texts bindings := by
  refine ⟨fun read => ?_, fun reads => reads.readLines_eq 1⟩
  by_cases misdefined : ∃ line ∈ texts, Misdefined line
  · rcases exists_stopsAt misdefined with ⟨cause, stops⟩
    cases read.symm.trans stops.readLines_eq
  · rcases exists_reads (fun line member bad => misdefined ⟨line, member, bad⟩) with
      ⟨others, reads⟩
    cases read.symm.trans (reads.readLines_eq 1)
    exact reads

theorem readLines_eq_error_iff {texts : List (List Char)} {cause : BadDefine} :
    readLines 1 texts = .error cause ↔ StopsAt texts cause := by
  refine ⟨fun read => ?_, StopsAt.readLines_eq⟩
  by_cases misdefined : ∃ line ∈ texts, Misdefined line
  · rcases exists_stopsAt misdefined with ⟨other, stops⟩
    cases read.symm.trans stops.readLines_eq
    exact stops
  · rcases exists_reads (fun line member bad => misdefined ⟨line, member, bad⟩) with
      ⟨bindings, reads⟩
    cases read.symm.trans (reads.readLines_eq 1)

/-! ## Two texts, one after the other -/

theorem parse_append (left right : String) :
    parse (left ++ "\n" ++ right) =
      (parse left).bind fun earlier =>
        ((parse right).map (earlier ++ ·)).mapError
          (BadDefine.moved (left.toList.count '\n' + 1)) := by
  have text : (left ++ "\n" ++ right).toList = left.toList ++ '\n' :: right.toList := by simp
  rw [parse, text, lines_append, readLines_append, length_lines, readLines_add]
  congr 1
  funext earlier
  rw [← parse]
  cases parse right <;> rfl

/-- Reading fails exactly if a line is misdefined, and then complains about the first of
these. Otherwise it gives all bindings and nothing else. Of two texts with a line feed
between them the first is read as it is alone. If it does not fail, the second follows,
and the lines of the first count for the number in a complaint about the second. -/
theorem parse_definitions :
    (∀ text : String,
      ((∃ cause, parse text = .error cause) ↔
        ∃ line ∈ endedLines text.toList, Misdefined line) ∧
      (∀ cause, parse text = .error cause ↔ StopsAt (endedLines text.toList) cause) ∧
      ∀ bindings, parse text = .ok bindings ↔ Reads (endedLines text.toList) bindings) ∧
    (∀ cause : BadDefine, cause.report =
      ⟨.userInput, "bad_define", "line " ++ toString cause.lineNumber ++ ": value '" ++
        cause.value ++ "' of " ++ cause.symbol ++ " is not an integer"⟩) ∧
    ∀ left right : String,
      (∀ earlier, parse left = .ok earlier →
        parse (left ++ "\n" ++ right) =
          match parse right with
          | .ok later => .ok (earlier ++ later)
          | .error cause => .error
              ⟨cause.lineNumber + (1 + left.toList.count '\n'), cause.value, cause.symbol⟩) ∧
      ∀ cause, parse left = .error cause → parse (left ++ "\n" ++ right) = .error cause := by
  refine ⟨fun text => ?_, fun _ => rfl, fun left right => ⟨fun earlier read => ?_,
    fun cause failed => ?_⟩⟩
  · rw [parse_eq_readLines]
    refine ⟨⟨?_, ?_⟩, fun _ => readLines_eq_error_iff, fun _ => readLines_eq_ok_iff⟩
    · rintro ⟨cause, failed⟩
      exact (readLines_eq_error_iff.mp failed).exists_misdefined
    · intro misdefined
      exact (exists_stopsAt misdefined).imp fun _ => StopsAt.readLines_eq
  · rw [parse_append, read, Nat.add_comm 1]
    cases parse right <;> rfl
  · rw [parse_append, failed]
    rfl

/-- The guard has no value, and the last value is the least integer. -/
def signedText : String :=
  "#define GUARD_H\r\n\t#define\u00a0First +0042 6\r\n#define Last -9223372036854775808"

/-- The value is one more than the greatest integer. -/
def largeText : String :=
  "\n#define Large 9223372036854775808"

theorem parse_definitions_signed :
    parse signedText = .ok [⟨"First", 42⟩, ⟨"Last", -9223372036854775808⟩] ∧
    parse largeText = .error ⟨2, "9223372036854775808", "Large"⟩ ∧
    parse (signedText ++ "\n" ++ largeText) = .error ⟨5, "9223372036854775808", "Large"⟩ ∧
    parse (largeText ++ "\n" ++ signedText) = .error ⟨2, "9223372036854775808", "Large"⟩ := by
  have signed : parse signedText = .ok [⟨"First", 42⟩, ⟨"Last", -9223372036854775808⟩] := by
    decide +kernel
  have large : parse largeText = .error ⟨2, "9223372036854775808", "Large"⟩ := by
    decide +kernel
  refine ⟨signed, large, ?_, (parse_definitions.2.2 _ _).2 _ large⟩
  rw [(parse_definitions.2.2 _ _).1 _ signed, large]
  rfl

end RoleCatalog.Header

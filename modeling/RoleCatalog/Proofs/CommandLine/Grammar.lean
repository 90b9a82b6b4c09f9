import RoleCatalog.CommandLine
import Mathlib.Data.List.Infix

/-! # The grammar of a command line

A command line is no action or one action, or it asks for help after no action or one. Any
other is rejected for the argument at which it stops being no action or one. The name of a
table can be any text, also one that looks like a flag.
-/

namespace RoleCatalog.CommandLine

/-- The arguments that ask for the action. -/
def Action.arguments : Action → List String
  | .describe => ["--describe"]
  | .roles => ["--roles"]
  | .table name => ["--table", name]
  | .header => ["--header"]
  | .check => ["--check"]

/-- The arguments are no action or one. -/
inductive Opens : List String → Prop
  | nothing : Opens []
  | action (action : Action) : Opens action.arguments

/-- The arguments are no action or one as far as the argument, and no further. -/
inductive StopsAt (arguments : List String) (argument : String) (rest : List String) : Prop
  | intro {opening : List String} (parts : arguments = opening ++ argument :: rest)
      (opens : Opens opening)
      (longest : ∀ longer, Opens longer → longer <+: arguments →
        longer.length ≤ opening.length)

/-- Why the arguments are rejected, by the argument at which they stop. -/
inductive Rejects (arguments : List String) : String → Prop
  | missingTableName (stops : StopsAt arguments "--table" []) :
      Rejects arguments "--table requires a table name"
  | severalActions {argument : String} {rest : List String} {action : Action}
      (stops : StopsAt arguments argument rest)
      (second : action.arguments <+: argument :: rest) :
      Rejects arguments "only one action may be given"
  | unknownArgument {argument : String} {rest : List String}
      (stops : StopsAt arguments argument rest)
      (named : ¬ (argument = "--table" ∧ rest = []))
      (noAction : ∀ action : Action, ¬ action.arguments <+: argument :: rest)
      (noHelp : argument ∉ ["-h", "--help"]) :
      Rejects arguments ("unknown argument '" ++ argument ++ "'")

/-- What the arguments mean. -/
inductive Means (arguments : List String) : Except String Request → Prop
  | nothing (empty : arguments = []) : Means arguments (.ok (.perform .check))
  | action {action : Action} (same : arguments = action.arguments) :
      Means arguments (.ok (.perform action))
  | help {opening rest : List String} {flag : String} (opens : Opens opening)
      (isHelp : flag ∈ ["-h", "--help"]) (parts : arguments = opening ++ flag :: rest) :
      Means arguments (.ok .help)
  | rejected {text : String} (rejects : Rejects arguments text) :
      Means arguments (.error text)

/-! ## Actions as arguments -/

theorem arguments_of_plainAction? {argument : String} {action : Action}
    (plain : plainAction? argument = some action) : action.arguments = [argument] := by
  have each : ∀ entry ∈ [("--describe", Action.describe), ("--roles", .roles),
      ("--header", .header), ("--check", .check)], entry.2.arguments = [entry.1] := by
    decide
  rcases List.lookup_eq_some_iff.mp plain with ⟨before, after, flags, -⟩
  rw [flags] at each
  exact each (argument, action) (List.mem_append_right before List.mem_cons_self)

theorem Action.exists_arguments_eq (action : Action) :
    ∃ flag names, action.arguments = flag :: names := by
  cases action <;> exact ⟨_, _, rfl⟩

/-- The arguments of one action are not the beginning of those of another. -/
theorem action_unique {arguments : List String} {first second : Action}
    (left : first.arguments <+: arguments) (right : second.arguments <+: arguments) :
    first = second := by
  rcases left with ⟨leftRest, rfl⟩
  rcases right with ⟨rightRest, same⟩
  cases first <;> cases second <;> simp_all [Action.arguments]

/-! ## One step of the reader -/

section Steps

variable (chosen : Option Action) (rest : List String)

theorem parseAfter_unnamed : parseAfter chosen ["--table"] = .error .missingTableName := by
  rw [parseAfter.eq_def]
  rfl

theorem parseAfter_help {flag : String} (isHelp : flag ∈ helpFlags) :
    parseAfter chosen (flag :: rest) = .ok .help := by
  have notTable : flag ≠ tableFlag := by
    intro same
    rw [same] at isHelp
    exact absurd isHelp (by decide)
  rw [parseAfter.eq_def]
  simp only [if_neg notTable, if_pos isHelp]

theorem parseAfter_unknown {argument : String} (notTable : argument ≠ tableFlag)
    (noHelp : argument ∉ helpFlags) (notPlain : plainAction? argument = none) :
    parseAfter chosen (argument :: rest) = .error (.unknownArgument argument) := by
  rw [parseAfter.eq_def]
  simp only [if_neg notTable, if_neg noHelp, notPlain]

/-- The first action is kept, and a second one is too many. -/
theorem parseAfter_action (action : Action) :
    parseAfter chosen (action.arguments ++ rest) =
      if chosen.isSome then .error .severalActions else parseAfter (some action) rest := by
  cases action <;>
  · rw [Action.arguments, parseAfter.eq_def]
    rfl

end Steps

theorem exists_chosen {opening : List String} (opens : Opens opening) :
    ∃ chosen : Option Action, (chosen.isSome ↔ opening ≠ []) ∧
      ∀ rest, parse (opening ++ rest) = parseAfter chosen rest := by
  cases opens with
  | nothing => exact ⟨none, by simp, fun _ => rfl⟩
  | action action =>
      rcases action.exists_arguments_eq with ⟨flag, names, equal⟩
      exact ⟨some action, by simp [equal], fun rest => parseAfter_action none rest action⟩

/-! ## How a list can begin -/

inductive Begins : List String → Prop
  | nothing : Begins []
  | action (action : Action) (rest : List String) : Begins (action.arguments ++ rest)
  | unnamed : Begins ["--table"]
  | help {flag : String} (isHelp : flag ∈ helpFlags) (rest : List String) : Begins (flag :: rest)
  | unknown {argument : String} (notTable : argument ≠ tableFlag)
      (noHelp : argument ∉ helpFlags) (notPlain : plainAction? argument = none)
      (rest : List String) : Begins (argument :: rest)

theorem begins : ∀ arguments : List String, Begins arguments
  | [] => .nothing
  | argument :: rest => by
      by_cases isTable : argument = tableFlag
      · rw [isTable]
        cases rest with
        | nil => exact .unnamed
        | cons name rest => exact .action (.table name) rest
      · by_cases isHelp : argument ∈ helpFlags
        · exact .help isHelp rest
        · cases plain : plainAction? argument with
          | none => exact .unknown isTable isHelp plain rest
          | some action =>
              have begun := Begins.action action rest
              rwa [arguments_of_plainAction? plain] at begun

/-! An unknown argument is no action and does not begin one. -/

theorem noAction_of_unknown {argument : String} (notTable : argument ≠ tableFlag)
    (notPlain : plainAction? argument = none) (rest : List String) (action : Action) :
    ¬ action.arguments <+: argument :: rest := by
  intro begun
  cases action with
  | table name => exact notTable (List.cons_prefix_cons.mp begun).1.symm
  | _ =>
      cases (List.cons_prefix_cons.mp begun).1
      cases notPlain

theorem unknown_of_noAction {argument : String} {rest : List String}
    (named : ¬ (argument = "--table" ∧ rest = []))
    (noAction : ∀ action : Action, ¬ action.arguments <+: argument :: rest) :
    argument ≠ tableFlag ∧ plainAction? argument = none := by
  constructor
  · intro isTable
    cases rest with
    | nil => exact named ⟨isTable, rfl⟩
    | cons name rest =>
        apply noAction (.table name)
        rw [isTable]
        exact ⟨rest, rfl⟩
  · rw [Option.eq_none_iff_forall_ne_some]
    intro action plain
    apply noAction action
    rw [arguments_of_plainAction? plain]
    exact ⟨rest, rfl⟩

/-! ## Where a list stops -/

theorem stopsAt_first {argument : String} {rest : List String}
    (noAction : ∀ action : Action, ¬ action.arguments <+: argument :: rest) :
    StopsAt (argument :: rest) argument rest := by
  refine .intro rfl .nothing ?_
  intro longer opens begun
  cases opens with
  | nothing => exact Nat.le_refl 0
  | action action => exact absurd begun (noAction action)

theorem stopsAt_after (first : Action) (argument : String) (rest : List String) :
    StopsAt (first.arguments ++ argument :: rest) argument rest := by
  refine .intro rfl (.action first) ?_
  intro longer opens begun
  cases opens with
  | nothing => exact Nat.zero_le _
  | action action =>
      rw [action_unique begun (List.prefix_append first.arguments (argument :: rest))]

/-! ## What a list means -/

theorem means_after (first : Action) {rest : List String} (begun : Begins rest) :
    Means (first.arguments ++ rest) ((parseAfter (some first) rest).mapError
      UsageError.message) := by
  cases begun with
  | nothing =>
      rw [List.append_nil]
      exact .action rfl
  | action second rest =>
      rcases second.exists_arguments_eq with ⟨flag, names, equal⟩
      have second : second.arguments <+: flag :: (names ++ rest) := by
        rw [equal]
        exact List.prefix_append (flag :: names) rest
      rw [parseAfter_action, equal]
      exact .rejected (.severalActions (stopsAt_after first flag (names ++ rest)) second)
  | unnamed =>
      rw [parseAfter_unnamed]
      exact .rejected (.missingTableName (stopsAt_after first "--table" []))
  | help isHelp rest =>
      rw [parseAfter_help _ _ isHelp]
      exact .help (.action first) isHelp rfl
  | unknown notTable noHelp notPlain rest =>
      rw [parseAfter_unknown _ _ notTable noHelp notPlain]
      exact .rejected (.unknownArgument (stopsAt_after first _ rest)
        (fun named => notTable named.1) (noAction_of_unknown notTable notPlain rest) noHelp)

theorem means_parse (arguments : List String) :
    Means arguments ((parse arguments).mapError UsageError.message) := by
  cases begins arguments with
  | nothing => exact .nothing rfl
  | action first rest =>
      rw [parse, parseAfter_action]
      exact means_after first (begins rest)
  | unnamed =>
      have noAction (action : Action) : ¬ action.arguments <+: ["--table"] := by
        cases action <;> simp [Action.arguments]
      exact .rejected (.missingTableName (stopsAt_first noAction))
  | help isHelp rest =>
      rw [parse, parseAfter_help _ _ isHelp]
      exact .help .nothing isHelp rfl
  | unknown notTable noHelp notPlain rest =>
      have noAction := noAction_of_unknown notTable notPlain rest
      rw [parse, parseAfter_unknown _ _ notTable noHelp notPlain]
      exact .rejected (.unknownArgument (stopsAt_first noAction)
        (fun named => notTable named.1) noAction noHelp)

theorem Rejects.parse_eq {arguments : List String} {text : String}
    (rejects : Rejects arguments text) :
    (parse arguments).mapError UsageError.message = .error text := by
  cases rejects with
  | missingTableName stops =>
      rcases stops with ⟨rfl, opens, -⟩
      rcases exists_chosen opens with ⟨chosen, -, read⟩
      rw [read, parseAfter_unnamed]
      rfl
  | @severalActions _ _ action stops second =>
      rcases stops with ⟨rfl, opens, longest⟩
      rcases exists_chosen opens with ⟨chosen, chosen_iff, read⟩
      -- Without an action before it, the action would be part of what has been read.
      have isSome : chosen.isSome = true := by
        apply chosen_iff.mpr
        intro empty
        rw [empty] at longest
        have short := longest action.arguments (.action action) second
        rcases action.exists_arguments_eq with ⟨flag, names, equal⟩
        rw [equal] at short
        exact absurd short (Nat.not_succ_le_zero _)
      rcases second with ⟨later, equal⟩
      rw [read, ← equal, parseAfter_action, if_pos isSome]
      rfl
  | unknownArgument stops named noAction noHelp =>
      rcases stops with ⟨rfl, opens, -⟩
      rcases exists_chosen opens with ⟨chosen, -, read⟩
      rcases unknown_of_noAction named noAction with ⟨notTable, notPlain⟩
      rw [read, parseAfter_unknown _ _ notTable noHelp notPlain]
      rfl

theorem Means.parse_eq {arguments : List String} {result : Except String Request}
    (means : Means arguments result) :
    (parse arguments).mapError UsageError.message = result := by
  cases means with
  | nothing empty =>
      rw [empty]
      rfl
  | action same =>
      rw [same, ← List.append_nil (Action.arguments _), parse, parseAfter_action]
      rfl
  | help opens isHelp parts =>
      rcases exists_chosen opens with ⟨chosen, -, read⟩
      rw [parts, read, parseAfter_help _ _ isHelp]
      rfl
  | rejected rejects => exact rejects.parse_eq

theorem parse_eq_iff_means {arguments : List String} {result : Except String Request} :
    (parse arguments).mapError UsageError.message = result ↔ Means arguments result := by
  constructor
  · intro equal
    rw [← equal]
    exact means_parse arguments
  · exact Means.parse_eq

theorem parse_eq_ok_iff_means {arguments : List String} {request : Request} :
    parse arguments = .ok request ↔ Means arguments (.ok request) := by
  rw [← parse_eq_iff_means]
  cases parse arguments <;> simp [Except.mapError]

/-- A command line asks for an action exactly when it is the arguments of that action, where
none are the arguments of a check. It asks for help exactly when it does so after no action
or one. Every other is rejected with a text about the argument at which it stops being no
action or one. -/
theorem parse_accepts_grammar (arguments : List String) :
    (∀ action, parse arguments = .ok (.perform action) ↔
      arguments = [] ∧ action = .check ∨ arguments = action.arguments) ∧
    (parse arguments = .ok .help ↔ ∃ opening flag rest, Opens opening ∧
      flag ∈ ["-h", "--help"] ∧ arguments = opening ++ flag :: rest) ∧
    ∀ text, (parse arguments).mapError UsageError.message = .error text ↔
      Rejects arguments text := by
  refine ⟨fun action => ?_, ?_, fun text => ?_⟩
  · rw [parse_eq_ok_iff_means]
    constructor
    · intro means
      cases means with
      | nothing empty => exact .inl ⟨empty, rfl⟩
      | action same => exact .inr same
    · intro asked
      rcases asked with ⟨empty, rfl⟩ | same
      · exact .nothing empty
      · exact .action same
  · rw [parse_eq_ok_iff_means]
    constructor
    · intro means
      cases means with
      | help opens isHelp parts => exact ⟨_, _, _, opens, isHelp, parts⟩
    · intro asked
      rcases asked with ⟨opening, flag, rest, opens, isHelp, parts⟩
      exact .help opens isHelp parts
  · rw [parse_eq_iff_means]
    constructor
    · intro means
      cases means with
      | rejected rejects => exact rejects
    · exact .rejected

end RoleCatalog.CommandLine

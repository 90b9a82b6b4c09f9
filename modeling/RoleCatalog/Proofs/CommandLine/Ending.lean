import RoleCatalog.CommandLine
import RoleCatalog.Proofs.Registry.BuiltFrames
import RoleCatalog.Proofs.Text.Numeral

/-! # How a command ends

A command line has four ways to end: it is misused, it asks for help, it names a table
that is not there, or its action is performed and printed. Nothing else can go wrong:
the descriptor and the roles pass their checks, the header has a symbol for each index,
and every table that a registry of the defaults can find is built under all settings.
-/

namespace RoleCatalog

namespace CommandLine

/-- The registry that a command looks a table up in. -/
def tables : Registry :=
  Registry.fresh.ensureDefaults

/-! ## Actions -/

theorem mem_defaults_of_lookup? {name : String} {table : Table}
    (found : tables.lookup? name = some table) : table ∈ Table.defaults := by
  have loaded : tables.tables = Table.defaults := rfl
  rw [← loaded]
  exact Registry.mem_of_lookup? found

theorem perform_table_of_missing {name : String} (missing : tables.lookup? name = none)
    (settings : Settings) :
    perform settings (.table name) = .error s!"no system table named '{name}'" := by
  have missed : Registry.fresh.ensureDefaults.lookup? name = none := missing
  rw [perform, missed]

theorem exists_perform_table {name : String} {table : Table}
    (found : tables.lookup? name = some table) (settings : Settings) :
    ∃ frame, table.build settings = .ok frame ∧
      perform settings (.table name) = .ok frame.listing := by
  rcases Table.exists_build_default settings table (mem_defaults_of_lookup? found) with
    ⟨frame, built⟩
  have isFound : Registry.fresh.ensureDefaults.lookup? name = some table := found
  exact ⟨frame, built, by simp only [perform, isFound, built]⟩

theorem exists_perform_header (settings : Settings) :
    ∃ text, perform settings .header = .ok text := by
  have rendered : Authid.header = .ok _ := Header.render_eq_ok_iff.mpr ⟨rfl, rfl⟩
  exact ⟨_, by rw [perform, rendered]; rfl⟩

theorem perform_check (settings : Settings) : perform settings .check = .ok "ok" := by
  have descriptor : Authid.descriptor.validate = .ok () := by decide +kernel
  rw [perform, descriptor, Role.validate_wellKnown]
  rfl

/-- An action can only fail for want of its table. -/
theorem exists_perform {action : Action}
    (available : ∀ name, action = .table name → tables.lookup? name ≠ none)
    (settings : Settings) : ∃ text, perform settings action = .ok text := by
  cases action with
  | describe => exact ⟨_, rfl⟩
  | roles => exact ⟨_, rfl⟩
  | table name =>
      rcases Option.ne_none_iff_exists'.mp (available name rfl) with ⟨table, found⟩
      rcases exists_perform_table found settings with ⟨frame, -, performed⟩
      exact ⟨frame.listing, performed⟩
  | header => exact exists_perform_header settings
  | check => exact ⟨"ok", perform_check settings⟩

/-! ## Endings -/

/-- What the arguments ask for in each of the four ways to end. -/
inductive Ending (program : String) (settings : Settings) (arguments : List String) :
    Outcome → Prop where
  | misused {error : UsageError} (rejected : parse arguments = .error error) :
      Ending program settings arguments (.misused program error)
  | helped (asked : parse arguments = .ok .help) :
      Ending program settings arguments (.helped program)
  | missed {name : String} (asked : parse arguments = .ok (.perform (.table name)))
      (missing : tables.lookup? name = none) :
      Ending program settings arguments (.failed s!"no system table named '{name}'")
  | printed {action : Action} {text : String}
      (asked : parse arguments = .ok (.perform action))
      (available : ∀ name, action = .table name → tables.lookup? name ≠ none)
      (performed : perform settings action = .ok text) :
      Ending program settings arguments (.printed text)

section Run

variable (program : String) (lookup : String → Option String) (osUser : Option String)
  {arguments : List String}

theorem run_of_rejected {error : UsageError} (rejected : parse arguments = .error error) :
    run program lookup osUser arguments = .misused program error := by
  rw [run, rejected]

theorem run_of_help (asked : parse arguments = .ok .help) :
    run program lookup osUser arguments = .helped program := by
  rw [run, asked]

theorem run_of_performed {action : Action} {text : String}
    (asked : parse arguments = .ok (.perform action))
    (performed : perform (.ofLookup lookup osUser) action = .ok text) :
    run program lookup osUser arguments = .printed text := by
  simp only [run, asked, performed]

theorem run_of_missing {name : String}
    (asked : parse arguments = .ok (.perform (.table name)))
    (missing : tables.lookup? name = none) :
    run program lookup osUser arguments = .failed s!"no system table named '{name}'" := by
  simp only [run, asked, perform_table_of_missing missing]

theorem ending_run (arguments : List String) :
    Ending program (.ofLookup lookup osUser) arguments (run program lookup osUser arguments) := by
  cases asked : parse arguments with
  | error error =>
      rw [run_of_rejected program lookup osUser asked]
      exact .misused asked
  | ok request =>
      cases request with
      | help =>
          rw [run_of_help program lookup osUser asked]
          exact .helped asked
      | perform action =>
          by_cases available : ∀ name, action = .table name → tables.lookup? name ≠ none
          · rcases exists_perform available (.ofLookup lookup osUser) with ⟨text, performed⟩
            rw [run_of_performed program lookup osUser asked performed]
            exact .printed asked available performed
          · simp only [not_forall, not_not] at available
            rcases available with ⟨name, rfl, missing⟩
            rw [run_of_missing program lookup osUser asked missing]
            exact .missed asked missing

end Run

/-! ## Status and output -/

namespace Ending

variable {program : String} {settings : Settings} {arguments : List String} {outcome : Outcome}
  (ending : Ending program settings arguments outcome)

include ending

theorem exitCode_le : outcome.exitCode ≤ 2 := by
  cases ending with
  | misused _ => exact Nat.le_refl 2
  | helped _ => exact Nat.zero_le 2
  | missed _ _ => exact Nat.le_succ 1
  | printed _ _ _ => exact Nat.zero_le 2

theorem exitCode_eq_two_iff :
    outcome.exitCode = 2 ↔ ∃ error, parse arguments = .error error := by
  cases ending with
  | misused rejected => exact iff_of_true rfl ⟨_, rejected⟩
  | helped asked => simp [Outcome.helped, asked]
  | missed asked _ => simp [Outcome.failed, asked]
  | printed asked _ _ => simp [Outcome.printed, asked]

theorem exitCode_eq_one_iff :
    outcome.exitCode = 1 ↔ ∃ name, parse arguments = .ok (.perform (.table name)) ∧
      tables.lookup? name = none := by
  cases ending with
  | misused rejected => simp [Outcome.misused, rejected]
  | helped asked => simp [Outcome.helped, asked]
  | missed asked missing => exact iff_of_true rfl ⟨_, asked, missing⟩
  | printed asked available _ =>
      refine iff_of_false Nat.zero_ne_one ?_
      rintro ⟨name, same, missing⟩
      rw [asked] at same
      exact available name (Request.perform.inj (Except.ok.inj same)) missing

theorem exitCode_eq_zero_iff :
    outcome.exitCode = 0 ↔ ¬ (∃ error, parse arguments = .error error) ∧
      ¬ ∃ name, parse arguments = .ok (.perform (.table name)) ∧
        tables.lookup? name = none := by
  have bound := ending.exitCode_le
  rw [← ending.exitCode_eq_two_iff, ← ending.exitCode_eq_one_iff]
  omega

theorem stdout_eq_empty (silent : outcome.exitCode ≠ 0 ∨ parse arguments = .ok .help) :
    outcome.stdout = "" := by
  cases ending with
  | misused _ => rfl
  | helped _ => rfl
  | missed _ _ => rfl
  | printed asked _ _ => simp [Outcome.printed, asked] at silent

theorem printed_of_exitCode_eq_zero (success : outcome.exitCode = 0)
    (noHelp : parse arguments ≠ .ok .help) : outcome.stdout ≠ "" ∧ outcome.stderr = "" := by
  cases ending with
  | misused _ => simp [Outcome.misused] at success
  | helped asked => exact absurd asked noHelp
  | missed _ _ => simp [Outcome.failed] at success
  | printed _ _ _ => simp [Outcome.printed]

end Ending

/-! ## The shape of a table -/

/-- The characters of a text before its first line feed. -/
def firstLine (text : String) : String :=
  String.ofList (text.toList.takeWhile (· != '\n'))

theorem firstLine_append {line : String} (newline : '\n' ∉ line.toList) (rest : String) :
    firstLine (line ++ "\n" ++ rest) = line := by
  have stays : ∀ character ∈ line.toList, (character != '\n') = true :=
    fun character member => bne_iff_ne.mpr fun equal => newline (equal ▸ member)
  rw [firstLine, String.append_assoc, String.toList_append, List.takeWhile_append_of_pos stays]
  simp

theorem firstLine_intercalate {line : String} (newline : '\n' ∉ line.toList)
    (later : List String) : firstLine ("\n".intercalate (line :: later) ++ "\n") = line := by
  cases later with
  | nil =>
      rw [String.intercalate_singleton, ← String.append_empty (s := line ++ "\n")]
      exact firstLine_append newline ""
  | cons next others =>
      rw [String.intercalate_cons_cons, String.append_assoc]
      exact firstLine_append newline _

theorem newline_not_mem_shape (height width : Nat) :
    '\n' ∉ s!"shape: ({height}, {width})".toList := by
  have digits (number : Nat) : '\n' ∉ Nat.toDigits 10 number :=
    fun member => absurd (Text.isDigit_of_mem_toDigits member) (by decide)
  have parts : s!"shape: ({height}, {width})" =
      "shape: (" ++ toString height ++ ", " ++ toString width ++ ")" := rfl
  rw [parts]
  simp [digits]

theorem firstLine_printed_listing (frame : Frame) :
    firstLine (Outcome.printed frame.listing).stdout =
      s!"shape: ({frame.height}, {frame.width})" :=
  firstLine_intercalate (newline_not_mem_shape frame.height frame.width) _

/-! ## Environments -/

theorem listing_congr {left right : Settings}
    (same : left.bootstrapSuperuser = right.bootstrapSuperuser) :
    Role.listing left = Role.listing right := by
  have entries : Role.listingEntry left = Role.listingEntry right := by
    funext role
    simp only [Role.listingEntry, Role.renameBootstrap, same]
  rw [Role.listing, Role.listing, entries]

theorem perform_congr {action : Action}
    (fixed : action ∈ [Action.describe, .header, .check]) (left right : Settings) :
    perform left action = perform right action := by
  have each : ∀ action ∈ [Action.describe, .header, .check],
      perform left action = perform right action := by
    simp [perform]
  exact each action fixed

section Environments

variable (program : String) {lookup other : String → Option String}
  {osUser otherUser : Option String} {arguments : List String}

theorem run_congr {action : Action} (asked : parse arguments = .ok (.perform action))
    (same : perform (.ofLookup lookup osUser) action =
      perform (.ofLookup other otherUser) action) :
    run program lookup osUser arguments = run program other otherUser arguments := by
  simp only [run, asked, same]

theorem run_roles_congr (asked : parse arguments = .ok (.perform .roles))
    (same : lookup Settings.superuserVariable = other Settings.superuserVariable) :
    run program lookup osUser arguments = run program other osUser arguments := by
  apply run_congr program asked
  have superuser : (Settings.ofLookup lookup osUser).bootstrapSuperuser =
      (Settings.ofLookup other osUser).bootstrapSuperuser := by
    rw [Settings.ofLookup, Settings.ofLookup, same]
  exact congrArg Except.ok (listing_congr superuser)

end Environments

/-! ## The law -/

/-- What a caller of the program can rely on, given the arguments and the environment. -/
structure Contract (program : String) (lookup : String → Option String)
    (osUser : Option String) (arguments : List String) (outcome : Outcome) : Prop where
  misused : outcome.exitCode = 2 ↔ ∃ error, parse arguments = .error error
  missed : outcome.exitCode = 1 ↔ ∃ name, parse arguments = .ok (.perform (.table name)) ∧
    tables.lookup? name = none
  succeeded : outcome.exitCode = 0 ↔ ¬ (∃ error, parse arguments = .error error) ∧
    ¬ ∃ name, parse arguments = .ok (.perform (.table name)) ∧ tables.lookup? name = none
  silent : outcome.exitCode ≠ 0 ∨ parse arguments = .ok .help → outcome.stdout = ""
  printed : outcome.exitCode = 0 → parse arguments ≠ .ok .help →
    outcome.stdout ≠ "" ∧ outcome.stderr = ""
  message : ∀ name, parse arguments = .ok (.perform (.table name)) → outcome.exitCode = 1 →
    outcome.stderr = "Error: " ++ s!"no system table named '{name}'" ++ "\n"
  shape : ∀ name table, parse arguments = .ok (.perform (.table name)) →
    tables.lookup? name = some table → ∃ frame,
      table.build (.ofLookup lookup osUser) = .ok frame ∧
        firstLine outcome.stdout = s!"shape: ({frame.height}, {frame.width})"
  fixed : ∀ other otherUser action, parse arguments = .ok (.perform action) →
    action ∈ [Action.describe, .header, .check] →
      run program other otherUser arguments = outcome
  unflagged : ∀ other : String → Option String, parse arguments = .ok (.perform .roles) →
    other Settings.superuserVariable = lookup Settings.superuserVariable →
      run program other osUser arguments = outcome

section Law

variable (program : String) (lookup : String → Option String) (osUser : Option String)
  {arguments : List String}

theorem stderr_of_missed {name : String}
    (asked : parse arguments = .ok (.perform (.table name)))
    (missed : (run program lookup osUser arguments).exitCode = 1) :
    (run program lookup osUser arguments).stderr =
      "Error: " ++ s!"no system table named '{name}'" ++ "\n" := by
  rcases (ending_run program lookup osUser arguments).exitCode_eq_one_iff.mp missed with
    ⟨other, alsoAsked, missing⟩
  rw [asked] at alsoAsked
  cases alsoAsked
  rw [run_of_missing program lookup osUser asked missing]
  rfl

theorem exists_shape_of_found {name : String} {table : Table}
    (asked : parse arguments = .ok (.perform (.table name)))
    (found : tables.lookup? name = some table) :
    ∃ frame, table.build (.ofLookup lookup osUser) = .ok frame ∧
      firstLine (run program lookup osUser arguments).stdout =
        s!"shape: ({frame.height}, {frame.width})" := by
  rcases exists_perform_table found (.ofLookup lookup osUser) with ⟨frame, built, performed⟩
  rw [run_of_performed program lookup osUser asked performed]
  exact ⟨frame, built, firstLine_printed_listing frame⟩

end Law

/-- The exit code tells a bad command line from a missing table and both from success.
Only success without a request for help writes to the standard output, and then there is
nothing on the error output; a missing table is reported there by its name. A table that
is found is built, and printed after its shape. Only the tables and the roles depend on
the environment, and the roles not on whether predefined ones are included. -/
theorem exitCode_and_output_run (program : String) (lookup : String → Option String)
    (osUser : Option String) (arguments : List String) :
    Contract program lookup osUser arguments (run program lookup osUser arguments) := by
  have ending := ending_run program lookup osUser arguments
  exact {
    misused := ending.exitCode_eq_two_iff
    missed := ending.exitCode_eq_one_iff
    succeeded := ending.exitCode_eq_zero_iff
    silent := ending.stdout_eq_empty
    printed := ending.printed_of_exitCode_eq_zero
    message := fun _ asked missed => stderr_of_missed program lookup osUser asked missed
    shape := fun _ _ asked found => exists_shape_of_found program lookup osUser asked found
    fixed := fun _ _ _ asked fixed => run_congr program asked (perform_congr fixed _ _)
    unflagged := fun _ asked same => run_roles_congr program asked same }

/-- The name of the bootstrap superuser is given, and the flag is what the caller says. -/
def environment (flag : Option String) (key : String) : Option String :=
  if key = Settings.superuserVariable then some "admin"
  else if key = Settings.predefinedVariable then flag
  else none

/-- A name may look like a flag, and a table is found under any spelling of its name. -/
theorem exitCode_and_output_of_tables_and_roles :
    ((run "authid" (environment none) none ["--table", "-h"]).exitCode = 1 ∧
      (run "authid" (environment none) none ["--table", "-h"]).stdout = "" ∧
      (run "authid" (environment none) none ["--table", "-h"]).stderr =
        "Error: no system table named '-h'\n") ∧
    (∃ frame, Table.roles.build ⟨"admin", false⟩ = .ok frame ∧
      firstLine (run "authid" (environment (some "off")) none
        ["--table", "\"PG_Roles\";"]).stdout = s!"shape: ({frame.height}, {frame.width})") ∧
    ((run "authid" (environment none) none ["--roles"]).stdout ≠ "" ∧
      run "authid" (environment (some "no")) none ["--roles"] =
        run "authid" (environment none) none ["--roles"]) ∧
    run "authid" (fun _ => none) (some "alice") [] =
      run "authid" (environment none) none [] := by
  have missingName : tables.lookup? "-h" = none := by rfl
  have foundName : tables.lookup? "\"PG_Roles\";" = some Table.roles := by rfl
  have dash := exitCode_and_output_run "authid" (environment none) none ["--table", "-h"]
  have one := dash.missed.mpr ⟨"-h", rfl, missingName⟩
  have found := exitCode_and_output_run "authid" (environment (some "off")) none
    ["--table", "\"PG_Roles\";"]
  have roles := exitCode_and_output_run "authid" (environment none) none ["--roles"]
  have zero := roles.succeeded.mpr
    ⟨(fun ⟨_, rejected⟩ => nomatch rejected), (fun ⟨_, asked, _⟩ => nomatch asked)⟩
  have check := exitCode_and_output_run "authid" (environment none) none []
  exact ⟨⟨one, dash.silent (.inl (one ▸ Nat.one_ne_zero)), dash.message "-h" rfl one⟩,
    found.shape _ Table.roles rfl foundName,
    ⟨(roles.printed zero (fun asked => nomatch asked)).1, roles.unflagged _ rfl rfl⟩,
    check.fixed _ (some "alice") .check rfl (by decide)⟩

end CommandLine

end RoleCatalog

import RoleCatalog.Descriptor.Json
import RoleCatalog.Descriptor.Validation
import RoleCatalog.Registry.Run
import RoleCatalog.Role.Listing
import RoleCatalog.Role.Validation

/-! The command line. The arguments name one action, or none for a check; a request for
help is honoured wherever an action could stand. A run writes to one of the two
outputs, and its exit code tells a failed action from a bad command line. -/

namespace RoleCatalog.CommandLine

inductive Action where
  | describe
  | roles
  | table (name : String)
  | header
  | check
deriving Repr, DecidableEq

inductive Request where
  | help
  | perform (action : Action)
deriving Repr, DecidableEq

inductive UsageError where
  | missingTableName
  | unknownArgument (argument : String)
  | severalActions
deriving Repr, DecidableEq

def UsageError.message : UsageError → String
  | .missingTableName => "--table requires a table name"
  | .unknownArgument argument => s!"unknown argument '{argument}'"
  | .severalActions => "only one action may be given"

def tableFlag : String :=
  "--table"

def helpFlags : List String :=
  ["-h", "--help"]

/-- The action of a flag that takes no name. -/
def plainAction? (argument : String) : Option Action :=
  [("--describe", Action.describe), ("--roles", .roles), ("--header", .header),
    ("--check", .check)].lookup argument

/-- The rest of the arguments, after `chosen` has been read. -/
def parseAfter (chosen : Option Action) : List String → Except UsageError Request
  | [] => .ok (.perform (chosen.getD .check))
  | argument :: rest =>
      if argument = tableFlag then
        match rest with
        | [] => .error .missingTableName
        | name :: rest =>
            if chosen.isSome then .error .severalActions else parseAfter (some (.table name)) rest
      else if argument ∈ helpFlags then .ok .help
      else
        match plainAction? argument with
        | none => .error (.unknownArgument argument)
        | some action =>
            if chosen.isSome then .error .severalActions else parseAfter (some action) rest

def parse (arguments : List String) : Except UsageError Request :=
  parseAfter none arguments

def usage (program : String) : String :=
  "\n".intercalate
    ["Usage:",
     s!"  {program} [--describe | --roles | --table <name> | --header | --check]",
     "",
     "Flags:",
     "  --describe        Print the pg_authid row descriptor as JSON",
     "  --roles           List well-known roles as JSON",
     "  --table <name>    Print a synthesized system table (pg_authid, pg_roles, pg_auth_members)",
     "  --header          Render the generated pg_authid_d.h macro header",
     "  --check           Validate descriptor and role registry invariants",
     "  -h, --help        Show this help",
     "",
     "Environment:",
     "  AUTHID_BOOTSTRAP_SUPERUSER   name shown for OID 10 (default: current OS user)",
     "  AUTHID_INCLUDE_PREDEFINED    list predefined pg_* roles (default: true)",
     "  RUST_LOG                     log filter (default: info)"]

structure Outcome where
  exitCode : Nat
  stdout : String
  stderr : String
deriving Repr, DecidableEq

namespace Outcome

def printed (text : String) : Outcome :=
  ⟨0, text ++ "\n", ""⟩

def helped (program : String) : Outcome :=
  ⟨0, "", usage program ++ "\n"⟩

def failed (message : String) : Outcome :=
  ⟨1, "", "Error: " ++ message ++ "\n"⟩

def misused (program : String) (error : UsageError) : Outcome :=
  ⟨2, "", error.message ++ "\n" ++ usage program ++ "\n"⟩

end Outcome

/-- The text that an action prints, or the message that it fails with. -/
def perform (settings : Settings) : Action → Except String String
  | .describe => .ok Authid.descriptor.toJson.pretty
  | .roles => .ok (Role.listing settings)
  | .table name =>
      match Registry.fresh.ensureDefaults.lookup? name with
      | none => .error s!"no system table named '{name}'"
      | some table =>
          match table.build settings with
          | .ok frame => .ok frame.listing
          | .error report => .error report.display
  | .header => Authid.header.mapError fun cause => cause.report.display
  | .check => do
      Authid.descriptor.validate.mapError fun defect =>
        (defect.report Authid.descriptor.relname).display
      (Role.validate Role.wellKnown).mapError fun defect => defect.report.display
      return "ok"

def run (program : String) (lookup : String → Option String) (osUser : Option String)
    (arguments : List String) : Outcome :=
  match parse arguments with
  | .error error => .misused program error
  | .ok .help => .helped program
  | .ok (.perform action) =>
      match perform (Settings.ofLookup lookup osUser) action with
      | .ok text => .printed text
      | .error message => .failed message

end RoleCatalog.CommandLine

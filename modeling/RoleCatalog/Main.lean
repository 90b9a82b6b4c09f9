import RoleCatalog.CommandLine

/-! The program: it collects its surroundings, runs the command line and writes the
outcome. -/

open RoleCatalog

def main (arguments : List String) : IO UInt32 := do
  let superuser ← IO.getEnv Settings.superuserVariable
  let predefined ← IO.getEnv Settings.predefinedVariable
  let user ← IO.getEnv "USER"
  let lookup (key : String) : Option String :=
    if key = Settings.superuserVariable then superuser
    else if key = Settings.predefinedVariable then predefined
    else none
  let outcome := CommandLine.run "authid" lookup user arguments
  IO.print outcome.stdout
  IO.eprint outcome.stderr
  return outcome.exitCode.toUInt32

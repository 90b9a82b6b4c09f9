import RoleCatalog.Text.AsciiCase
import RoleCatalog.Text.Blank

/-! Settings come from named variables and from the user who runs the program. The
name of the bootstrap superuser is the first of its sources that is not blank,
without blanks around it; predefined roles are listed unless the flag says no. -/

namespace RoleCatalog

structure Settings where
  bootstrapSuperuser : String
  includePredefined : Bool
deriving Repr, DecidableEq

namespace Settings

def superuserVariable : String :=
  "AUTHID_BOOTSTRAP_SUPERUSER"

def predefinedVariable : String :=
  "AUTHID_INCLUDE_PREDEFINED"

def defaultSuperuser : String :=
  "postgres"

def standard : Settings :=
  ⟨defaultSuperuser, true⟩

def nonblank? (text : String) : Option String :=
  if Text.trimmed text = "" then none else some (Text.trimmed text)

def offWords : List String :=
  ["0", "false", "no", "off"]

def flagIsOn (text : String) : Bool :=
  !offWords.any fun word => decide (Text.SameFold (Text.trimmed text) word)

example : flagIsOn "yes" ∧ flagIsOn "" ∧ ¬ flagIsOn " No\t" := by decide

def ofLookup (lookup : String → Option String) (osUser : Option String) : Settings where
  bootstrapSuperuser :=
    (((lookup superuserVariable).bind nonblank?).or (osUser.bind nonblank?)).getD defaultSuperuser
  includePredefined := ((lookup predefinedVariable).map flagIsOn).getD true

example : ofLookup (fun _ => none) (some " alice ") = ⟨"alice", true⟩ := by decide

end Settings

end RoleCatalog

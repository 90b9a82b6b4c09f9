import RoleCatalog.Registry.Basic
import RoleCatalog.Registry.Identifier

/-! Resolution of identifiers, and runs of a registry. An identifier with a schema is
looked for there first; then, as one without, in the default schema. A run answers
each step in turn. -/

namespace RoleCatalog.Registry

def resolve? (registry : Registry) (identifier : Identifier) : Option Table :=
  (identifier.schema?.bind fun schema => registry.find? schema identifier.name).or
    (registry.find? Table.defaultSchema identifier.name)

def lookup? (registry : Registry) (text : String) : Option Table :=
  registry.resolve? (Identifier.ofText text)

inductive Step where
  | register (table : Table)
  | registerDefaults
  | ensureDefaults
  | all
  | find (schema name : String)
  | lookup (text : String)
  | build (text : String) (settings : Settings)
  | schemaMap (text : String)

inductive Answer where
  | done
  | keys (keys : List (String × String))
  | table (found : Option Table)
  | frame (built : Option (Except Report Frame))
  | schemaMap (found : Option (List (String × Dtype)))

/-- Every step but a registration loads the default tables if that has not been done. -/
def after (registry : Registry) : Step → Registry
  | .register table => registry.register table
  | .registerDefaults => registry.registerDefaults
  | _ => registry.ensureDefaults

/-- The answer of a registry in the state after the step. -/
def answer (registry : Registry) : Step → Answer
  | .register _ | .registerDefaults | .ensureDefaults => .done
  | .all => .keys registry.keys
  | .find schema name => .table (registry.find? schema name)
  | .lookup text => .table (registry.lookup? text)
  | .build text settings => .frame ((registry.lookup? text).map fun table => table.build settings)
  | .schemaMap text => .schemaMap ((registry.lookup? text).map Table.schemaMap)

def step (registry : Registry) (action : Step) : Registry × Answer :=
  (registry.after action, (registry.after action).answer action)

def run (registry : Registry) : List Step → Registry × List Answer
  | [] => (registry, [])
  | action :: rest =>
      let next := registry.step action
      let later := run next.1 rest
      (later.1, next.2 :: later.2)

theorem run_append_state (registry : Registry) (earlier later : List Step) :
    (registry.run (earlier ++ later)).1 = ((registry.run earlier).1.run later).1 := by
  induction earlier generalizing registry with
  | nil => rfl
  | cons action rest induction => exact induction (registry.step action).1

theorem run_append_answers (registry : Registry) (earlier later : List Step) :
    (registry.run (earlier ++ later)).2 =
      (registry.run earlier).2 ++ ((registry.run earlier).1.run later).2 := by
  induction earlier generalizing registry with
  | nil => rfl
  | cons action rest induction =>
      exact congrArg ((registry.step action).2 :: ·) (induction (registry.step action).1)

end RoleCatalog.Registry

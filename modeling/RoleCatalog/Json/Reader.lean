import RoleCatalog.Json.Lexer

/-! Tokens are assembled into a value with the containers that are still open kept
in a list, the innermost first. The length of that list is the nesting, and a
container that would nest too deep is refused. -/

namespace RoleCatalog.Json

/-- The least number of containers, one inside the other, that is refused. -/
def nestingLimit : Nat :=
  128

namespace Reader

/-- An open container with its finished items, the latest first. -/
inductive Frame where
  | array (before : List Value)
  | object (before : List (String × Value)) (key : String)
deriving DecidableEq

/-- What may come next. -/
inductive State where
  | value (outer : List Frame)
  | firstItem (outer : List Frame)
  | firstKey (outer : List Frame)
  | key (before : List (String × Value)) (outer : List Frame)
  | colon (before : List (String × Value)) (key : String) (outer : List Frame)
  | done (value : Value) (outer : List Frame)
deriving DecidableEq

def startValue (outer : List Frame) : Token → Option State
  | .null => some (.done .null outer)
  | .bool value => some (.done (.bool value) outer)
  | .number value => some (.done (.number value) outer)
  | .string value => some (.done (.string value) outer)
  | .openArray => if outer.length + 1 < nestingLimit then some (.firstItem outer) else none
  | .openObject => if outer.length + 1 < nestingLimit then some (.firstKey outer) else none
  | _ => none

def afterValue (value : Value) : List Frame → Token → Option State
  | .array before :: outer, .comma => some (.value (.array (value :: before) :: outer))
  | .array before :: outer, .closeArray =>
      some (.done (.ofList (value :: before).reverse) outer)
  | .object before key :: outer, .comma => some (.key ((key, value) :: before) outer)
  | .object before key :: outer, .closeObject =>
      some (.done (.ofMembers ((key, value) :: before).reverse) outer)
  | _, _ => none

def step : State → Token → Option State
  | .value outer, token => startValue outer token
  | .firstItem outer, .closeArray => some (.done (.array .nil) outer)
  | .firstItem outer, token => startValue (.array [] :: outer) token
  | .firstKey outer, .closeObject => some (.done (.object .nil) outer)
  | .firstKey outer, .string key => some (.colon [] key outer)
  | .key before outer, .string key => some (.colon before key outer)
  | .colon before key outer, .colon => some (.value (.object before key :: outer))
  | .done value outer, token => afterValue value outer token
  | _, _ => none

def run (state : State) (tokens : List Token) : Option State :=
  tokens.foldlM step state

def finish : State → Option Value
  | .done value [] => some value
  | _ => none

end Reader

def ofTokens? (tokens : List Token) : Option Value :=
  (Reader.run (.value []) tokens).bind Reader.finish

def Value.ofText? (text : String) : Option Value :=
  (tokens? text.toList).bind ofTokens?

example : Value.ofText? " \x7b\"a\" : [1, \x7b\x7d], \"a\":null\x7d" =
    some (.ofMembers [("a", .ofList [.ofInt 1, .ofMembers []]), ("a", .null)]) := by
  decide +kernel
example : Value.ofText? "[1,]" = none ∧ Value.ofText? "1 2" = none ∧ Value.ofText? "" = none := by
  decide +kernel

end RoleCatalog.Json

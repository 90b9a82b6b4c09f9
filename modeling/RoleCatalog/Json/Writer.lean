import RoleCatalog.Json.Token

/-! Two layouts of a value. The compact one is the texts of its tokens in a row. The
pretty one puts each item or member on a line of its own, two blanks further in
than its container, with a blank after each colon; a container without items
stays closed. -/

namespace RoleCatalog.Json

mutual

def Value.tokens : Value → List Token
  | .null => [.null]
  | .bool value => [.bool value]
  | .number value => [.number value]
  | .string value => [.string value]
  | .array .nil => [.openArray, .closeArray]
  | .array (.cons head tail) => .openArray :: (head.tokens ++ tail.laterTokens ++ [.closeArray])
  | .object .nil => [.openObject, .closeObject]
  | .object (.cons key value tail) =>
      .openObject :: .string key :: .colon ::
        (value.tokens ++ tail.laterTokens ++ [.closeObject])

def Values.laterTokens : Values → List Token
  | .nil => []
  | .cons head tail => .comma :: (head.tokens ++ tail.laterTokens)

def Members.laterTokens : Members → List Token
  | .nil => []
  | .cons key value tail =>
      .comma :: .string key :: .colon :: (value.tokens ++ tail.laterTokens)

end

def Value.compact (value : Value) : String :=
  String.ofList (value.tokens.flatMap Token.text)

example : (Value.ofMembers [("a", .ofList [.ofInt 1, .null]), ("b", .ofList [])]).compact =
    "\x7b\"a\":[1,null],\"b\":[]\x7d" := by decide

/-- The start of a line inside `depth` containers. -/
def newLine (depth : Nat) : List Char :=
  '\n' :: List.replicate (2 * depth) ' '

def memberLabel (key : String) : List Char :=
  quoted key ++ [':', ' ']

mutual

def Value.layout (depth : Nat) : Value → List Char
  | .null => Token.null.text
  | .bool value => (Token.bool value).text
  | .number value => (Token.number value).text
  | .string value => (Token.string value).text
  | .array .nil => ['[', ']']
  | .array (.cons head tail) =>
      '[' :: (newLine (depth + 1) ++ head.layout (depth + 1) ++
        tail.laterLayout (depth + 1) ++ newLine depth ++ [']'])
  | .object .nil => ['\x7b', '\x7d']
  | .object (.cons key value tail) =>
      '\x7b' :: (newLine (depth + 1) ++ memberLabel key ++ value.layout (depth + 1) ++
        tail.laterLayout (depth + 1) ++ newLine depth ++ ['\x7d'])

def Values.laterLayout (depth : Nat) : Values → List Char
  | .nil => []
  | .cons head tail => ',' :: (newLine depth ++ head.layout depth ++ tail.laterLayout depth)

def Members.laterLayout (depth : Nat) : Members → List Char
  | .nil => []
  | .cons key value tail =>
      ',' :: (newLine depth ++ memberLabel key ++ value.layout depth ++
        tail.laterLayout depth)

end

def Value.pretty (value : Value) : String :=
  String.ofList (value.layout 0)

example : (Value.ofMembers [("a", .ofList [.ofInt 1, .null]), ("b", .ofList [])]).pretty =
    "\x7b\n  \"a\": [\n    1,\n    null\n  ],\n  \"b\": []\n\x7d" := by decide

end RoleCatalog.Json

/-! JSON values. A number is a decimal, its significand times a power of ten. An
object keeps its members in order, and may repeat a key. -/

namespace RoleCatalog.Json

structure Decimal where
  significand : Int
  exponent : Int
deriving Repr, DecidableEq

def Decimal.ofInt (value : Int) : Decimal :=
  ⟨value, 0⟩

mutual

inductive Value where
  | null
  | bool (value : Bool)
  | number (value : Decimal)
  | string (value : String)
  | array (items : Values)
  | object (members : Members)

inductive Values where
  | nil
  | cons (head : Value) (tail : Values)

inductive Members where
  | nil
  | cons (key : String) (value : Value) (tail : Members)

end

deriving instance DecidableEq for Value
deriving instance DecidableEq for Values
deriving instance DecidableEq for Members
deriving instance Repr for Value
deriving instance Repr for Values
deriving instance Repr for Members

namespace Values

def ofList : List Value → Values
  | [] => .nil
  | head :: tail => .cons head (ofList tail)

def toList : Values → List Value
  | .nil => []
  | .cons head tail => head :: tail.toList

@[simp] theorem toList_ofList : ∀ items : List Value, (ofList items).toList = items
  | [] => rfl
  | head :: tail => congrArg (head :: ·) (toList_ofList tail)

@[simp] theorem ofList_toList : ∀ items : Values, ofList items.toList = items
  | .nil => rfl
  | .cons head tail => congrArg (Values.cons head) (ofList_toList tail)

end Values

namespace Members

def ofList : List (String × Value) → Members
  | [] => .nil
  | (key, value) :: tail => .cons key value (ofList tail)

def toList : Members → List (String × Value)
  | .nil => []
  | .cons key value tail => (key, value) :: tail.toList

@[simp] theorem toList_ofList :
    ∀ members : List (String × Value), (ofList members).toList = members
  | [] => rfl
  | (key, value) :: tail => congrArg ((key, value) :: ·) (toList_ofList tail)

@[simp] theorem ofList_toList : ∀ members : Members, ofList members.toList = members
  | .nil => rfl
  | .cons key value tail => congrArg (Members.cons key value) (ofList_toList tail)

end Members

namespace Value

def ofInt (value : Int) : Value :=
  .number (.ofInt value)

def ofList (items : List Value) : Value :=
  .array (.ofList items)

def ofMembers (members : List (String × Value)) : Value :=
  .object (.ofList members)

end Value

/-! An object that is put together key by key keeps its keys in alphabetical order. -/

/-- Keys are ordered by the codes of their characters. -/
def keyBefore (left right : String) : Bool :=
  left.toList.lex right.toList fun first second => first.toNat < second.toNat

/-- The member takes its alphabetical place, or the place of a member with its key. -/
def insertMember (key : String) (value : Value) :
    List (String × Value) → List (String × Value)
  | [] => [(key, value)]
  | (other, present) :: later =>
      if keyBefore key other then (key, value) :: (other, present) :: later
      else if key = other then (key, value) :: later
      else (other, present) :: insertMember key value later

def sortMembers (members : List (String × Value)) : List (String × Value) :=
  members.foldl (fun sorted member => insertMember member.1 member.2 sorted) []

example : sortMembers [("b", .null), ("a", .null), ("b", .bool true)] =
    [("a", .null), ("b", .bool true)] := by decide

/-! The depth of a value counts the arrays and objects around its innermost part. -/

mutual

def Value.depth : Value → Nat
  | .array items => items.depth + 1
  | .object members => members.depth + 1
  | _ => 0

def Values.depth : Values → Nat
  | .nil => 0
  | .cons head tail => max head.depth tail.depth

def Members.depth : Members → Nat
  | .nil => 0
  | .cons _ value tail => max value.depth tail.depth

end

example : (Value.ofList [.null, .ofList []]).depth = 2 := by decide

end RoleCatalog.Json

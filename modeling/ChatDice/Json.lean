import ChatDice.Binary64.Decimal

/-!
JSON values. Whole numbers and floating-point numbers are kept apart, and the members of an
object stand in the order in which their names first appeared.
-/

namespace ChatDice

inductive Json
  | null
  | bool (value : Bool)
  | int (value : Int)
  | float (value : Binary64)
  | str (value : Text)
  | arr (items : List Json)
  | obj (members : List (Text × Json))
  deriving Repr

instance : Inhabited Json := ⟨.null⟩

namespace Json

/-- A repeated name keeps its place and takes the later value. -/
def put (members : List (Text × Json)) (name : Text) (value : Json) : List (Text × Json) :=
  match members with
  | [] => [(name, value)]
  | (other, old) :: rest =>
    if other = name then (name, value) :: rest else (other, old) :: put rest name value

def find? (members : List (Text × Json)) (name : Text) : Option Json :=
  match members with
  | [] => none
  | (other, value) :: rest => if other = name then some value else find? rest name

/-- Null, false, zero and whatever is empty are false; all else is true. -/
def truthy : Json → Bool
  | .null => false
  | .bool value => value
  | .int value => value != 0
  | .float value => !value.isZero
  | .str value => !value.isEmpty
  | .arr items => !items.isEmpty
  | .obj members => !members.isEmpty

/-- The name of a value's kind in messages. -/
def kind : Json → Text
  | .null => "NoneType"
  | .bool _ => "bool"
  | .int _ => "int"
  | .float _ => "float"
  | .str _ => "str"
  | .arr _ => "list"
  | .obj _ => "dict"

/-- How many levels of arrays and objects can be followed before the call stack is used up: in a
configuration that is loaded, and in what is written on behalf of a message. -/
class Nesting where
  loaded : Nat
  written : Nat
  least : 2 ≤ written

/-- A message is read from two calls further out, so that two levels more are left for it. -/
def Nesting.read [Nesting] : Nat := written + 2

/-- A stack of a thousand calls, with nothing below but the waiting for messages. -/
instance (priority := low) Nesting.usual : Nesting := ⟨980, 983, by decide⟩

end Json

end ChatDice

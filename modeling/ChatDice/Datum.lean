import ChatDice.Calendar
import ChatDice.Json

/-!
Configuration data: what a configuration file can hold. A mapping keeps its keys in the order in
which they first appeared, and any value that cannot change can be a key. A collection may hold
itself; it is written once, and inside of it its name stands for it.
-/

namespace ChatDice

inductive Datum
  | null
  | bool (value : Bool)
  | int (value : Int)
  | float (value : Binary64)
  /-- A number that is none, made anew; it equals its own copies only. -/
  | undefined (copy : Nat)
  | str (value : Text)
  | bytes (value : List UInt8)
  | date (value : Date)
  | moment (value : Moment)
  | list (items : List Datum)
  | tuple (items : List Datum)
  | set (members : List Datum)
  | map (entries : List (Datum × Datum))
  /-- A collection that holds itself: its name stands for it inside of its body. -/
  | knot (name : Nat) (body : Datum)
  /-- A collection inside of itself. -/
  | again (name : Nat)
  deriving Repr

instance : Inhabited Datum := ⟨.null⟩

namespace Datum

mutual

/-- Puts a value in the place of a name. -/
def replacing (name : Nat) (value : Datum) : Datum → Datum
  | .list items => .list (replacingAll name value items)
  | .tuple items => .tuple (replacingAll name value items)
  | .map entries => .map (replacingEntries name value entries)
  | .knot other body =>
    if other = name then .knot other body else .knot other (replacing name value body)
  | .again other => if other = name then value else .again other
  | d => d

def replacingAll (name : Nat) (value : Datum) : List Datum → List Datum
  | [] => []
  | item :: rest => replacing name value item :: replacingAll name value rest

def replacingEntries (name : Nat) (value : Datum) : List (Datum × Datum) → List (Datum × Datum)
  | [] => []
  | (key, item) :: rest => (key, replacing name value item) :: replacingEntries name value rest

end

/-- A value whose outermost collection is no knot: what is inside of a knot holds the whole of
it. -/
def unfolded : Datum → Datum
  | .knot name body => replacing name (.knot name body) body
  | d => d

/-- The name of a value's kind in messages. -/
def kind : Datum → Text
  | .null => "NoneType"
  | .bool _ => "bool"
  | .int _ => "int"
  | .float _ => "float"
  | .undefined _ => "float"
  | .str _ => "str"
  | .bytes _ => "bytes"
  | .date _ => "datetime.date"
  | .moment _ => "datetime.datetime"
  | .list _ => "list"
  | .tuple _ => "tuple"
  | .set _ => "set"
  | .map _ => "dict"
  | .knot _ body => body.kind
  | .again _ => "object"

/-- Null, false, zero and whatever is empty are false; all else is true. -/
def truthy : Datum → Bool
  | .null => false
  | .bool value => value
  | .int value => value != 0
  | .float value => !value.isZero
  | .str value => !value.isEmpty
  | .bytes value => !value.isEmpty
  | .list items => !items.isEmpty
  | .tuple items => !items.isEmpty
  | .set members => !members.isEmpty
  | .map entries => !entries.isEmpty
  | .knot _ body => body.truthy
  | .undefined _ | .date _ | .moment _ | .again _ => true

/-- The whole number that a scalar equals; truth values count as one and zero. -/
def whole? : Datum → Option Int
  | .bool value => some (if value then 1 else 0)
  | .int value => some value
  | .float value => value.toInt?
  | _ => none

mutual

/-- Keys that are equal numbers are one key, whatever their kinds. The number that is none is one
key as long as it is not made anew. -/
def sameKey (a b : Datum) : Bool :=
  match a, b with
  | .null, .null => true
  | .undefined m, .undefined n => m == n
  | .str s, .str t => s == t
  | .bytes s, .bytes t => s == t
  | .date x, .date y => x == y
  | .moment x, .moment y => x.isSame y
  | .tuple items, .tuple others => sameKeys items others
  | a, b =>
    match a.whole?, b.whole? with
    | some m, some n => m == n
    | none, none => match a, b with
      | .float x, .float y => x == y
      | _, _ => false
    | _, _ => false

def sameKeys : List Datum → List Datum → Bool
  | [], [] => true
  | a :: rest, b :: others => sameKey a b && sameKeys rest others
  | _, _ => false

end

mutual

/-- The kind that keeps a value from being a key: collections that can change cannot be keys, and
neither can what holds one of them. -/
def notKey? : Datum → Option Text
  | .list _ => some "list"
  | .set _ => some "set"
  | .map _ => some "dict"
  | .knot _ body => notKey? body
  | .tuple items => noneKey? items
  | _ => none

/-- The first such kind among several values. -/
def noneKey? : List Datum → Option Text
  | [] => none
  | item :: rest => (notKey? item).orElse fun _ => noneKey? rest

end

/-- A repeated key keeps its place and its first spelling, and takes the later value. -/
def put {α : Type} (entries : List (Datum × α)) (key : Datum) (value : α) : List (Datum × α) :=
  match entries with
  | [] => [(key, value)]
  | (other, old) :: rest =>
    if sameKey other key then (other, value) :: rest else (other, old) :: put rest key value

def find? (entries : List (Datum × Datum)) (name : Text) : Option Datum :=
  match entries with
  | [] => none
  | (key, value) :: rest => if sameKey key (.str name) then some value else find? rest name

/-- A value that stands where a mapping is needed, named by its kind. -/
structure NotMapping where
  kind : Text
  deriving DecidableEq, Repr

def NotMapping.message (e : NotMapping) : Text := "'" ++ e.kind ++ "' object has no attribute 'get'"

/-- What a mapping has under a name, or else a default. -/
def entry (d : Datum) (name : Text) (default : Datum) : Except NotMapping Datum :=
  match d.unfolded with
  | .map entries => .ok ((find? entries name).getD default)
  | other => .error ⟨other.kind⟩

mutual

def ofJson : Json → Datum
  | .null => .null
  | .bool value => .bool value
  | .int value => .int value
  | .float value => .float value
  | .str value => .str value
  | .arr items => .list (ofJsonItems items)
  | .obj members => .map (ofJsonMembers members)

def ofJsonItems : List Json → List Datum
  | [] => []
  | item :: rest => ofJson item :: ofJsonItems rest

def ofJsonMembers : List (Text × Json) → List (Datum × Datum)
  | [] => []
  | (name, value) :: rest => (.str name, ofJson value) :: ofJsonMembers rest

end

end Datum

end ChatDice

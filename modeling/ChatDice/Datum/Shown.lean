import ChatDice.Datum
import ChatDice.Text.Quoted

/-!
How configuration data is shown in messages. A value on its own is shown plainly, and inside of
another one texts stand in quotation marks. Where a collection stands inside of itself, three
points take its place.
-/

namespace ChatDice.Datum

/-- What stands for a collection inside of itself. -/
def ellipsis : Datum → Text
  | .map _ => "\x7b...\x7d"
  | .set _ => "set(...)"
  | .tuple _ => "(...)"
  | _ => "[...]"

mutual

/-- A value as it is shown inside of the named collections, each of which is known with what
stands for it. -/
def quotedWithin (around : List (Nat × Text)) : Datum → Except Numeral.Excess Text
  | .null => .ok "None"
  | .bool true => .ok "True"
  | .bool false => .ok "False"
  | .int n => Numeral.write n
  | .float x => .ok x.text
  | .undefined _ => .ok (Binary64.text .nan)
  | .str t => .ok (Text.quoted t)
  | .bytes value => .ok (Text.quotedBytes value)
  | .date d => .ok d.quoted
  | .moment m => .ok m.quoted
  | .list items => do return "[" ++ (← quotedItems around items) ++ "]"
  | .tuple [item] => do return "(" ++ (← quotedWithin around item) ++ ",)"
  | .tuple items => do return "(" ++ (← quotedItems around items) ++ ")"
  | .set [] => .ok "set()"
  | .set members => do return "\x7b" ++ (← quotedItems around members) ++ "\x7d"
  | .map entries => do return "\x7b" ++ (← quotedEntries around entries) ++ "\x7d"
  | .knot name body =>
    match around.lookup name with
    | some points => .ok points
    | none => quotedWithin ((name, body.ellipsis) :: around) body
  | .again name => .ok ((around.lookup name).getD "...")

def quotedItems (around : List (Nat × Text)) : List Datum → Except Numeral.Excess Text
  | [] => .ok []
  | [last] => quotedWithin around last
  | item :: rest => do return (← quotedWithin around item) ++ ", " ++ (← quotedItems around rest)

def quotedEntries (around : List (Nat × Text)) : List (Datum × Datum) → Except Numeral.Excess Text
  | [] => .ok []
  | [(key, value)] => do return (← quotedWithin around key) ++ ": " ++ (← quotedWithin around value)
  | (key, value) :: rest => do
    return (← quotedWithin around key) ++ ": " ++ (← quotedWithin around value) ++ ", "
      ++ (← quotedEntries around rest)

end

/-- A value as it is shown inside of another one. -/
def quoted (d : Datum) : Except Numeral.Excess Text := d.quotedWithin []

/-- A value as it is shown on its own. -/
def text : Datum → Except Numeral.Excess Text
  | .str t => .ok t
  | .date d => .ok d.iso
  | .moment m => .ok (m.iso " ")
  | d => d.quoted

end ChatDice.Datum

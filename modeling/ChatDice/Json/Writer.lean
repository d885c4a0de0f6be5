import ChatDice.Json

/-!
Writing JSON on one line, in printable ASCII only: every other code point is escaped by its
UTF-16 units. A blank follows each comma and each colon. A whole number over the limit on digits
keeps the value around it from being written, and so does a nesting in too many levels.
-/

namespace ChatDice.Json

/-- One UTF-16 unit by its number. -/
def unitEscape (n : Nat) : Text := "\\u" ++ Text.hex 4 n

/-- A code point outside printable ASCII becomes one unit, or two beyond the basic plane. -/
def escape (c : CodePoint) : Text :=
  if c = CodePoint.ofChar '"' then "\\\""
  else if c = CodePoint.ofChar '\\' then "\\\\"
  else if c = CodePoint.ofChar '\n' then "\\n"
  else if c = CodePoint.ofChar '\r' then "\\r"
  else if c = CodePoint.ofChar '\t' then "\\t"
  else if c.val = 0x08 then "\\b"
  else if c.val = 0x0C then "\\f"
  else if 0x20 ≤ c.val && c.val ≤ 0x7E then [c]
  else if c.val < 0x10000 then unitEscape c.val
  else unitEscape (0xD800 + (c.val - 0x10000) / 0x400) ++ unitEscape (0xDC00 + (c.val - 0x10000) % 0x400)

def quoted (t : Text) : Text := "\"" ++ t.flatMap escape ++ "\""

mutual

def render : Json → Text
  | .null => "null"
  | .bool true => "true"
  | .bool false => "false"
  | .int n => Numeral.ofInt n
  | .float x => x.jsonText
  | .str t => quoted t
  | .arr list => "[" ++ renderItems list ++ "]"
  | .obj list => "\x7b" ++ renderMembers list ++ "\x7d"

def renderItems : List Json → Text
  | [] => []
  | [last] => render last
  | item :: rest => render item ++ ", " ++ renderItems rest

def renderMembers : List (Text × Json) → Text
  | [] => []
  | [(name, value)] => quoted name ++ ": " ++ render value
  | (name, value) :: rest => quoted name ++ ": " ++ render value ++ ", " ++ renderMembers rest

end

/-- What keeps a value from being written. -/
inductive Obstacle
  | tooDeep
  | numeral (excess : Numeral.Excess)
  deriving DecidableEq, Repr

def Obstacle.message : Obstacle → Text
  | .tooDeep => "maximum recursion depth exceeded while encoding a JSON object"
  | .numeral excess => excess.message

mutual

/-- The first obstacle in a value that may nest in so many levels. -/
def obstacle? : (levels : Nat) → Json → Option Obstacle
  | _, .int n =>
    match Numeral.write n with
    | .ok _ => none
    | .error excess => some (.numeral excess)
  | 0, .arr _ => some .tooDeep
  | 0, .obj _ => some .tooDeep
  | levels + 1, .arr list => obstacleInItems? levels list
  | levels + 1, .obj list => obstacleInMembers? levels list
  | _, _ => none

def obstacleInItems? : (levels : Nat) → List Json → Option Obstacle
  | _, [] => none
  | levels, item :: rest =>
    match item.obstacle? levels with
    | some obstacle => some obstacle
    | none => obstacleInItems? levels rest

def obstacleInMembers? : (levels : Nat) → List (Text × Json) → Option Obstacle
  | _, [] => none
  | levels, (_, value) :: rest =>
    match value.obstacle? levels with
    | some obstacle => some obstacle
    | none => obstacleInMembers? levels rest

end

def write (levels : Nat) (value : Json) : Except Obstacle Text :=
  match value.obstacle? levels with
  | none => .ok value.render
  | some obstacle => .error obstacle

end ChatDice.Json

import ChatDice.Yaml.Supply

/-!
A place in a YAML text: what is left of it, how far it is, and its line and column. The columns
carry the structure of the document, so every move keeps them. Looking at what cannot be read is
an error, so a scan looks no further than it has to.
-/

namespace ChatDice.Yaml

/-- Line ends; carriage returns have become line feeds. -/
def isBreak (c : CodePoint) : Bool :=
  c.val == 0x0A || c.val == 0x85 || c.val == 0x2028 || c.val == 0x2029

def isSpace (c : CodePoint) : Bool := c.val == 0x20

def isSpaceOrTab (c : CodePoint) : Bool := c.val == 0x20 || c.val == 0x09

/-- The end of the text ends a line too. -/
def endsLine : Option CodePoint → Bool
  | none => true
  | some c => isBreak c

/-- A word is followed by white space or the end of the text. -/
def endsWord : Option CodePoint → Bool
  | none => true
  | some c => isSpaceOrTab c || isBreak c

/-- The end of a line, or a space. -/
def endsField : Option CodePoint → Bool
  | none => true
  | some c => isSpace c || isBreak c

/-- Whether a code point is one of the given characters. -/
def isOneOf (characters : String) : Option CodePoint → Bool
  | none => false
  | some c => (Text.ofString characters).contains c

structure Cursor where
  rest : Text
  defect : Option Error
  index : Nat
  line : Nat
  column : Nat
  deriving Repr

namespace Cursor

def start (supply : Supply) : Cursor := ⟨supply.codePoints, supply.defect, 0, 0, 0⟩

/-- One code point on. A byte order mark takes no column. -/
def next (cursor : Cursor) : Cursor :=
  match cursor.rest with
  | [] => cursor
  | c :: rest =>
    if isBreak c then { cursor with rest, index := cursor.index + 1, line := cursor.line + 1, column := 0 }
    else
      let width := if c.val == 0xFEFF then 0 else 1
      { cursor with rest, index := cursor.index + 1, column := cursor.column + width }

def forward : Nat → Cursor → Cursor
  | 0, cursor => cursor
  | count + 1, cursor => forward count cursor.next

end Cursor

/-- Takes something from the text at a cursor. -/
abbrev Scan := StateT Cursor (Except Error)

namespace Scan

/-- The code point at a distance, if the text goes on that far. -/
def peekAt (distance : Nat) : Scan (Option CodePoint) := do
  let cursor ← get
  match cursor.rest[distance]?, cursor.defect with
  | none, some error => throw error
  | found, _ => return found

def peek : Scan (Option CodePoint) := peekAt 0

/-- Moves on by so many code points, and looks at the one after them. -/
def skip (count : Nat) : Scan Unit := do
  modify (Cursor.forward count)
  discard peek

/-- Takes so many code points. -/
def take (count : Nat) : Scan Text := do
  let t := (← get).rest.take count
  skip count
  return t

/-- Takes code points as long as they pass a test. -/
def takeWhile (p : CodePoint → Bool) : Scan Text := do take ((← get).rest.takeWhile p).length

def skipWhile (p : CodePoint → Bool) : Scan Unit := discard (takeWhile p)

/-- How many steps a scan can take at most: each one takes a code point or is the last. -/
def steps : Scan Nat := do return (← get).rest.length + 1

/-- A line break, which becomes a line feed unless it is a separator of its own. -/
def lineBreak : Scan Text := do
  match ← peek with
  | none => return []
  | some c =>
    if !isBreak c then return []
    skip 1
    return if c.val == 0x0A || c.val == 0x85 then "\n" else [c]

/-- Whether three characters are here that separate documents. -/
def atSeparator : Scan Bool := do
  discard (peekAt 2)
  let rest := (← get).rest
  if Text.startsWith rest "---" || Text.startsWith rest "..." then return endsWord (← peekAt 3)
  return false

/-- The rest of a line may hold spaces and a comment only. -/
def endOfLine : Scan Unit := do
  skipWhile isSpace
  if isOneOf "#" (← peek) then skipWhile (!isBreak ·)
  if !endsLine (← peek) then throw .malformed
  discard lineBreak

end Scan

end ChatDice.Yaml

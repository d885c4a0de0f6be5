import ChatDice.Yaml.Cursor

/-!
The text of scalars in their four styles: plain, in single or double quotation marks, and in
literal or folded blocks. Line breaks inside of a scalar fold into spaces in all but the literal
style.
-/

namespace ChatDice.Yaml

/-- The joint of two lines: a break of its own kind stays, a line feed becomes a space unless
empty lines follow it. -/
def joint (ending breaks : Text) : Text :=
  if ending != "\n" then ending else if breaks.isEmpty then " " else ""

/-- Whether a plain scalar stops before a code point, given the one after it. -/
def plainStops (inFlow : Bool) (c : CodePoint) (after : Option CodePoint) : Bool :=
  endsWord (some c)
    || (isOneOf ":" (some c) && (endsWord after || (inFlow && isOneOf ",[]\x7b\x7d" after)))
    || (inFlow && isOneOf ",?[]\x7b\x7d" (some c))

def plainRun (inFlow : Bool) : Text → Nat
  | [] => 0
  | c :: rest => if plainStops inFlow c rest.head? then 0 else plainRun inFlow rest + 1

/-- One word of a plain scalar, empty where the scalar ends. Whether a colon ends it shows at the
code point after the colon. -/
def plainWord (inFlow : Bool) : Scan Text := do
  if isOneOf "#" (← Scan.peek) then return []
  let run := plainRun inFlow (← get).rest
  if isOneOf ":" (← Scan.peekAt run) then discard (Scan.peekAt (run + 1))
  Scan.take run

/-- The breaks after the first one, with the spaces around them, up to a separator. -/
def plainBreaks : (fuel : Nat) → Scan (Option Text)
  | 0 => return none
  | fuel + 1 => do
    Scan.skipWhile isSpace
    let ending ← Scan.lineBreak
    if ending.isEmpty then return some []
    if ← Scan.atSeparator then return none
    return (← plainBreaks fuel).map (ending ++ ·)

/-- White space within a plain scalar, and whether it holds a line break. Before a document
separator there is none. -/
def plainSpaces : Scan (Text × Bool) := do
  let spaces ← Scan.takeWhile isSpace
  let ending ← Scan.lineBreak
  if ending.isEmpty then return (spaces, false)
  if ← Scan.atSeparator then return ([], true)
  match ← plainBreaks (← Scan.steps) with
  | none => return ([], true)
  | some breaks => return (joint ending breaks ++ breaks, true)

/-- Reads on; `spaces` stand before the next word if there is one. The second component tells
whether a line break came last. -/
def plainRest (inFlow : Bool) (indent : Nat) : (fuel : Nat) → (spaces : Text) → (broken : Bool) → Scan (Text × Bool)
  | 0, _, broken => return ([], broken)
  | fuel + 1, spaces, broken => do
    let word ← plainWord inFlow
    if word.isEmpty then return ([], broken)
    let (after, broken) ← plainSpaces
    if after.isEmpty || isOneOf "#" (← Scan.peek) || (!inFlow && (← get).column < indent) then
      return (spaces ++ word, broken)
    let (rest, broken) ← plainRest inFlow indent fuel after broken
    return (spaces ++ word ++ rest, broken)

/-- A plain scalar; outside of flow collections its later lines are indented. -/
def plainScalar (inFlow : Bool) (indent : Nat) : Scan (Text × Bool) := do
  plainRest inFlow indent (← Scan.steps) [] false

/-- Escapes of one character after the backslash. -/
def escapes : List (Char × Nat) :=
  [('0', 0x00), ('a', 0x07), ('b', 0x08), ('t', 0x09), ('\t', 0x09), ('n', 0x0A), ('v', 0x0B),
    ('f', 0x0C), ('r', 0x0D), ('e', 0x1B), (' ', 0x20), ('"', 0x22), ('\\', 0x5C), ('/', 0x2F),
    ('N', 0x85), ('_', 0xA0), ('L', 0x2028), ('P', 0x2029)]

/-- How many hexadecimal digits follow the letter of a numeric escape. -/
def escapeWidth? (c : CodePoint) : Option Nat :=
  if c = CodePoint.ofChar 'x' then some 2
  else if c = CodePoint.ofChar 'u' then some 4
  else if c = CodePoint.ofChar 'U' then some 8
  else none

/-- The number that the next hexadecimal digits denote, which stay; there must be so many. -/
def hexNumber (count : Nat) : Scan Nat :=
  (List.range count).foldlM (fun n distance => do
    match (← Scan.peekAt distance).bind CodePoint.hexValue? with
    | some digit => return n * 16 + digit
    | none => throw .malformed) 0

/-- Line breaks in a quoted scalar, with the white space at the start of each line. -/
def quotedBreaks : (fuel : Nat) → Scan Text
  | 0 => throw .malformed
  | fuel + 1 => do
    if ← Scan.atSeparator then throw .malformed
    Scan.skipWhile isSpaceOrTab
    let ending ← Scan.lineBreak
    if ending.isEmpty then return []
    return ending ++ (← quotedBreaks fuel)

/-- White space in a quoted scalar; a single break becomes a space. -/
def quotedSpaces : Scan Text := do
  let spaces ← Scan.takeWhile isSpaceOrTab
  if (← Scan.peek).isNone then throw .malformed
  let ending ← Scan.lineBreak
  if ending.isEmpty then return spaces
  let breaks ← quotedBreaks (← Scan.steps)
  return joint ending breaks ++ breaks

/-- What stands after a backslash. An escaped line break vanishes with the indentation after
it. -/
def escaped : Scan Text := do
  match ← Scan.peek with
  | none => throw .malformed
  | some c =>
    match escapes.find? fun entry => CodePoint.ofChar entry.1 = c with
    | some (_, n) =>
      Scan.skip 1
      return [CodePoint.ofNat n]
    | none =>
      match escapeWidth? c with
      | some width =>
        Scan.skip 1
        let n ← hexNumber width
        if 0x110000 ≤ n then throw (.noSuchCodePoint n)
        Scan.skip width
        return [CodePoint.ofNat n]
      | none =>
        if !isBreak c then throw .malformed
        discard Scan.lineBreak
        quotedBreaks (← Scan.steps)

/-- Code points that stand for themselves in both kinds of quotation marks. -/
def isQuotedOrdinary (c : CodePoint) : Bool := !(endsWord (some c) || isOneOf "'\"\\" (some c))

/-- A part of a quoted scalar without white space. A mark in single quotes is written twice; only
double quotes have escapes. -/
def quotedPart (double : Bool) : (fuel : Nat) → Scan Text
  | 0 => throw .malformed
  | fuel + 1 => do
    let run ← Scan.takeWhile isQuotedOrdinary
    let next ← Scan.peek
    if !double && isOneOf "'" next then
      if !isOneOf "'" (← Scan.peekAt 1) then return run
      Scan.skip 2
      return run ++ "'" ++ (← quotedPart double fuel)
    else if isOneOf (if double then "'" else "\"\\") next then
      let mark ← Scan.take 1
      return run ++ mark ++ (← quotedPart double fuel)
    else if double && isOneOf "\\" next then
      Scan.skip 1
      let t ← escaped
      return run ++ t ++ (← quotedPart double fuel)
    else return run

/-- Reads on to the closing mark. -/
def quotedRest (double : Bool) : (fuel : Nat) → Scan Text
  | 0 => throw .malformed
  | fuel + 1 => do
    let part ← quotedPart double (← Scan.steps)
    if isOneOf (if double then "\"" else "'") (← Scan.peek) then
      Scan.skip 1
      return part
    let spaces ← quotedSpaces
    return part ++ spaces ++ (← quotedRest double fuel)

/-- A quoted scalar, from its opening mark on. -/
def quotedScalar (double : Bool) : Scan Text := do
  Scan.skip 1
  quotedRest double (← Scan.steps)

/-- What the header of a block says: whether line breaks at the end are all kept, all dropped, or
cut to one, and by how much the block is indented. -/
structure BlockHeader where
  keep : Option Bool
  indentation : Option Nat

private def chomping? : Scan (Option Bool) := do
  let next ← Scan.peek
  if !isOneOf "+-" next then return none
  Scan.skip 1
  return some (isOneOf "+" next)

private def blockDigit? : Scan (Option Nat) := do
  match ← Scan.peek with
  | none => return none
  | some c =>
    if !c.isDigit then return none
    if c.digitValue = 0 then throw .malformed
    Scan.skip 1
    return some c.digitValue

/-- The two indicators may come in either order. -/
def blockHeader : Scan BlockHeader := do
  let first ← chomping?
  let indentation ← blockDigit?
  let keep ← if first.isNone && indentation.isSome then chomping? else pure first
  if !endsField (← Scan.peek) then throw .malformed
  return ⟨keep, indentation⟩

/-- Leading breaks of a block whose indentation is found from its deepest space. -/
def blockIndentation : (fuel : Nat) → (breaks : Text) → (deepest : Nat) → Scan (Text × Nat)
  | 0, breaks, deepest => return (breaks, deepest)
  | fuel + 1, breaks, deepest => do
    if isOneOf " " (← Scan.peek) then
      Scan.skip 1
      blockIndentation fuel breaks (max deepest (← get).column)
    else
      let ending ← Scan.lineBreak
      if ending.isEmpty then return (breaks, deepest)
      blockIndentation fuel (breaks ++ ending) deepest

/-- Spaces up to a column. -/
def skipIndent (indent : Nat) : (fuel : Nat) → Scan Unit
  | 0 => return
  | fuel + 1 => do
    if (← get).column < indent then
      if isOneOf " " (← Scan.peek) then
        Scan.skip 1
        skipIndent indent fuel

/-- Breaks of empty lines before the next line of a block. -/
def blockBreaks (indent : Nat) : (fuel : Nat) → Scan Text
  | 0 => return []
  | fuel + 1 => do
    skipIndent indent indent
    let ending ← Scan.lineBreak
    if ending.isEmpty then return []
    return ending ++ (← blockBreaks indent fuel)

/-- What lines of a block come to: their text, the break that ends the last of them, and the
breaks of the empty lines after it. -/
structure BlockLines where
  text : Text
  ending : Text
  breaks : Text

/-- The lines of a block after some breaks. A folded block joins two lines by a space unless one
of them starts with white space or empty lines stand between them. -/
def blockLines (folded : Bool) (indent : Nat) : (fuel : Nat) → (breaks : Text) → Scan BlockLines
  | 0, breaks => return ⟨[], [], breaks⟩
  | fuel + 1, breaks => do
    if (← get).column != indent || (← Scan.peek).isNone then return ⟨[], [], breaks⟩
    let indented := isOneOf " \t" (← Scan.peek)
    let line ← Scan.takeWhile (!isBreak ·)
    let ending ← Scan.lineBreak
    let further ← blockBreaks indent (← Scan.steps)
    if (← get).column != indent || (← Scan.peek).isNone then return ⟨breaks ++ line, ending, further⟩
    let folds := folded && ending = "\n" && !indented && !isOneOf " \t" (← Scan.peek)
    let between : Text := if !folds then ending else if further.isEmpty then " " else ""
    let rest ← blockLines folded indent fuel further
    return { rest with text := breaks ++ line ++ between ++ rest.text }

/-- A block scalar, from its indicator on; `leastIndent` is the least column of its lines. -/
def blockScalar (folded : Bool) (leastIndent : Nat) : Scan Text := do
  Scan.skip 1
  let header ← blockHeader
  Scan.endOfLine
  let (breaks, indent) ← match header.indentation with
    | some n => do
      let indent := leastIndent + n - 1
      pure (← blockBreaks indent (← Scan.steps), indent)
    | none => do
      let (breaks, deepest) ← blockIndentation (← Scan.steps) [] 0
      pure (breaks, max leastIndent deepest)
  let lines ← blockLines folded indent (← Scan.steps) breaks
  return lines.text ++ match header.keep with
    | some true => lines.ending ++ lines.breaks
    | some false => []
    | none => lines.ending

end ChatDice.Yaml

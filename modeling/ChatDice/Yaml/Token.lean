import ChatDice.Text.Utf8
import ChatDice.Yaml.Scalar

/-!
The tokens of a YAML text. Indentation is turned into tokens that open and close collections.
Whether a scalar is a key shows only at the colon after it, so the places where a key may have
started are remembered, and the tokens that announce it are put in there. A token is given out as
soon as it is sure that nothing will be put in before it.
-/

namespace ChatDice.Yaml

inductive Token
  | versionDirective (major minor : Nat)
  | tagDirective (handle replacement : Text)
  | otherDirective
  | documentStart
  | documentEnd
  | streamEnd
  | blockSequenceStart
  | blockMappingStart
  | blockEnd
  | flowSequenceStart
  | flowSequenceEnd
  | flowMappingStart
  | flowMappingEnd
  | blockEntry
  | flowEntry
  | key
  | value
  | alias (name : Text)
  | anchor (name : Text)
  | tag (handle : Option Text) (suffix : Text)
  | scalar (text : Text) (plain : Bool)
  deriving DecidableEq, Repr

/-- A place where a key may have started, by the number of the token there. Outside of flow
collections it must be one if it stands at the indentation of its mapping. -/
structure KeyPlace where
  flowLevel : Nat
  token : Nat
  required : Bool
  index : Nat
  line : Nat
  column : Int
  deriving Repr

/-- The state of the division into tokens: how many were taken, and those that wait to be. `indent`
is the column of the innermost block collection, and -1 outside of all. -/
structure Lexer where
  cursor : Cursor
  taken : Nat
  waiting : List Token
  flowLevel : Nat
  indent : Int
  indents : List Int
  keyAllowed : Bool
  keyPlaces : List KeyPlace
  finished : Bool

namespace Lexer

def start (supply : Supply) : Lexer :=
  { cursor := .start supply, taken := 0, waiting := [], flowLevel := 0, indent := -1, indents := []
    keyAllowed := true, keyPlaces := [], finished := false }

def inFlow (lexer : Lexer) : Bool := lexer.flowLevel != 0

def column (lexer : Lexer) : Int := lexer.cursor.column

def add (lexer : Lexer) (token : Token) : Lexer := { lexer with waiting := lexer.waiting ++ [token] }

/-- Takes something from the text. -/
def scan {α : Type} (lexer : Lexer) (s : Scan α) : Except Error (α × Lexer) := do
  let (a, cursor) ← s.run lexer.cursor
  return (a, { lexer with cursor })

/-- A key stands on one line and is at most 1024 code points long. -/
def dropStaleKeys (lexer : Lexer) : Except Error Lexer :=
  let stale (place : KeyPlace) : Bool :=
    place.line != lexer.cursor.line || place.index + 1024 < lexer.cursor.index
  if lexer.keyPlaces.any fun place => stale place && place.required then .error .malformed
  else .ok { lexer with keyPlaces := lexer.keyPlaces.filter fun place => !stale place }

/-- Forgets the place on this flow level. -/
def dropKey (lexer : Lexer) : Except Error Lexer :=
  let here (place : KeyPlace) : Bool := place.flowLevel == lexer.flowLevel
  if lexer.keyPlaces.any fun place => here place && place.required then .error .malformed
  else .ok { lexer with keyPlaces := lexer.keyPlaces.filter fun place => !here place }

/-- Remembers that a key may start here. -/
def saveKey (lexer : Lexer) : Except Error Lexer := do
  if !lexer.keyAllowed then return lexer
  let required := !lexer.inFlow && lexer.indent == lexer.column
  let lexer ← lexer.dropKey
  let cursor := lexer.cursor
  let place : KeyPlace :=
    { flowLevel := lexer.flowLevel, token := lexer.taken + lexer.waiting.length, required
      index := cursor.index, line := cursor.line, column := cursor.column }
  return { lexer with keyPlaces := place :: lexer.keyPlaces }

/-- Closes the block collections that are indented beyond a column. -/
def unwind (column : Int) : (fuel : Nat) → Lexer → Lexer
  | 0, lexer => lexer
  | fuel + 1, lexer =>
    if !lexer.inFlow && column < lexer.indent then
      let (indent, indents) := match lexer.indents with
        | indent :: indents => (indent, indents)
        | [] => (-1, [])
      unwind column fuel ({ lexer with indent, indents }.add .blockEnd)
    else lexer

def unwindTo (lexer : Lexer) (column : Int) : Lexer := lexer.unwind column (lexer.indents.length + 1)

/-- Opens a block collection at a column beyond the current one; tells whether it did. -/
def addIndent (lexer : Lexer) (column : Int) : Lexer × Bool :=
  if lexer.indent < column then
    ({ lexer with indent := column, indents := lexer.indent :: lexer.indents }, true)
  else (lexer, false)

/-- Spaces, comments and line breaks before a token; tells whether there was a line break. -/
def blanks : (fuel : Nat) → Scan Bool
  | 0 => return false
  | fuel + 1 => do
    Scan.skipWhile isSpace
    if isOneOf "#" (← Scan.peek) then Scan.skipWhile (!isBreak ·)
    if (← Scan.lineBreak).isEmpty then return false
    discard (blanks fuel)
    return true

/-- Goes on to the next token. A line break outside of flow collections lets a key start. -/
def skipBlanks (lexer : Lexer) : Except Error Lexer := do
  let (broken, lexer) ← lexer.scan do
    let next ← Scan.peek
    if (← get).index = 0 && next = some 0xFEFF then Scan.skip 1
    blanks (← Scan.steps)
  return { lexer with keyAllowed := lexer.keyAllowed || (broken && !lexer.inFlow) }

/-- A mark of one code point that needs no more than its token. -/
def addMark (lexer : Lexer) (token : Token) : Except Error Lexer := do
  let (_, lexer) ← lexer.scan (Scan.skip 1)
  return lexer.add token

def isNameCodePoint (c : CodePoint) : Bool := c.isAlphanumeric || isOneOf "-_" (some c)

private def directiveNumber : Scan Nat := do
  let digits := (← get).rest.takeWhile CodePoint.isDigit
  discard (Scan.peekAt digits.length)
  if digits.isEmpty then throw .malformed
  match Numeral.read digits with
  | .ok n =>
    Scan.skip digits.length
    return n
  | .error excess => throw (.numeral excess)

/-- A tag handle: marks of exclamation around a name, or one alone. -/
def tagHandle : Scan Text := do
  if !isOneOf "!" (← Scan.peek) then throw .malformed
  Scan.skip 1
  if isOneOf " " (← Scan.peek) then return "!"
  let name ← Scan.takeWhile isNameCodePoint
  if !isOneOf "!" (← Scan.peek) then throw .malformed
  Scan.skip 1
  return "!" ++ name ++ "!"

private def isUriCodePoint (c : CodePoint) : Bool :=
  c.isAlphanumeric || isOneOf "-;/?:@&=+$,_.!~*'()[]" (some c)

/-- The bytes of a run of percent escapes. -/
private def uriBytes : (fuel : Nat) → Scan (List UInt8)
  | 0 => throw .malformed
  | fuel + 1 => do
    if !isOneOf "%" (← Scan.peek) then return []
    Scan.skip 1
    let n ← hexNumber 2
    Scan.skip 2
    return n.toUInt8 :: (← uriBytes fuel)

private def tagUriRest : (fuel : Nat) → Scan Text
  | 0 => throw .malformed
  | fuel + 1 => do
    let run ← Scan.takeWhile isUriCodePoint
    if !isOneOf "%" (← Scan.peek) then return run
    match Utf8.decode (← uriBytes (← Scan.steps)) with
    | some t => return run ++ t ++ (← tagUriRest fuel)
    | none => throw .malformed

def tagUri : Scan Text := do
  let uri ← tagUriRest (← Scan.steps)
  if uri.isEmpty then throw .malformed
  return uri

/-- A directive, from its percent sign to the end of its line. -/
def directive : Scan Token := do
  Scan.skip 1
  let name ← Scan.takeWhile isNameCodePoint
  if name.isEmpty || !endsField (← Scan.peek) then throw .malformed
  let token ← if name = "YAML" then do
      Scan.skipWhile isSpace
      let major ← directiveNumber
      if !isOneOf "." (← Scan.peek) then throw .malformed
      Scan.skip 1
      let minor ← directiveNumber
      if !endsField (← Scan.peek) then throw .malformed
      pure (Token.versionDirective major minor)
    else if name = "TAG" then do
      Scan.skipWhile isSpace
      let handle ← tagHandle
      if !isOneOf " " (← Scan.peek) then throw .malformed
      Scan.skipWhile isSpace
      let replacement ← tagUri
      if !endsField (← Scan.peek) then throw .malformed
      pure (Token.tagDirective handle replacement)
    else do
      Scan.skipWhile (!isBreak ·)
      pure Token.otherDirective
  Scan.endOfLine
  return token

def addDirective (lexer : Lexer) : Except Error Lexer := do
  let lexer ← (lexer.unwindTo (-1)).dropKey
  let (token, lexer) ← lexer.scan directive
  return { lexer with keyAllowed := false }.add token

def addDocumentMark (lexer : Lexer) (token : Token) : Except Error Lexer := do
  let lexer ← (lexer.unwindTo (-1)).dropKey
  let (_, lexer) ← lexer.scan (Scan.skip 3)
  return { lexer with keyAllowed := false }.add token

def addStreamEnd (lexer : Lexer) : Except Error Lexer := do
  let lexer ← (lexer.unwindTo (-1)).dropKey
  return { lexer with keyAllowed := false, keyPlaces := [], finished := true }.add .streamEnd

def openFlow (lexer : Lexer) (token : Token) : Except Error Lexer := do
  let lexer ← lexer.saveKey
  { lexer with flowLevel := lexer.flowLevel + 1, keyAllowed := true }.addMark token

def closeFlow (lexer : Lexer) (token : Token) : Except Error Lexer := do
  let lexer ← lexer.dropKey
  { lexer with flowLevel := lexer.flowLevel - 1, keyAllowed := false }.addMark token

def addFlowEntry (lexer : Lexer) : Except Error Lexer := do
  let lexer ← { lexer with keyAllowed := true }.dropKey
  lexer.addMark .flowEntry

/-- Opens a block collection here if this column is new. -/
def openBlock (lexer : Lexer) (token : Token) : Except Error Lexer :=
  if lexer.inFlow then .ok lexer
  else if !lexer.keyAllowed then .error .malformed
  else match lexer.addIndent lexer.column with
    | (lexer, true) => .ok (lexer.add token)
    | (lexer, false) => .ok lexer

def addBlockEntry (lexer : Lexer) : Except Error Lexer := do
  let lexer ← lexer.openBlock .blockSequenceStart
  let lexer ← { lexer with keyAllowed := true }.dropKey
  lexer.addMark .blockEntry

def addKey (lexer : Lexer) : Except Error Lexer := do
  let lexer ← lexer.openBlock .blockMappingStart
  let lexer ← { lexer with keyAllowed := !lexer.inFlow }.dropKey
  lexer.addMark .key

/-- A colon turns the place remembered on this level into a key; without one it has an empty
key. -/
def addValue (lexer : Lexer) : Except Error Lexer := do
  match lexer.keyPlaces.find? fun place => place.flowLevel == lexer.flowLevel with
  | some place =>
    let others := lexer.keyPlaces.filter fun place => place.flowLevel != lexer.flowLevel
    let (lexer, opened) := if lexer.inFlow then (lexer, false) else lexer.addIndent place.column
    let announced : List Token := if opened then [.blockMappingStart, .key] else [.key]
    let before := place.token - lexer.taken
    let waiting := lexer.waiting.take before ++ announced ++ lexer.waiting.drop before
    { lexer with waiting, keyPlaces := others, keyAllowed := false }.addMark .value
  | none =>
    let lexer ← lexer.openBlock .blockMappingStart
    let lexer ← { lexer with keyAllowed := !lexer.inFlow }.dropKey
    lexer.addMark .value

/-- The name of an anchor or an alias, after its mark. -/
def anchorName : Scan Text := do
  Scan.skip 1
  let name ← Scan.takeWhile isNameCodePoint
  if name.isEmpty then throw .malformed
  let next ← Scan.peek
  if endsWord next || isOneOf "?:,]\x7d%@\x60" next then return name
  throw .malformed

def addAnchor (lexer : Lexer) (token : Text → Token) : Except Error Lexer := do
  let lexer ← lexer.saveKey
  let (name, lexer) ← lexer.scan anchorName
  return { lexer with keyAllowed := false }.add (token name)

/-- Whether a mark of exclamation ends the handle of the tag here. -/
private def hasHandle : Scan Bool := do
  let word := ((← get).rest.drop 1).takeWhile fun c => !endsField (some c) && !isOneOf "!" (some c)
  return isOneOf "!" (← Scan.peekAt (word.length + 1))

def tagToken : Scan Token := do
  let after ← Scan.peekAt 1
  let token ← if isOneOf "<" after then do
      Scan.skip 2
      let suffix ← tagUri
      if !isOneOf ">" (← Scan.peek) then throw .malformed
      Scan.skip 1
      pure (Token.tag none suffix)
    else if endsWord after then do
      Scan.skip 1
      pure (Token.tag none "!")
    else do
      let handle ← if ← hasHandle then tagHandle else do
        Scan.skip 1
        pure "!"
      pure (Token.tag (some handle) (← tagUri))
  if !endsField (← Scan.peek) then throw .malformed
  return token

def addTag (lexer : Lexer) : Except Error Lexer := do
  let lexer ← lexer.saveKey
  let (token, lexer) ← lexer.scan tagToken
  return { lexer with keyAllowed := false }.add token

def addBlockScalar (lexer : Lexer) (folded : Bool) : Except Error Lexer := do
  let lexer ← { lexer with keyAllowed := true }.dropKey
  let (t, lexer) ← lexer.scan (blockScalar folded (max (lexer.indent + 1) 1).toNat)
  return lexer.add (.scalar t false)

def addQuoted (lexer : Lexer) (double : Bool) : Except Error Lexer := do
  let lexer ← lexer.saveKey
  let (t, lexer) ← lexer.scan (quotedScalar double)
  return { lexer with keyAllowed := false }.add (.scalar t false)

def addPlain (lexer : Lexer) : Except Error Lexer := do
  let lexer ← lexer.saveKey
  let ((t, broken), lexer) ← lexer.scan (plainScalar lexer.inFlow (lexer.indent + 1).toNat)
  return { lexer with keyAllowed := broken }.add (.scalar t true)

/-- What the next code points announce. -/
inductive Ahead
  | nothing
  | directive
  | separator (token : Token)
  | opening (token : Token)
  | closing (token : Token)
  | flowEntry
  | blockEntry
  | key
  | value
  | alias
  | anchor
  | tag
  | block (folded : Bool)
  | quoted (double : Bool)
  | plain

/-- A mark that needs white space behind it, at least outside of flow collections. -/
private def standsAlone (inFlow : Bool) : Scan Bool := do
  if inFlow then return true
  return endsWord (← Scan.peekAt 1)

/-- Whether a plain scalar can start with a mark, which it can if a word follows the mark. -/
private def startsPlain (inFlow : Bool) (c : CodePoint) : Scan Bool := do
  if !(endsWord (some c) || isOneOf "-?:,[]\x7b\x7d#&*!|>'\"%@\x60" (some c)) then return true
  if endsWord (← Scan.peekAt 1) then return false
  return isOneOf "-" (some c) || (!inFlow && isOneOf "?:" (some c))

/-- Looks ahead as far as it takes to tell what comes. -/
def ahead (inFlow : Bool) : Scan Ahead := do
  match ← Scan.peek with
  | none => return .nothing
  | some c =>
    let is (mark : Char) : Bool := c = CodePoint.ofChar mark
    let atLineStart := (← get).column = 0
    if is '%' && atLineStart then return .directive
    if is '-' && atLineStart then if ← Scan.atSeparator then return .separator .documentStart
    if is '.' && atLineStart then if ← Scan.atSeparator then return .separator .documentEnd
    if is '[' then return .opening .flowSequenceStart
    if is '\x7b' then return .opening .flowMappingStart
    if is ']' then return .closing .flowSequenceEnd
    if is '\x7d' then return .closing .flowMappingEnd
    if is ',' then return .flowEntry
    if is '-' then if ← standsAlone false then return .blockEntry
    if is '?' then if ← standsAlone inFlow then return .key
    if is ':' then if ← standsAlone inFlow then return .value
    if is '*' then return .alias
    if is '&' then return .anchor
    if is '!' then return .tag
    if is '|' && !inFlow then return .block false
    if is '>' && !inFlow then return .block true
    if is '\'' then return .quoted false
    if is '"' then return .quoted true
    if ← startsPlain inFlow c then return .plain
    throw .malformed

/-- The next token, with those that indentation and keys bring along. -/
def step (lexer : Lexer) : Except Error Lexer := do
  let lexer ← (← lexer.skipBlanks).dropStaleKeys
  let lexer := lexer.unwindTo lexer.column
  let (next, lexer) ← lexer.scan (ahead lexer.inFlow)
  match next with
  | .nothing => lexer.addStreamEnd
  | .directive => lexer.addDirective
  | .separator token => lexer.addDocumentMark token
  | .opening token => lexer.openFlow token
  | .closing token => lexer.closeFlow token
  | .flowEntry => lexer.addFlowEntry
  | .blockEntry => lexer.addBlockEntry
  | .key => lexer.addKey
  | .value => lexer.addValue
  | .alias => lexer.addAnchor .alias
  | .anchor => lexer.addAnchor .anchor
  | .tag => lexer.addTag
  | .block folded => lexer.addBlockScalar folded
  | .quoted double => lexer.addQuoted double
  | .plain => lexer.addPlain

/-- Whether the first waiting token may turn out to be a key. -/
def firstIsOpen (lexer : Lexer) : Bool :=
  lexer.waiting.isEmpty || lexer.keyPlaces.any fun place => place.token == lexer.taken

/-- Divides on until the first waiting token is sure. Every step takes at least one code point or
finishes. -/
def settle : (fuel : Nat) → Lexer → Except Error Lexer
  | 0, lexer => .ok lexer
  | fuel + 1, lexer => do
    if lexer.finished then return lexer
    let lexer ← if lexer.waiting.isEmpty then pure lexer else lexer.dropStaleKeys
    if lexer.firstIsOpen then settle fuel (← lexer.step) else return lexer

def settled (lexer : Lexer) : Except Error Lexer := lexer.settle (lexer.cursor.rest.length + 2)

/-- The next token, which stays, once it is sure. -/
def peek (lexer : Lexer) : Except Error (Token × Lexer) := do
  let lexer ← lexer.settled
  match lexer.waiting with
  | token :: _ => return (token, lexer)
  | [] => throw .malformed

def drop (lexer : Lexer) : Lexer :=
  { lexer with taken := lexer.taken + 1, waiting := lexer.waiting.drop 1 }

end Lexer

end ChatDice.Yaml

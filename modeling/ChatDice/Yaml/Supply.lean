import ChatDice.Text.Lines
import ChatDice.Text.Utf8
import ChatDice.Yaml.Error

/-!
How the bytes of a file come in as code points. They are decoded and checked window by window, and
a window is read only when one of its code points is needed, so a defect in a later window does not
keep an earlier part from being understood.
-/

namespace ChatDice.Yaml

/-- Code points that may stand in a YAML text. -/
def isAdmitted (c : CodePoint) : Bool :=
  c.val == 0x09 || c.val == 0x0A || c.val == 0x0D || c.val == 0x85
    || (0x20 ≤ c.val && c.val ≤ 0x7E) || (0xA0 ≤ c.val && c.val ≤ 0xD7FF)
    || (0xE000 ≤ c.val && c.val ≤ 0xFFFD) || 0x10000 ≤ c.val

/-- Code points up to the end of a file, or up to a window that cannot be read. -/
structure Supply where
  codePoints : Text
  defect : Option Error
  deriving Repr

/-- The code points of a window, and the bytes of a chunk that is decoded at once. -/
def windowSize : Nat := 4096

def chunkSize : Nat := 8192

/-- A file that is being read: the bytes ahead, the beginning of a code point and the carriage
return that wait for what follows them, and the code points that are not used yet. The size of the
last chunk in bytes and in code points tells how many bytes to take next. -/
structure Feed where
  bytes : List UInt8
  begun : List UInt8
  heldReturn : Bool
  ready : Text
  lastBytes : Nat
  lastCodePoints : Nat

namespace Feed

def ofBytes (bytes : List UInt8) : Feed := ⟨bytes, [], false, [], 0, 0⟩

/-- How many bytes so many code points will need at the rate of the last chunk. -/
def estimate (feed : Feed) (wanted : Nat) : Nat :=
  if feed.lastCodePoints = 0 then wanted
  else max wanted (wanted * feed.lastBytes / feed.lastCodePoints)

/-- Decodes the next chunk. The end of the file is told apart from what may go on. -/
def fetch (feed : Feed) (wanted : Nat) : Except Error (Feed × Bool) :=
  let amount := max chunkSize (feed.estimate wanted)
  let chunk := feed.bytes.take amount
  let last := chunk.isEmpty
  let decoded :=
    if last then (Utf8.decode feed.begun).map fun t => (t, [])
    else Utf8.decodeBeginning (feed.begun ++ chunk)
  match decoded with
  | none => .error .undecodable
  | some (t, begun) =>
    let t : Text := if feed.heldReturn then '\r' :: t else t
    let heldReturn := !last && t.getLast? == some (CodePoint.ofChar '\r')
    let ready := Text.unifiedBreaks (if heldReturn then t.dropLast else t)
    .ok ({ bytes := feed.bytes.drop amount, begun, heldReturn, ready
           lastBytes := chunk.length, lastCodePoints := ready.length }, !last || !ready.isEmpty)

/-- Takes so many code points, or fewer at the end of the file. Every chunk takes at least one
byte. -/
def take : (fuel : Nat) → (wanted : Nat) → Feed → Except Error (Text × Feed)
  | 0, _, feed => .ok ([], feed)
  | fuel + 1, wanted, feed => do
    let given := feed.ready.take wanted
    let feed := { feed with ready := feed.ready.drop wanted }
    if given.length = wanted then return (given, feed)
    let (feed, goesOn) ← feed.fetch (wanted - given.length)
    if !goesOn then return (given, feed)
    let (rest, feed) ← take fuel (wanted - given.length) feed
    return (given ++ rest, feed)

def window (feed : Feed) : Except Error (Text × Feed) :=
  feed.take (feed.bytes.length + 2) windowSize

end Feed

namespace Supply

/-- A window after those before it, with what its reading gives. -/
def ofWindow (read : Except Error (Text × Feed)) (further : Feed → Supply) : Supply :=
  match read with
  | .error error => ⟨[], some error⟩
  | .ok (t, feed) =>
    if t.isEmpty then ⟨[], none⟩
    else if t.all isAdmitted then
      let rest := further feed
      ⟨t ++ rest.codePoints, rest.defect⟩
    else ⟨[], some .malformed⟩

/-- All windows from one on. -/
def ofFeed : (fuel : Nat) → Feed → Supply
  | 0, _ => ⟨[], none⟩
  | fuel + 1, feed => ofWindow feed.window (ofFeed fuel)

/-- What a file supplies. The first two windows are read as one. -/
def ofBytes (bytes : List UInt8) : Supply :=
  let opening : Except Error (Text × Feed) := do
    let (first, feed) ← (Feed.ofBytes bytes).window
    let (second, feed) ← feed.window
    return (first ++ second, feed)
  ofWindow opening (ofFeed (bytes.length + 1))

end Supply

end ChatDice.Yaml

import ChatDice.Text.Numeral
import ChatDice.Text.Quoted
import ChatDice.Text.Words

/-!
Version numbers: a release with optional marks for pre-releases, post-releases, development
releases and local builds. They are read in any case with white space around them, and are ordered
by their meaning, so that `2`, `2.0` and `v2.00` are equal.
-/

namespace ChatDice

/-- The stage of a pre-release. -/
inductive Version.Stage
  | alpha
  | beta
  | candidate
  deriving DecidableEq, Repr

/-- A part of a local label: a number or a word. -/
inductive Version.LocalPart
  | word (text : Text)
  | number (value : Nat)
  deriving DecidableEq, Repr

structure Version where
  epoch : Nat
  release : List Nat
  pre : Option (Version.Stage × Nat)
  post : Option Nat
  development : Option Nat
  label : Option (List Version.LocalPart)
  deriving DecidableEq, Repr

namespace Version

/-- Why a text is no version. -/
inductive Error
  | malformed (given : Text)
  | numeral (excess : Numeral.Excess)
  deriving DecidableEq, Repr

def Error.message : Error → Text
  | .malformed given => "Invalid version: " ++ given.quoted
  | .numeral excess => excess.message

/-- The lower case of a letter. Four letters beyond ASCII are cases of ASCII letters, too. -/
def inLowerCase (c : CodePoint) : CodePoint :=
  if c.val = 0x130 || c.val = 0x131 then CodePoint.ofChar 'i'
  else if c.val = 0x17F then CodePoint.ofChar 's'
  else if c.val = 0x212A then CodePoint.ofChar 'k'
  else c.toLower

/-- The text after one of the marks that may stand between parts. -/
def skipSeparator : Text → Text
  | c :: rest => if (Text.ofString "._-").contains c then rest else c :: rest
  | [] => []

/-- The text after the first of some words that it starts with, and what that word means. -/
def word? {α : Type} (words : List (String × α)) (t : Text) : Option (α × Text) :=
  words.findSome? fun (word, meaning) =>
    if t.startsWith word then some (meaning, t.drop word.length) else none

def digits (t : Text) : Text × Text := (t.takeWhile CodePoint.isDigit, t.dropWhile CodePoint.isDigit)

/-- A mark with an optional number, and optional separators around the mark. -/
def marked? {α : Type} (words : List (String × α)) (t : Text) : Option ((α × Text) × Text) :=
  (word? words (skipSeparator t)).map fun (meaning, rest) =>
    let (number, rest) := digits (skipSeparator rest)
    ((meaning, number), rest)

/-- The longest words come first. -/
def stageWords : List (String × Stage) :=
  [("alpha", .alpha), ("a", .alpha), ("beta", .beta), ("b", .beta), ("preview", .candidate),
    ("pre", .candidate), ("c", .candidate), ("rc", .candidate)]

def postWords : List (String × Unit) := [("post", ()), ("rev", ()), ("r", ())]

/-- The number of a post-release, which may stand alone after a hyphen. -/
def post? (t : Text) : Option (Text × Text) :=
  let short := match t with
    | c :: rest =>
      let (number, rest) := digits rest
      if c = CodePoint.ofChar '-' && !number.isEmpty then some (number, rest) else none
    | [] => none
  short.orElse fun _ => (marked? postWords t).map fun (part, rest) => (part.2, rest)

/-- An optional part: the text stays as it is where the part is absent. -/
def optional {α : Type} (part : Option (α × Text)) (t : Text) : Option α × Text :=
  match part with
  | some (value, rest) => (some value, rest)
  | none => (none, t)

/-- The parts of a release after its first number. -/
def releaseRest : (fuel : Nat) → Text → List Text × Text
  | 0, t => ([], t)
  | fuel + 1, t =>
    match t with
    | [] => ([], [])
    | c :: rest =>
      let (number, after) := digits rest
      if c = CodePoint.ofChar '.' && !number.isEmpty then
        let (numbers, after) := releaseRest fuel after
        (number :: numbers, after)
      else ([], t)

/-- The words of a local label with separators between them, up to the end of the text. -/
def labelParts? (t : Text) : Option (List Text) :=
  let unified : Text := t.map fun c => if (Text.ofString "-_").contains c then CodePoint.ofChar '.' else c
  let parts := Text.splitOn '.' unified
  if parts.all fun part => !part.isEmpty && part.all CodePoint.isAlphanumeric then some parts else none

/-- The parts of a version as they are written. -/
structure Written where
  epoch : Option Text
  release : List Text
  pre : Option (Stage × Text)
  post : Option Text
  development : Option Text
  label : Option (List Text)

/-- Divides a text in lower case into the parts of a version. -/
def Written.ofText? (t : Text) : Option Written := do
  let t := if t.startsWith "v" then t.drop 1 else t
  let (first, t) := digits t
  let (epoch, first, t) := match t with
    | c :: rest =>
      if c = CodePoint.ofChar '!' && !first.isEmpty then
        let (second, rest) := digits rest
        (some first, second, rest)
      else (none, first, t)
    | [] => (none, first, t)
  if first.isEmpty then none
  let (others, t) := releaseRest t.length t
  let (pre, t) := optional (marked? stageWords t) t
  let (post, t) := optional (post? t) t
  let (development, t) := optional (marked? [("dev", ())] t) t
  let label ← match t with
    | [] => some none
    | c :: rest => if c = CodePoint.ofChar '+' then (labelParts? rest).map some else none
  return { epoch, release := first :: others, pre, post, development := development.map (·.2), label }

/-- A number that may be left out counts as zero. -/
private def number (t : Text) : Except Numeral.Excess Nat := if t.isEmpty then .ok 0 else Numeral.read t

private def labelPart (t : Text) : Except Numeral.Excess LocalPart :=
  if t.all CodePoint.isDigit then (Numeral.read t).map .number else .ok (.word t)

private def readOptional {α β : Type} (read : α → Except Numeral.Excess β) :
    Option α → Except Numeral.Excess (Option β)
  | none => .ok none
  | some part => (read part).map some

/-- Reads the numbers, from the first to the last part. -/
def Written.version (w : Written) : Except Numeral.Excess Version := do
  let epoch ← readOptional number w.epoch
  let release ← w.release.mapM number
  let pre ← readOptional (fun part => (number part.2).map fun n => (part.1, n)) w.pre
  let post ← readOptional number w.post
  let development ← readOptional number w.development
  let label ← readOptional (List.mapM labelPart) w.label
  return { epoch := epoch.getD 0, release, pre, post, development, label }

/-- Reads a version. A numeral over the limit is told only where the whole text has the form of a
version. -/
def parse (t : Text) : Except Error Version :=
  match Written.ofText? (t.trimmed.map inLowerCase) with
  | none => .error (.malformed t)
  | some written => written.version.mapError .numeral

/-- A value with the places below and above all values. -/
inductive Ranked (α : Type)
  | lowest
  | value (a : α)
  | highest

def Ranked.compare {α : Type} (compareValues : α → α → Ordering) : Ranked α → Ranked α → Ordering
  | .lowest, .lowest => .eq
  | .lowest, _ => .lt
  | _, .lowest => .gt
  | .value a, .value b => compareValues a b
  | .value _, .highest => .lt
  | .highest, .value _ => .gt
  | .highest, .highest => .eq

/-- Lexicographic order; a proper beginning comes first. -/
def compareLists {α : Type} (compareItems : α → α → Ordering) : List α → List α → Ordering
  | [], [] => .eq
  | [], _ :: _ => .lt
  | _ :: _, [] => .gt
  | a :: as, b :: bs => (compareItems a b).then (compareLists compareItems as bs)

/-- Zeros at the end of a release mean nothing. -/
def significantRelease (release : List Nat) : List Nat := (release.reverse.dropWhile (· == 0)).reverse

def Stage.rank : Stage → Nat
  | .alpha => 0
  | .beta => 1
  | .candidate => 2

/-- A development release comes before all pre-releases, and those before the release. -/
def preRank (v : Version) : Ranked (Stage × Nat) :=
  match v.pre with
  | some pre => .value pre
  | none => if v.post.isNone && v.development.isSome then .lowest else .highest

def postRank (v : Version) : Ranked Nat :=
  match v.post with
  | some n => .value n
  | none => .lowest

def developmentRank (v : Version) : Ranked Nat :=
  match v.development with
  | some n => .value n
  | none => .highest

/-- Without a label a version comes before all labelled ones. -/
def labelRank (v : Version) : Ranked (List LocalPart) :=
  match v.label with
  | some parts => .value parts
  | none => .lowest

private def compareNats (a b : Nat) : Ordering := if a < b then .lt else if a = b then .eq else .gt

private def compareTexts (s t : Text) : Ordering := if s = t then .eq else if Text.le s t then .lt else .gt

/-- Words come before numbers. -/
def LocalPart.compare : LocalPart → LocalPart → Ordering
  | .word s, .word t => compareTexts s t
  | .word _, .number _ => .lt
  | .number _, .word _ => .gt
  | .number a, .number b => compareNats a b

def compare (v w : Version) : Ordering :=
  (compareNats v.epoch w.epoch).then <|
  (compareLists compareNats (significantRelease v.release) (significantRelease w.release)).then <|
  (v.preRank.compare (fun a b => (compareNats a.1.rank b.1.rank).then (compareNats a.2 b.2)) w.preRank).then <|
  (v.postRank.compare compareNats w.postRank).then <|
  (v.developmentRank.compare compareNats w.developmentRank).then <|
  v.labelRank.compare (compareLists LocalPart.compare) w.labelRank

/-- Whether a version comes before another one. -/
def precedes (v w : Version) : Bool := v.compare w == .lt

/-- A version that is a release and nothing else. -/
def ofRelease (release : List Nat) : Version :=
  { epoch := 0, release, pre := none, post := none, development := none, label := none }

end Version

end ChatDice

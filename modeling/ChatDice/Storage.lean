import ChatDice.Text.Numeral
import ChatDice.Text.Quoted
import ChatDice.Text.Utf8

/-!
Files and their names. A name is followed component by component, from the root or from the working
directory: every component but the last has to be a directory, and two points lead one level up.
-/

namespace ChatDice

namespace Storage

/-- One component of a path, by its bytes. -/
abbrev Name := List UInt8

/-- A place among the files, the outermost name first. -/
abbrev Path := List Name

inductive Entry
  | file (bytes : List UInt8)
  | directory
  deriving DecidableEq, Repr

/-- Why a name cannot be opened. -/
inductive Cause
  | missing
  | notDirectory
  | isDirectory
  | nameTooLong
  | nullInName
  deriving DecidableEq, Repr

/-- A byte that is no part of a text stands in a name as a surrogate of its own. -/
def escapedByte? (c : CodePoint) : Option UInt8 :=
  if 0xDC80 ≤ c.val && c.val ≤ 0xDCFF then some (c.val - 0xDC00).toUInt8 else none

/-- The other surrogates have no bytes. -/
def isUnencodable (c : CodePoint) : Bool := c.isSurrogate && (escapedByte? c).isNone

def bytesOf (c : CodePoint) : List UInt8 :=
  match escapedByte? c with
  | some byte => [byte]
  | none => Utf8.encodeCodePoint c

/-- The bytes of a name all of whose code points have some. -/
def encode (name : Text) : Name := name.flatMap bytesOf

/-- The first code point of some bytes, and how many of them it takes. -/
def firstCodePoint? (bytes : Name) : Option (CodePoint × Nat) :=
  [1, 2, 3, 4].findSome? fun count =>
    match Utf8.decode (bytes.take count) with
    | some [c] => some (c, count)
    | _ => none

/-- The text that stands for some bytes. -/
def decode : Name → Text
  | [] => []
  | byte :: rest =>
    match firstCodePoint? (byte :: rest) with
    | some (c, count) => c :: decode (rest.drop (count - 1))
    | none => CodePoint.ofNat (0xDC00 + byte.toNat) :: decode rest
  termination_by bytes => bytes.length

/-- A failure to open, with the name that was asked for. A name may be none for any file. -/
inductive Error
  | unopened (cause : Cause) (name : Text)
  | unencodable (name : Text)
  deriving DecidableEq, Repr

/-- A name without bytes is of as little use as one with a null in it. -/
def Error.cause : Error → Cause
  | .unopened cause _ => cause
  | .unencodable _ => .nullInName

/-- The number of a cause; a null in a name never gets as far as the files. -/
def Cause.code : Cause → Nat
  | .missing => 2
  | .notDirectory => 20
  | .isDirectory => 21
  | .nameTooLong => 36
  | .nullInName => 0

private def Cause.phrase : Cause → Text
  | .missing => "No such file or directory"
  | .notDirectory => "Not a directory"
  | .isDirectory => "Is a directory"
  | .nameTooLong => "File name too long"
  | .nullInName => "embedded null byte"

/-- What is said of the first surrogates in a name that have no bytes. -/
private def unencodableMessage (name : Text) : Text :=
  let first := (name.takeWhile (!isUnencodable ·)).length
  let run := (name.drop first).takeWhile CodePoint.isSurrogate
  let place : Text := match run with
    | [c] => "character '\\u" ++ Text.hex 4 c.val ++ "' in position " ++ Numeral.ofNat first
    | _ => "characters in position " ++ Numeral.ofNat first ++ "-" ++ Numeral.ofNat (first + run.length - 1)
  "'utf-8' codec can't encode " ++ place ++ ": surrogates not allowed"

def Error.message : Error → Text
  | .unopened .nullInName _ => Cause.phrase .nullInName
  | .unopened cause name =>
    "[Errno " ++ Numeral.ofNat cause.code ++ "] " ++ cause.phrase ++ ": " ++ name.quoted
  | .unencodable name => unencodableMessage name

/-- The working directory: where it lies, and how it is written before a relative name. -/
class WorkingDirectory where
  path : Path
  text : Text

/-- A directory below the root that no name leads to. It goes unwritten. -/
instance (priority := low) WorkingDirectory.unnamed : WorkingDirectory := ⟨[[]], []⟩

/-- Where one component of a name leads to from a directory. -/
def enter (path : Path) (part : Text) : Path :=
  if part.isEmpty || part = "." then path
  else if part = ".." then path.dropLast
  else path ++ [encode part]

/-- The working directory with an absolute name. -/
@[reducible]
def WorkingDirectory.ofText (text : Text) : WorkingDirectory :=
  ⟨(Text.splitOn '/' text).foldl enter [], text⟩

end Storage

/-- Directories above an entry exist without an entry of their own. -/
structure Storage where
  entries : List (Storage.Path × Storage.Entry)
  deriving Repr

namespace Storage

def empty : Storage := ⟨[]⟩

/-- What stands at a path. -/
def entry? (storage : Storage) (path : Path) : Option Entry :=
  if path.isEmpty then some .directory
  else match storage.entries.find? fun entry => entry.1 = path with
    | some (_, entry) => some entry
    | none => if storage.entries.any fun entry => path.isPrefixOf entry.1 then some .directory else none

/-- Puts an entry at a path, in place of the one that stands there. -/
def put (storage : Storage) (path : Path) (entry : Entry) : Storage :=
  if storage.entries.any fun other => other.1 = path then
    ⟨storage.entries.map fun other => if other.1 = path then (path, entry) else other⟩
  else ⟨storage.entries ++ [(path, entry)]⟩

/-- Writes at the end of a file; without a file there nothing is written. -/
def append (storage : Storage) (path : Path) (bytes : List UInt8) : Storage :=
  match storage.entry? path with
  | some (.file old) => storage.put path (.file (old ++ bytes))
  | _ => storage

/-- The most bytes in one component of a name, and in a whole name. -/
def componentLimit : Nat := 255

def nameLimit : Nat := 4095

/-- Checks on a name as a whole, before any file is looked for. -/
def checkName (name : Text) : Except Error Unit :=
  if name.any isUnencodable then .error (.unencodable name)
  else if name.contains 0 then .error (.unopened .nullInName name)
  else if name.isEmpty then .error (.unopened .missing name)
  else if nameLimit < (encode name).length then .error (.unopened .nameTooLong name)
  else .ok ()

/-- Reduces the components of a name by themselves: a step up takes back the one before it, and is
kept where there is none to take back. Above the root there is nothing. -/
def reduce (fromRoot : Bool) (parts : List Text) : List Text :=
  parts.foldl (fun (done : List Text) (part : Text) =>
    if part.isEmpty || part = "." then done
    else if part != ".." then done ++ [part]
    else if done.getLast? = some ".." || (done.isEmpty && !fromRoot) then done ++ [part]
    else done.dropLast) []

/-- The reduced form of a name. Just two slashes at its beginning are kept. -/
def reduced (name : Text) : Text :=
  let slashes : Text :=
    if !name.startsWith "/" then []
    else if name.startsWith "//" && !name.startsWith "///" then "//"
    else "/"
  let whole := slashes ++ Text.join "/" (reduce (!slashes.isEmpty) (Text.splitOn '/' name))
  if whole.isEmpty then "." else whole

section Names

variable [WorkingDirectory]

/-- What stands at a path; the directories down to the working directory always do. -/
def lookup (storage : Storage) (path : Path) : Option Entry :=
  if path.isPrefixOf WorkingDirectory.path then some .directory else storage.entry? path

/-- Follows the components of a name from a path on. -/
def follow (storage : Storage) : Path → List Text → Except Cause Path
  | path, [] => .ok path
  | path, part :: rest =>
    match storage.lookup path with
    | none => .error .missing
    | some (.file _) => .error .notDirectory
    | some .directory =>
      if componentLimit < (encode part).length then .error .nameTooLong
      else follow storage (enter path part) rest

/-- Where the components of a name start from. -/
def origin (name : Text) : Path := if name.startsWith "/" then [] else WorkingDirectory.path

/-- The path of a name, as far as its components can be followed. -/
def resolve (storage : Storage) (name : Text) : Except Error Path := do
  checkName name
  (storage.follow (origin name) (Text.splitOn '/' name)).mapError (.unopened · name)

/-- The path that the components of a name lead to, whatever stands on the way. -/
def normalised (name : Text) : Path := (Text.splitOn '/' name).foldl enter (origin name)

/-- A path as it is shown from the working directory, which is itself a point. -/
def shown (path : Path) : Text :=
  let directory := WorkingDirectory.path
  if !directory.isPrefixOf path then "/" ++ Text.join "/" (path.map decode)
  else if path = directory then "."
  else Text.join "/" ((path.drop directory.length).map decode)

/-- The bytes of the file with a name. -/
def read (storage : Storage) (name : Text) : Except Error (List UInt8) := do
  let path ← storage.resolve name
  match storage.lookup path with
  | some (.file bytes) => return bytes
  | some .directory => throw (.unopened .isDirectory name)
  | none => throw (.unopened .missing name)

/-- A name with the working directory before it, in its reduced form. -/
def absolute (name : Text) : Text :=
  let directory := WorkingDirectory.text
  if name.startsWith "/" || directory.isEmpty then reduced name
  else if directory.endsWith "/" then reduced (directory ++ name)
  else reduced (directory ++ "/" ++ name)

/-- Opens a file by its absolute name to write at its end, and creates it if it is missing. -/
def openToAppend (storage : Storage) (name : Text) : Except Error (Path × Storage) := do
  let path ← storage.resolve (absolute name)
  match storage.lookup path with
  | some (.file _) => return (path, storage)
  | some .directory => throw (.unopened .isDirectory (absolute name))
  | none => return (path, storage.put path (.file []))

end Names

end Storage

end ChatDice

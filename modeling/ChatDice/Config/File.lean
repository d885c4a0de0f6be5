import ChatDice.Config.Packages
import ChatDice.Json.Reader

/-!
Configuration files: UTF-8 texts in YAML or JSON, told apart by the ending of their name, that
hold a mapping.
-/

namespace ChatDice.Config

/-- The entries of a mapping in order. -/
abbrev Entries := List (Datum × Datum)

/-- The case of the ending matters. -/
def isYaml (name : Text) : Bool := name.endsWith ".yaml" || name.endsWith ".yml"

def readYaml [Packages] (name : Text) (bytes : List UInt8) : Except Error Datum :=
  (Packages.readYaml bytes).mapError fun error =>
    match error with
    | .malformed => .rejected (.malformed name)
    | .undecodable => .undecodable
    | .tooDeep => .tooDeep
    | .numeral excess => .numeral excess
    | other => .scalar other

def readJson [Json.Nesting] (name : Text) (bytes : List UInt8) : Except Error Datum := do
  let t ← match Utf8.decode bytes with
    | some t => pure t.unifiedBreaks
    | none => throw .undecodable
  match Json.readWithin Json.Nesting.loaded t with
  | .ok value => return .ofJson value
  | .error .malformed => throw (.rejected (.malformed name))
  | .error (.numeralTooLong digits) => throw (.numeral (.read digits))
  | .error .tooDeep => throw .tooDeep

/-- The entries of the mapping in a file. -/
def load [Json.Nesting] [Storage.WorkingDirectory] [Packages] (storage : Storage) (name : Text) :
    Except Error Entries := do
  let bytes ← (storage.read name).mapError fun error =>
    if error.cause = .nullInName then Error.unusableName error
    else .rejected (.unreadable name error)
  let data ← if isYaml name then readYaml name bytes else readJson name bytes
  match data.unfolded with
  | .map entries => return entries
  | _ => throw (.rejected (.notMapping name))

end ChatDice.Config

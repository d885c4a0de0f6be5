import ChatDice.Config.File
import ChatDice.Plugin.Manifest

/-!
The section of one plugin, with the platform filled in. Beside a mapping, a list of pairs is
taken for a section.
-/

namespace ChatDice.Config

/-- Why there is no section. -/
inductive SectionError
  | notMapping (error : Datum.NotMapping)
  | notIterable (kind : Text)
  | notSequence (index : Nat)
  | wrongLength (index length : Nat)
  | keyKind (kind : Text)
  deriving DecidableEq, Repr

def SectionError.message : SectionError → Text
  | .notMapping error => error.message
  | .notIterable kind => "'" ++ kind ++ "' object is not iterable"
  | .notSequence index =>
    "cannot convert dictionary update sequence element #" ++ Numeral.ofNat index ++ " to a sequence"
  | .wrongLength index length =>
    "dictionary update sequence element #" ++ Numeral.ofNat index ++ " has length "
      ++ Numeral.ofNat length ++ "; 2 is required"
  | .keyKind kind => "unhashable type: '" ++ kind ++ "'"

/-- The items that a value gives when it is gone through: those of a list or a set, the keys of a
mapping, the characters of a text, and the numbers of bytes. -/
def itemsOf? (d : Datum) : Option (List Datum) :=
  match d.unfolded with
  | .list items => some items
  | .tuple items => some items
  | .set members => some members
  | .map entries => some (entries.map (·.1))
  | .str t => some (t.map fun c => .str [c])
  | .bytes bytes => some (bytes.map fun b => .int b.toNat)
  | _ => none

/-- One pair of a list that stands for a mapping. -/
def pairOf (index : Nat) (item : Datum) : Except SectionError (Datum × Datum) :=
  match itemsOf? item with
  | none => .error (.notSequence index)
  | some [key, value] =>
    match key.notKey? with
    | none => .ok (key, value)
    | some kind => .error (.keyKind kind)
  | some items => .error (.wrongLength index items.length)

/-- Puts the pairs of a list into a mapping, one after another. -/
def putPairs (entries : Entries) : (index : Nat) → List Datum → Except SectionError Entries
  | _, [] => .ok entries
  | index, item :: rest => do
    let (key, value) ← pairOf index item
    putPairs (Datum.put entries key value) (index + 1) rest

/-- The entries of a section. -/
def sectionEntries (d : Datum) : Except SectionError Entries :=
  match d.unfolded with
  | .map entries => .ok entries
  | other =>
    match itemsOf? other with
    | some items => putPairs [] 0 items
    | none => .error (.notIterable other.kind)

/-- The section of a plugin; its platform is by default that of the whole configuration. -/
def pluginSection (config : Datum) (name : Text) : Except SectionError Entries := do
  let lookup (d : Datum) (name : Text) (default : Datum) : Except SectionError Datum :=
    (d.entry name default).mapError .notMapping
  let plugins ← lookup config "plugins" (.map [])
  let entries ← sectionEntries (← lookup plugins name (.map []))
  let platform ← lookup config "platform" (.str Plugin.defaultPlatform)
  match Datum.find? entries "platform" with
  | some _ => return entries
  | none => return entries ++ [(.str "platform", platform)]

end ChatDice.Config

import ChatDice.Datum
import ChatDice.Plugin.Manifest

/-!
The plugin's settings. They are kept as configured, of whatever kind; only their truth or their
text is used later.
-/

namespace ChatDice.Plugin

structure Settings where
  platform : Datum
  emitEvents : Datum
  forceGroups : Datum
  deriving Repr

namespace Settings

/-- The settings given by the entries of a configuration section. -/
def ofEntries (entries : List (Datum × Datum)) : Settings :=
  { platform := (Datum.find? entries "platform").getD (.str defaultPlatform)
    emitEvents := (Datum.find? entries "emit_events").getD (.bool true)
    forceGroups := (Datum.find? entries "force_groups").getD (.bool true) }

/-- A false configuration counts as an empty one. -/
def ofConfig (config : Datum) : Except Datum.NotMapping Settings :=
  if config.truthy then
    match config.unfolded with
    | .map entries => .ok (ofEntries entries)
    | other => .error ⟨other.kind⟩
  else .ok (ofEntries [])

/-- Whether a roll shows its groups: always when that is forced, else as the caller asks. -/
def showsGroups (settings : Settings) (asked : Bool) : Bool :=
  if settings.forceGroups.truthy then true else asked

end Settings

end ChatDice.Plugin

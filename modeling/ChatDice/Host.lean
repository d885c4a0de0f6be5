import ChatDice.Config.Accepted
import ChatDice.Config.PluginSection
import ChatDice.Plugin.Lifecycle

/-!
The host of the plugin. It starts by connecting to the bus, making the plugin from its section of
the configuration and activating it. It stops in the opposite order and then holds neither a
client nor a plugin, whatever the bus refuses.
-/

namespace ChatDice

/-- A host with what the bus has given out so far: the number of subscriptions, and those still
open with the settings of the plugin that they lead to. -/
structure Host where
  config : Config.Accepted
  pluginClass : Except Plugin.LoadError Plugin.PluginClass
  holdsClient : Bool
  plugin : Option Plugin
  issued : Nat
  live : List (Bus.Subscription × Plugin.Settings)

namespace Host

def loggerName : Text := "dicebot"

private def note (level : Logging.Level) (text : Text) : Logging.Record := ⟨loggerName, level, text⟩

/-- A host that has not been started yet. -/
def ofConfig (config : Config.Accepted) : Host :=
  { config
    pluginClass := Plugin.packageClass
    holdsClient := false
    plugin := none
    issued := 0
    live := [] }

/-- Gives up the client: it is drained and then closed. A refused drain leaves it unclosed. -/
def disconnect (faults : Bus.Faults) (index : Nat) : Bus.Trace :=
  let problem (reason : Text) := note .error ("Error during disconnect: " ++ reason)
  match Bus.attempt faults index .drain with
  | (drained, some reason) => ⟨[drained], [problem reason]⟩
  | (drained, none) =>
    match Bus.attempt faults (index + 1) .close with
    | (closed, some reason) => ⟨[drained, closed], [problem reason]⟩
    | (closed, none) => ⟨[drained, closed], []⟩

/-- What shutting down the plugin leaves in the trace, if there is a plugin. -/
def pluginShutdown (host : Host) (faults : Bus.Faults) (index : Nat) : Bus.Trace :=
  match host.plugin with
  | some plugin => (plugin.shutdown faults index).2
  | none => .empty

/-- The subscriptions that stay open when the plugin is shut down. -/
def liveAfterShutdown (host : Host) (faults : Bus.Faults) (index : Nat) :
    List (Bus.Subscription × Plugin.Settings) :=
  match host.plugin with
  | some plugin =>
    let released := Plugin.released faults index plugin.subscriptions
    host.live.filter fun entry => !released.contains entry.1
  | none => host.live

/-- Shuts down the plugin and gives up the client. Neither is held afterwards. -/
def stop (host : Host) (faults : Bus.Faults) (index : Nat) : Host × Bus.Trace :=
  let plugin := host.pluginShutdown faults index
  let client :=
    if host.holdsClient then disconnect faults (index + plugin.attempts.length) else .empty
  ({ host with holdsClient := false, plugin := none, live := host.liveAfterShutdown faults index },
    .ofRecords [note .info "Shutting down Dicebot..."] ++ plugin ++ client
      ++ .ofRecords [note .info "Dicebot stopped"])

/-- Where the host waits, for the bus or for messages. -/
inductive Wait
  | connecting
  | subscribing
  | messages
  deriving DecidableEq, Repr

inductive StartError
  | refused (reason : Text)
  | noPlugin (error : Plugin.LoadError)
  | settings (error : Config.SectionError)
  | numeral (excess : Numeral.Excess)

def StartError.message : StartError → Text
  | .refused reason => reason
  | .noPlugin error => error.message
  | .settings error => error.message
  | .numeral excess => excess.message

inductive Ending
  | started
  | interrupted
  | failed (error : StartError)

/-- A start: the host after it, its trace, and how it ended. -/
structure Start where
  host : Host
  trace : Bus.Trace
  ending : Ending

/-- An interrupted call gives nothing, as if it were refused. -/
def Wait.faults (interruption wait : Wait) (faults : Bus.Faults) : Bus.Faults :=
  if interruption = wait then fun _ _ => some [] else faults

/-- How a start ends with a call that gave nothing. -/
def Wait.ending (interruption wait : Wait) (reason : Text) : Ending :=
  if interruption = wait then .interrupted else .failed (.refused reason)

/-- The plugin that the configuration asks for. -/
def newPlugin (host : Host) : Except StartError Plugin := do
  let _ ← host.pluginClass.mapError .noPlugin
  let entries ← (Config.pluginSection (.map host.config.entries) Plugin.sectionName).mapError .settings
  return .ofSettings (.ofEntries entries)

/-- Makes the plugin, which replaces an earlier one, and activates it. -/
def startPlugin (host : Host) (faults : Bus.Faults) (index : Nat) (interruption : Wait) : Start :=
  match host.newPlugin with
  | .error error => ⟨host, .empty, .failed error⟩
  | .ok plugin =>
    let activation := plugin.activate (interruption.faults .subscribing faults) index host.issued
    let host := { host with plugin := some activation.plugin }
    match activation.refusal with
    | some reason => ⟨host, activation.trace, interruption.ending .subscribing reason⟩
    | none =>
      ⟨{ host with
          issued := host.issued + 1
          live := host.live ++ [(⟨host.issued, Plugin.rollSubject⟩, plugin.settings)] },
        activation.trace ++ .ofRecords [note .info "Dicebot started"], .started⟩

/-- Connects and starts the plugin, up to the first call that gives nothing. The client is held
from before the connection is made. -/
def connect (host : Host) (faults : Bus.Faults) (index : Nat) (interruption : Wait) : Start :=
  match (Datum.list host.config.parameters.servers).text with
  | .error excess => ⟨host, .empty, .failed (.numeral excess)⟩
  | .ok servers =>
    let host := { host with holdsClient := true }
    let opening := note .info ("Connecting to NATS: " ++ servers)
    let call := Bus.Call.connect host.config.parameters
    match Bus.attempt (interruption.faults .connecting faults) index call with
    | (attempt, some reason) =>
      ⟨host, ⟨[attempt], [opening]⟩, interruption.ending .connecting reason⟩
    | (attempt, none) =>
      let rest := host.startPlugin faults (index + 1) interruption
      { rest with trace := ⟨[attempt], [opening, note .info "Connected to NATS"]⟩ ++ rest.trace }

/-- Starts the host. One that fails to start is stopped at once; an interrupted start is left as
it is. -/
def start (host : Host) (faults : Bus.Faults) (index : Nat) (interruption : Wait) : Start :=
  let reached := host.connect faults index interruption
  match reached.ending with
  | .failed error =>
    let failure := note .error ("Failed to start Dicebot: " ++ error.message)
    let (host, cleanup) := reached.host.stop faults (index + reached.trace.attempts.length)
    ⟨host, reached.trace ++ .ofRecords [failure] ++ cleanup, .failed error⟩
  | .started => reached
  | .interrupted => reached

end Host

end ChatDice

import ChatDice.Host.Run
import ChatDice.Program
import Std.Time.Zoned

/-!
The command line, with the files and the packages that the program runs with. No bus is within reach,
so a host with an accepted configuration logs that its connection was refused, and the program
ends with the status of that run.
-/

namespace ChatDice.Program

/-- The bus out of reach: every connection is refused. -/
private def unreachable : Bus.Faults := fun _ call =>
  match call with
  | .connect _ => some "nats: no servers available for connection"
  | _ => none

private def fileName (path : Storage.Path) : String :=
  Text.toString ("/" ++ Text.join "/" (path.map Storage.decode))

/-- What stands at a path, as far as it can be read. -/
private def entryAt? (path : Storage.Path) : IO (Option Storage.Entry) := do
  match ← (IO.FS.readBinFile (fileName path)).toBaseIO with
  | .ok bytes => return some (.file bytes.toList)
  | .error _ =>
    match ← (IO.FS.realPath (fileName path)).toBaseIO with
    | .ok found => if ← found.isDir then return some .directory else return none
    | .error _ => return none

/-- Takes up every entry on the way from a path on. -/
private def explore (storage : Storage) (path : Storage.Path) : List Text → IO Storage
  | [] => return storage
  | part :: rest => do
    let path := Storage.enter path part
    match ← entryAt? path with
    | some entry => explore (storage.put path entry) path rest
    | none => return storage

private def exploreName [Storage.WorkingDirectory] (storage : Storage) (name : Option Text) :
    IO Storage :=
  match name with
  | some name => explore storage (Storage.origin name) (Text.splitOn '/' name)
  | none => return storage

/-- Writes the files whose content has changed. -/
private def save (before after : Storage) : IO Unit :=
  after.entries.forM fun (path, entry) =>
    match entry with
    | .file bytes =>
      if before.entry? path = some entry then return
      else IO.FS.writeBinFile (fileName path) ⟨bytes.toArray⟩
    | .directory => return

private def localTime : IO Moment := do
  let time ← Std.Time.PlainDateTime.now
  return ⟨⟨time.year.toInt.toNat, time.month.val.toNat, time.day.val.toNat⟩, time.hour.val.toNat,
    time.minute.val.toNat, time.second.val.toNat, time.nanosecond.val.toNat / 1000, none⟩

private def printError (t : Text) : IO Unit := do (← IO.getStderr).putStr (Text.toString t)

/-- Says why the program ends before it has a host. -/
private def report : Stop → IO Unit
  | .options .help => IO.print (Text.toString Options.helpText)
  | .options (.misuse misuse) => printError (Options.usage ++ misuse.line ++ "\n")
  | .config (.rejected rejection) => printError (rejectionLine rejection ++ "\n")
  | stop => printError (stop.message ++ "\n")

/-- Runs the program with the words of its command line. -/
def execute [Storage.WorkingDirectory] [Config.Packages] (words : List Text) : IO UInt32 := do
  let storage ← exploreName .empty (configName? words)
  let storage ← exploreName storage ((logFileName? storage words).map Storage.absolute)
  match prepare (.ofStorage storage) words with
  | (journal, .error stop) =>
    report stop
    save storage journal.storage
    return stop.exitCode.toUInt32
  | (journal, .ok host) =>
    let run := host.run Dice.Script.draw unreachable .messages []
    let time ← localTime
    let journal := run.trace.records.foldl (·.log time) journal
    printError journal.errorStream
    save storage journal.storage
    return run.exitCode.toUInt32

end ChatDice.Program

def main (arguments : List String) : IO UInt32 := do
  let directory ← IO.currentDir
  let _ := ChatDice.Storage.WorkingDirectory.ofText (.ofString directory.toString)
  let _ := ChatDice.Config.Packages.installed
  ChatDice.Program.execute (arguments.map ChatDice.Text.ofString)

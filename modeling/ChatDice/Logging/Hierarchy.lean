import ChatDice.Logging.Template
import ChatDice.Storage

/-!
Loggers and their places in a hierarchy. A logger finds the one above it by its dotted name when it
is first used. A logger that comes in between later on takes over those that have been waiting for
its name, unless the name of the logger above them begins with its own, as that of the root may.
-/

namespace ChatDice.Logging

/-- Where a handler writes; whatever is written to a broken target is lost. -/
inductive Target
  | errorStream
  | memoryStream
  | file (path : Storage.Path)
  | broken
  deriving DecidableEq, Repr

structure Handler where
  target : Target
  template : Text
  deriving DecidableEq, Repr

/-- A level as it was set, which may be a truth value that counts as one or zero. -/
inductive Threshold
  | number (level : Level)
  | truth (value : Bool)
  deriving DecidableEq, Repr

def Threshold.level : Threshold → Level
  | .number level => level
  | .truth true => 1
  | .truth false => 0

/-- A logger, with the name of the one above it. -/
structure Logger where
  parent : Text
  threshold : Threshold
  handlers : List Handler
  deriving DecidableEq, Repr

/-- The name of the logger above all others. -/
def rootName : Text := "root"

/-- Without a name the root is meant. -/
def canonicalName (name : Text) : Text := if name.isEmpty then rootName else name

/-- The beginnings of a name before each of its dots below a position, the longest first. A dot
right before one that was taken does not count, and neither does one at the start. -/
def beginnings (name : Text) : (bound : Nat) → List Text
  | 0 => []
  | 1 => []
  | bound + 2 =>
    if name[bound + 1]? = some (CodePoint.ofChar '.') then name.take (bound + 1) :: beginnings name bound
    else beginnings name (bound + 1)

/-- The names of all loggers that may stand above one below the root, the nearest first. -/
def namesAbove (name : Text) : List Text := beginnings name name.length

/-- The loggers in use, and the names that are not in use with the loggers that wait for them. -/
structure Hierarchy where
  loggers : List (Text × Logger)
  awaited : List (Text × List Text)
  deriving Repr

namespace Hierarchy

/-- Before it is configured, the root alone has a level. -/
def freshRoot : Logger := ⟨rootName, .number Level.warning, []⟩

def freshLogger (parent : Text) : Logger := ⟨parent, .number 0, []⟩

/-- At first only the root is there. -/
def initial : Hierarchy := ⟨[(rootName, freshRoot)], []⟩

def find? (hierarchy : Hierarchy) (name : Text) : Option Logger :=
  (hierarchy.loggers.find? fun entry => entry.1 = name).map (·.2)

def isInUse (hierarchy : Hierarchy) (name : Text) : Bool := (hierarchy.find? name).isSome

/-- The nearest logger in use above a name that is not in use. -/
def parentOf (hierarchy : Hierarchy) (name : Text) : Text :=
  ((namesAbove name).find? hierarchy.isInUse).getD rootName

/-- The loggers that wait for a name. -/
def waitingFor (hierarchy : Hierarchy) (name : Text) : List Text :=
  ((hierarchy.awaited.find? fun entry => entry.1 = name).map (·.2)).getD []

/-- Changes one logger. -/
def modify (hierarchy : Hierarchy) (name : Text) (change : Logger → Logger) : Hierarchy :=
  { hierarchy with loggers := hierarchy.loggers.map fun (other, logger) =>
      (other, if other = name then change logger else logger) }

/-- Puts a logger below a new one, unless the name of the one above it begins with the new name. -/
def adopt (name : Text) (hierarchy : Hierarchy) (child : Text) : Hierarchy :=
  hierarchy.modify child fun logger =>
    if logger.parent.startsWith name then logger else { logger with parent := name }

/-- Lets a logger wait for a name. -/
def await (child : Text) (awaited : List (Text × List Text)) (name : Text) : List (Text × List Text) :=
  match awaited with
  | [] => [(name, [child])]
  | (other, waiting) :: rest =>
    if other = name then (other, waiting ++ [child]) :: rest
    else (other, waiting) :: await child rest name

/-- Takes a logger into use. It takes over those that wait for it, and waits for every name
between it and the logger above it. -/
def use (hierarchy : Hierarchy) (name : Text) : Hierarchy :=
  if hierarchy.isInUse name then hierarchy
  else
    let parent := hierarchy.parentOf name
    let between := (namesAbove name).takeWhile (!hierarchy.isInUse ·)
    let adopted := (hierarchy.waitingFor name).foldl (adopt name) hierarchy
    { loggers := adopted.loggers ++ [(name, freshLogger parent)]
      awaited := between.foldl (await name) (adopted.awaited.filter fun entry => entry.1 != name) }

/-- A logger, as it would be if it was taken into use now. -/
def logger (hierarchy : Hierarchy) (name : Text) : Logger :=
  (hierarchy.find? name).getD (freshLogger (hierarchy.parentOf name))

/-- The loggers from one up to the root. No way up is longer than there are loggers. -/
def upwards (hierarchy : Hierarchy) : (fuel : Nat) → (name : Text) → List Logger
  | 0, _ => []
  | fuel + 1, name =>
    let logger := hierarchy.logger name
    if name = rootName then [logger] else logger :: upwards hierarchy fuel logger.parent

/-- A logger and those above it. -/
def lineage (hierarchy : Hierarchy) (name : Text) : List Logger :=
  hierarchy.upwards (hierarchy.loggers.length + 1) name

/-- The level of the nearest logger that has one. -/
def effectiveLevel (hierarchy : Hierarchy) (name : Text) : Level :=
  (((hierarchy.lineage name).map (·.threshold.level)).find? (· != 0)).getD 0

/-- All handlers that a record of a logger goes to, the nearest logger's first. -/
def handlersFor (hierarchy : Hierarchy) (name : Text) : List Handler :=
  (hierarchy.lineage name).flatMap (·.handlers)

end Hierarchy

end ChatDice.Logging

import ChatDice.Text.Numeral

/-!
Severities of log records and their names.
-/

namespace ChatDice.Logging

/-- A greater number is more severe; only positive ones are ever recorded. -/
abbrev Level := Int

namespace Level

def debug : Level := 10

def info : Level := 20

def warning : Level := 30

def error : Level := 40

/-- Every level name; two levels have a second name. -/
def names : List (Text × Level) :=
  [("CRITICAL", 50), ("FATAL", 50), ("ERROR", 40), ("WARNING", 30), ("WARN", 30), ("INFO", 20),
    ("DEBUG", 10), ("NOTSET", 0)]

/-- The level of an exact name. -/
def named? (name : Text) : Option Level := (names.find? fun entry => entry.1 = name).map (·.2)

/-- The first name of a level, or its number after a word if it has none. -/
def name (level : Level) : Text :=
  match names.find? fun entry => entry.2 = level with
  | some (name, _) => name
  | none => "Level " ++ Numeral.ofInt level

/-- Upper case as far as it can lead to a level name: the ASCII letters, the dotless i and the
long s. -/
def upperCase (name : Text) : Text :=
  name.map fun c =>
    if c.val = 0x131 then CodePoint.ofChar 'I'
    else if c.val = 0x17F then CodePoint.ofChar 'S'
    else c.toUpper

/-- The level of a name in any case. -/
def ofName? (name : Text) : Option Level := named? (upperCase name)

end Level

/-- One log record: who writes it, how severe it is, and its text. -/
structure Record where
  logger : Text
  level : Level
  text : Text
  deriving DecidableEq, Repr

end ChatDice.Logging

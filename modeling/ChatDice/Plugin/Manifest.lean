import ChatDice.Plugin.Discovery

/-!
What the plugin is called, where it listens and speaks, and what its package offers.
-/

namespace ChatDice.Plugin

/-- The section of the configuration that belongs to the plugin. -/
def sectionName : Text := "dice-roller"

def version : Text := "2.0.0"

def description : Text := "Roll dice with grouped-duplicate statistics"

/-- The subject on which roll commands arrive. -/
def rollSubject : Text := "dicebot.command.dice.roll"

/-- The subject of the event after each roll. -/
def eventSubject : Text := "dicebot.event.dice.rolled"

/-- The platform that replies go to where none is configured. -/
def defaultPlatform : Text := "cytube"

/-- The logger of the plugin itself. -/
def loggerName : Text := "plugin.dice-roller"

/-- The logger of a reply that belongs to no plugin. -/
def moduleLoggerName : Text := "plugin"

/-- The names that the package offers, in their published order. -/
def publicNames : List Text :=
  ["DiceRollerPlugin", "ReplySink", "DiceRoller", "DiceSpecification", "ParseError",
    "ParseFailure", "ParseSuccess", "RollResult", "format_roll", "group", "parse"]

/-- The version of the package. -/
def packageVersion : Text := "2.0.0"

/-- Where the package stands. -/
def packageDirectory : Text := "plugins/dice-roller"

/-- How the classes of the package's module come to be. -/
def packageStatements : List Statement :=
  [.importClass "DiceRoller", .importClass "DiceSpecification", .importClass "ParseError",
    .importClass "RollResult", .defineClass "ReplySink", .defineClass "DiceRollerPlugin"]

/-- The plugin class of the package. -/
def packageClass : Except LoadError PluginClass :=
  (loadClass [] packageDirectory (Module.ofStatements packageStatements)).2

end ChatDice.Plugin

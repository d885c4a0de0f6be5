import ChatDice.Plugin.Module

/-!
Finding the plugin class of a module: the class that counts is the first by name among those that
stand under a name with the right ending and are defined in the module itself.
-/

namespace ChatDice.Plugin

/-- A plugin class that has been found. -/
structure PluginClass where
  value : Value
  name : Text
  deriving Repr

/-- The ending of the name that a plugin class stands under. -/
def classEnding : Text := "Plugin"

/-- The class that a module offers under one of its names, if it is one to choose from. -/
def Module.offered? (module : Module) (entry : Text × Value) : Option (Text × PluginClass) := do
  let found ← module.class? entry.2
  guard (entry.1.endsWith classEnding && found.home.same module.selfName)
  return (entry.1, ⟨entry.2, found.name⟩)

/-- Of two offers the one with the smaller name. -/
def smaller (best : Option (Text × PluginClass)) (offer : Text × PluginClass) :
    Option (Text × PluginClass) :=
  match best with
  | none => some offer
  | some found => if Text.le found.1 offer.1 then some found else some offer

/-- The plugin class of a module. -/
def Module.pluginClass? (module : Module) : Option PluginClass :=
  ((module.names.filterMap module.offered?).foldl smaller none).map (·.2)

/-- Why a directory gives no plugin class. -/
inductive LoadError
  | unbound (error : Unbound)
  | noPluginClass (directory : Text)
  deriving DecidableEq, Repr

def LoadError.message : LoadError → Text
  | .unbound error => error.message
  | .noPluginClass directory => "No plugin class found in " ++ directory

/-- Loads the plugin class of a directory, which is put at the head of the search path unless it
is there already. -/
def loadClass (searchPath : List Text) (directory : Text) (module : Except Unbound Module) :
    List Text × Except LoadError PluginClass :=
  let searchPath := if searchPath.contains directory then searchPath else directory :: searchPath
  match module with
  | .error error => (searchPath, .error (.unbound error))
  | .ok module =>
    match module.pluginClass? with
    | some found => (searchPath, .ok found)
    | none => (searchPath, .error (.noPluginClass directory))

end ChatDice.Plugin

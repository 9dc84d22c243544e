import VaultUsage.Files
import VaultUsage.Settings.File

/-!
# Loading settings

The settings of a run come from the file that the arguments name, which must be there, or from the file of
the usual name in the current folder, if there is one. The arguments go before them, and the result is
checked.
-/

namespace VaultUsage.Settings

inductive LoadError where
  | unreadable (path : String) (fault : Entry.Fault)
  | malformed (path : String) (fault : FileFault)
  | invalid (fault : Fault)
  deriving DecidableEq, Repr

def LoadError.message : LoadError → String
  | .unreadable path fault => "Failed to read config file: " ++ path ++ ": " ++ fault.message
  | .malformed path fault => "Failed to parse config file: " ++ path ++ ": " ++ fault.message
  | .invalid fault => fault.message

def usualPath : String := "./" ++ fileName

def loadFile (files : Files) (path : String) : Except LoadError Settings :=
  match (files path).read with
  | .error fault => .error (.unreadable path fault)
  | .ok text => (read text).mapError (.malformed path)

def stored (files : Files) (config : Option String) : Except LoadError Settings :=
  match config with
  | some path => loadFile files path
  | none => if (files usualPath).isThere then loadFile files usualPath else .ok {}

def load (files : Files) (a : Arguments) : Except LoadError Settings := do
  let settings := (← stored files a.config).withArguments a
  match settings.fault? with
  | some fault => .error (.invalid fault)
  | none => .ok settings

end VaultUsage.Settings

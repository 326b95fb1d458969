import Throughput.Configuration.Read
import Throughput.Setting.Environment
import Throughput.Toml.Document

/-!
# Loading configurations

Three layers: the defaults, over them a file, and over both the environment. A file that is asked
for by name has to be there.
-/

namespace Throughput

/-- Where the settings of a file come from: its name, if it was asked for, and its text, if it is
there. -/
structure SettingsFile where
  name : Option String
  text : Option String
  deriving DecidableEq, Repr

inductive LoadFault where
  | notFound (name : String)
  | invalid
  deriving DecidableEq, Repr

def LoadFault.message : LoadFault → String
  | .notFound name => "config file not found: " ++ name
  | .invalid => "malformed settings"

namespace Configuration

def fileSetting (file : SettingsFile) : Except LoadFault Setting :=
  match file.name, file.text with
  | some name, none => .error (.notFound name)
  | none, none => .ok .empty
  | _, some text =>
    match Toml.parse? text with
    | some setting => .ok setting
    | none => .error .invalid

def load (file : SettingsFile) (environment : List Setting.Environment.Variable) :
    Except LoadFault Configuration := do
  let base ← fileSetting file
  match ofSetting (base.merge (Setting.Environment.settings environment)) with
  | some configuration => return configuration
  | none => .error .invalid

end Configuration

end Throughput

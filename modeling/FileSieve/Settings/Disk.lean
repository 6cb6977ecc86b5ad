import FileSieve.Disk.Loadline
import FileSieve.Settings.Basic

namespace FileSieve

inductive SettingsError where
  | unreadable
  | malformed
  deriving DecidableEq, Repr

def SettingsError.message : SettingsError → String
  | unreadable => "Failed to read config file"
  | malformed => "Failed to parse config file"

namespace Settings

/-- The settings of a path; the initial ones if nothing is there. -/
def load (disk : Disk) (path : Path) : Except SettingsError Settings :=
  match disk.lookup path true with
  | .error _ => .ok initial
  | .ok _ =>
    match disk.readText path with
    | .error _ => .error .unreadable
    | .ok text =>
      match ofText? text with
      | some settings => .ok settings
      | none => .error .malformed

def loadlineSource (settings : Settings) (disk : Disk) (base : Path) : LoadlineSource :=
  LoadlineSource.chain [LoadlineSource.ofEntries settings.entries, LoadlineSource.ofFiles disk base]

end Settings
end FileSieve

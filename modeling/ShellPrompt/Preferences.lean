import ShellPrompt.Host
import ShellPrompt.Json
import ShellPrompt.Report

/-!
The user's preferences: the entries of an object in a JSON file. A file that is missing or holds
anything else counts as one without entries.
-/

namespace ShellPrompt.Preferences

def location (host : Host) : Path :=
  host.inHome [".config", "starship-architect", "preferences.json"]

/-- Why a file of preferences stops the program. -/
inductive LoadFault where
  | undecodable (fault : Undecodable)
  | long (fault : LongInteger)

/-- The entries of the file at a path. -/
def load (host : Host) (path : Path) : Report LoadFault (List (Value × Value)) :=
  if host.holds path then
    match host.readText path with
    | .error (.file _) => Report.noted [.unreadablePreferences] []
    | .error (.undecodable fault) => Report.fail (.undecodable fault)
    | .ok text =>
        match Json.read text with
        | .error .invalid => Report.noted [.unreadablePreferences] []
        | .error (.long fault) => Report.fail (.long fault)
        | .ok (.map entries) => pure entries
        | .ok _ => Report.noted [.preferencesWithoutObject path.toText] []
  else pure []

end ShellPrompt.Preferences

import ShellPrompt.Config.Generate
import ShellPrompt.Config.Parse
import ShellPrompt.Host

/-!
Configurations in files: where to look for one, reading it, writing it, and the modules that a new
one starts with.
-/

namespace ShellPrompt.Config

/-- The paths at which a configuration is looked for, in order. -/
def candidates (host : Host) : List Path :=
  let name : Path := .ofText "starship.toml"
  let usual := host.inHome [".config", "starship.toml"]
  match host.platform with
  | .windows =>
      let roaming := (host.environment.get? "APPDATA").getD ""
      [usual, (Path.ofText roaming).join (.ofText "starship/starship.toml"),
        host.inHome ["starship.toml"]]
  | .other =>
      match host.environment.get? "XDG_CONFIG_HOME" with
      | some directory => [usual, (Path.ofText directory).join name]
      | none => [usual, usual]

/-- The path of the configuration: the one that the environment gives, or else the first at which
there is something, or else the usual one. -/
def location (host : Host) : Path :=
  match host.environment.get? "STARSHIP_CONFIG" with
  | some path => .ofText path
  | none =>
      ((candidates host).find? host.holds).getD (host.inHome [".config", "starship.toml"])

def starterTypes : List String :=
  ["directory", "git_branch", "nodejs", Module.lineBreakType, "character"]

def starterModules (registry : Registry) : Except UnknownModule (List Module) :=
  starterTypes.mapM registry.create

inductive LoadFault where
  | read (fault : ReadFault)
  | parse (fault : ParseFault)

def load (host : Host) (path : Path) (registry : Registry) : Report LoadFault Parsed :=
  match host.readText path with
  | .error fault => Report.fail (.read fault)
  | .ok text => (parse text registry).mapFault .parse

inductive SaveFault where
  | file (fault : FileFault)
  | value (fault : UnwritableValue)

/-- The files after writing a configuration, and whether that succeeded. The directories around the
file are made first, then the file is emptied, and only then is its text made up. -/
def save (host : Host) (path : Path) (modules : List Module) (settings : Settings) :
    Files × Report SaveFault Unit :=
  match host.files.makeDirectories host.working path.parent with
  | (made, .error fault) => (made, Report.fail (.file fault))
  | (files, .ok ()) =>
      match files.write host.working path .empty with
      | .error fault => (files, Report.fail (.file fault))
      | .ok emptied =>
          let generated := (generate modules settings).mapFault SaveFault.value
          match generated.outcome with
          | .error _ => (emptied, generated.bind fun _ => pure ())
          | .ok text =>
              match emptied.write host.working path text.toUTF8 with
              | .error fault => (emptied, generated.bind fun _ => Report.fail (.file fault))
              | .ok written => (written, generated.bind fun _ => pure ())

end ShellPrompt.Config

import ShellPrompt.CommandLine

/-!
The program: it looks at the files that a run may touch, carries the run out on what it has seen,
and then writes the output and the files that have changed.
-/

namespace ShellPrompt

def survey (place : Place) : IO (Option Entry) := do
  try
    return some (.file (← IO.FS.readBinFile (Path.ofPlace place).toText))
  catch
    | .inappropriateType _ 21 _ => return some .directory
    | _ => return none

/-- The files with what stands on disk along a path. -/
def surveyPath (host : Host) (path : Path) : IO Host := do
  let start := if path.isAbsolute then [] else host.working
  let places := Files.placesAlong [] host.working ++ Files.placesAlong start path.names
  let mut files := host.files
  for place in places do
    if place ≠ [] ∧ (files.lookup place).isNone then
      if let some entry ← survey place then files := files.put place entry
  return { host with files }

def currentHost : IO Host := do
  let names := fun (text : String) => (Path.ofText text).names
  let mut environment : OrderedMap String String := .empty
  for name in ["STARSHIP_CONFIG", "XDG_CONFIG_HOME", "APPDATA"] do
    if let some value ← IO.getEnv name then environment := environment.insert name value
  return {
    working := names (← IO.currentDir).toString
    home := names ((← IO.getEnv "HOME").getD "")
    environment
    platform := if environment.contains "APPDATA" then .windows else .other }

def writeChanges (files before : Files) : IO Unit := do
  for (place, content) in files.changedSince before do
    IO.FS.createDirAll (Path.ofPlace place.dropLast).toText
    IO.FS.writeBinFile (Path.ofPlace place).toText content

def carryOut (invocation : CommandLine.Invocation) : IO UInt32 := do
  let start ← currentHost
  let mut host := start
  for path in CommandLine.paths start invocation do
    host ← surveyPath host path
  let report := CommandLine.run host invocation
  for warning in report.warnings do
    IO.eprintln ("WARNING " ++ warning.message)
  match report.outcome with
  | .error _ => do
      IO.eprintln "The run was stopped by a file that cannot be used."
      return 1
  | .ok ended => do
      IO.eprint ended.errors
      IO.print ended.output
      writeChanges ended.files host.files
      return ended.status.toUInt32

end ShellPrompt

def main (arguments : List String) : IO UInt32 :=
  match ShellPrompt.CommandLine.Invocation.ofArguments arguments with
  | .ok invocation => ShellPrompt.carryOut invocation
  | .error .help => do
      IO.println "usage: starship-architect [-v] [--themes-file FILE] (preview|export|themes) ..."
      return 0
  | .error .usage => do
      IO.eprintln "usage: starship-architect [-v] [--themes-file FILE] (preview|export|themes) ..."
      return 2

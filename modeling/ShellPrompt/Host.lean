import ShellPrompt.Files

/-!
The machine that the program runs on: its files, the working directory and the home directory, and
the environment variables.
-/

namespace ShellPrompt

inductive Platform where
  | windows
  | other
  deriving DecidableEq, Repr

structure Host where
  files : Files := {}
  working : Place := []
  home : Place := []
  environment : OrderedMap String String := .empty
  platform : Platform := .other

structure Undecodable where
  path : Path
  deriving DecidableEq, Repr

/-- Why there is no text to be had from a file. -/
inductive ReadFault where
  | file (fault : FileFault)
  | undecodable (fault : Undecodable)
  deriving DecidableEq, Repr

namespace Host

def inHome (host : Host) (names : List String) : Path := (Path.ofPlace host.home).inside names

def holds (host : Host) (path : Path) : Bool := (host.files.find? host.working path).isSome

def readText (host : Host) (path : Path) : Except ReadFault String :=
  match host.files.read host.working path with
  | .error fault => .error (.file fault)
  | .ok content =>
      match Text.ofFile? content with
      | none => .error (.undecodable ⟨path⟩)
      | some text => .ok text

end Host

end ShellPrompt

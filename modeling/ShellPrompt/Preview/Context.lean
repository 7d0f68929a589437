import ShellPrompt.OrderedMap

/-!
Simulated surroundings of a prompt: a directory, a clock, the state of a repository, and the
versions of languages and tools in use.
-/

namespace ShellPrompt.Preview

structure GitState where
  branch : String
  status : String := ""
  deriving DecidableEq, Repr

structure Context where
  id : String
  name : String
  path : String
  os : String := "linux"
  time : String := "12:00:00"
  git : Option GitState := none
  languages : OrderedMap String String := .empty
  packageVersion : Option String := none
  dockerContext : Option String := none
  deriving DecidableEq, Repr

namespace Context

def home : Context where
  id := "home"
  name := "Home"
  path := "~"
  time := "14:30:00"

def gitRepo : Context where
  id := "git-repo"
  name := "Git Repo"
  path := "~/projects/starship"
  git := some ⟨"main", "?"⟩
  time := "14:35:00"

def goProject : Context where
  id := "go-project"
  name := "Go Project"
  path := "~/go/src/github.com/user/project"
  git := some ⟨"feature/api", "!"⟩
  languages := .ofList [("golang", "1.21.0")]
  os := "macos"
  time := "15:00:00"

def nodeProject : Context where
  id := "node-project"
  name := "Node Project"
  path := "~/dev/react-app"
  git := some ⟨"fix/layout", "+"⟩
  languages := .ofList [("nodejs", "20.5.0")]
  packageVersion := some "1.0.0"
  os := "windows"
  time := "16:20:00"

def container : Context where
  id := "container"
  name := "Container"
  path := "/app/src"
  git := some ⟨"main", " +"⟩
  dockerContext := some "default"
  time := "17:45:00"

def predefined : List Context := [home, gitRepo, goProject, nodeProject, container]

def find? (id : String) : Option Context := predefined.find? fun context => context.id = id

end Context

end ShellPrompt.Preview

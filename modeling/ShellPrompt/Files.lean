import ShellPrompt.Files.Path
import ShellPrompt.OrderedMap
import ShellPrompt.Text.Newlines
import ShellPrompt.Text.Quoted

/-!
A tree of files and directories, and what can be done with it: reading and writing files and making
directories, by paths that are followed from a directory on. An operation that cannot be done says
why, and leaves the tree as it is; only several directories at once may be made in part.
-/

namespace ShellPrompt

/-- The names on the way from the root to a file or directory. -/
abbrev Place := List String

inductive FileProblem where
  | missing
  | exists
  | notDirectory
  | isDirectory
  deriving DecidableEq, Repr

structure FileFault where
  problem : FileProblem
  path : Path
  deriving DecidableEq, Repr

def FileProblem.message : FileProblem → String
  | .missing => "[Errno 2] No such file or directory"
  | .exists => "[Errno 17] File exists"
  | .notDirectory => "[Errno 20] Not a directory"
  | .isDirectory => "[Errno 21] Is a directory"

def FileFault.message (fault : FileFault) : String :=
  fault.problem.message ++ ": " ++ String.ofList (Text.quoteChars fault.path.toText.toList)

inductive Entry where
  | directory
  | file (content : ByteArray)

instance : DecidableEq Entry
  | .directory, .directory => isTrue rfl
  | .directory, .file _ => isFalse nofun
  | .file _, .directory => isFalse nofun
  | .file first, .file second =>
      match ByteArray.decEq first second with
      | isTrue same => isTrue (congrArg Entry.file same)
      | isFalse different => isFalse fun same => different (Entry.file.inj same)

/-- All that stands below the root, which is a directory itself. -/
structure Files where
  entries : OrderedMap Place Entry := .empty

namespace Files

def lookup (files : Files) (place : Place) : Option Entry :=
  if place = [] then some .directory else files.entries.get? place

def put (files : Files) (place : Place) (entry : Entry) : Files :=
  ⟨files.entries.insert place entry⟩

theorem lookup_put (files : Files) (place other : Place) (entry : Entry) (named : place ≠ []) :
    (files.put place entry).lookup other =
      if place = other then some entry else files.lookup other := by
  unfold lookup put
  by_cases same : place = other
  · subst same
    simp [named]
  · by_cases atRoot : other = []
    · simp [atRoot, named]
    · simp [same, atRoot]

/-- Follows names from a place on. Whatever a name is looked up in has to be a directory; two points
lead back from it. -/
def follow (files : Files) (place : Place) : List String → Except FileProblem Place
  | [] => .ok place
  | name :: rest =>
      match files.lookup place with
      | none => .error .missing
      | some (.file _) => .error .notDirectory
      | some .directory =>
          follow files (if name = ".." then place.dropLast else place ++ [name]) rest

def locate (files : Files) (start : Place) (path : Path) : Except FileProblem Place :=
  files.follow (if path.isAbsolute then [] else start) path.names

/-- The places that names lead through from a place on, if all are directories. -/
def placesAlong (place : Place) : List String → List Place
  | [] => [place]
  | name :: rest =>
      place :: placesAlong (if name = ".." then place.dropLast else place ++ [name]) rest

def find? (files : Files) (start : Place) (path : Path) : Option Entry :=
  match files.locate start path with
  | .ok place => files.lookup place
  | .error _ => none

def isDirectory (files : Files) (start : Place) (path : Path) : Bool :=
  files.find? start path == some .directory

def read (files : Files) (start : Place) (path : Path) : Except FileFault ByteArray :=
  match files.locate start path with
  | .error problem => .error ⟨problem, path⟩
  | .ok place =>
      match files.lookup place with
      | some (.file content) => .ok content
      | some .directory => .error ⟨.isDirectory, path⟩
      | none => .error ⟨.missing, path⟩

/-- Gives the file at a path a new content; the file is made if only it is missing. -/
def write (files : Files) (start : Place) (path : Path) (content : ByteArray) :
    Except FileFault Files :=
  match files.locate start path with
  | .error problem => .error ⟨problem, path⟩
  | .ok place =>
      match files.lookup place with
      | some .directory => .error ⟨.isDirectory, path⟩
      | _ => .ok (files.put place (.file content))

def makeDirectory (files : Files) (start : Place) (path : Path) : Except FileFault Files :=
  match files.locate start path with
  | .error problem => .error ⟨problem, path⟩
  | .ok place =>
      match files.lookup place with
      | some _ => .error ⟨.exists, path⟩
      | none => .ok (files.put place .directory)

/-- Makes a directory unless it is there already. -/
def ensureDirectory (files : Files) (start : Place) (path : Path) : Except FileFault Files :=
  match files.makeDirectory start path with
  | .ok made => .ok made
  | .error fault => if files.isDirectory start path then .ok files else .error fault

/-- Makes a directory and all those around it, unless they are there already. Those that were made
stay, even if a further one cannot be made. -/
def makeDirectories (files : Files) (start : Place) (path : Path) :
    Files × Except FileFault Unit :=
  match files.makeDirectory start path with
  | .ok made => (made, .ok ())
  | .error fault =>
      if fault.problem = .missing ∧ path.names ≠ [] then
        match makeDirectories files start path.parent with
        | (around, .error fault) => (around, .error fault)
        | (around, .ok ()) =>
            match around.ensureDirectory start path with
            | .error fault => (around, .error fault)
            | .ok made => (made, .ok ())
      else if files.isDirectory start path then (files, .ok ())
      else (files, .error fault)
termination_by path.names.length
decreasing_by
  rename_i missing
  have := List.length_pos_iff.mpr missing.2
  simp only [Path.parent, List.length_dropLast]
  omega

/-- The files with a directory and all those around it, if they can all be made. -/
def ensureDirectories (files : Files) (start : Place) (path : Path) : Except FileFault Files :=
  match files.makeDirectories start path with
  | (_, .error fault) => .error fault
  | (made, .ok ()) => .ok made

/-- The files that are new, or have another content than before. -/
def changedSince (files before : Files) : List (Place × ByteArray) :=
  files.entries.entries.filterMap fun (place, entry) =>
    match entry with
    | .directory => none
    | .file content => if before.lookup place = some entry then none else some (place, content)

end Files

end ShellPrompt

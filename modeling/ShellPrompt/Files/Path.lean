/-!
Paths of files: names between slashes. Empty names and single points mean nothing and are left out;
two points stay, since what they mean depends on the directories that are there.
-/

namespace ShellPrompt

structure Path where
  /-- The slashes in front: none for a relative path, else one or two. -/
  slashes : Nat := 0
  names : List String := []
  deriving DecidableEq, Repr

namespace Path

def splitSlashes : List Char → List (List Char)
  | [] => [[]]
  | c :: rest =>
      if c = '/' then [] :: splitSlashes rest
      else
        match splitSlashes rest with
        | [] => [[c]]
        | part :: parts => (c :: part) :: parts

/-- How many slashes in front count: exactly two are kept apart from one, more are not. -/
def leadingSlashes : List Char → Nat
  | '/' :: '/' :: '/' :: _ => 1
  | '/' :: '/' :: _ => 2
  | '/' :: _ => 1
  | _ => 0

def ofText (text : String) : Path where
  slashes := leadingSlashes text.toList
  names := ((splitSlashes text.toList).map String.ofList).filter fun name =>
    name != "" && name != "."

def isAbsolute (path : Path) : Bool := path.slashes != 0

/-- The text of a path; the empty relative path is a point. -/
def toText (path : Path) : String :=
  if path.slashes = 0 ∧ path.names = [] then "."
  else String.ofList (List.replicate path.slashes '/') ++ "/".intercalate path.names

/-- The second path taken from the first one, unless it is absolute. -/
def join (path other : Path) : Path :=
  if other.isAbsolute then other else { path with names := path.names ++ other.names }

def inside (path : Path) (names : List String) : Path :=
  { path with names := path.names ++ names }

def parent (path : Path) : Path := { path with names := path.names.dropLast }

/-- The absolute path of a place given by the names on the way to it. -/
def ofPlace (place : List String) : Path where
  slashes := 1
  names := place

end Path

end ShellPrompt

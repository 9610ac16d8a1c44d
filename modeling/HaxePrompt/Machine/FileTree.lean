import HaxePrompt.Machine.IoError
import HaxePrompt.Text.Utf8

/-! # File trees

A file tree maps locations, lists of names from the root, to what stands there: a directory, a
file, a program that can be run, or a symbolic link.  A path is text; `FileTree.resolve` walks it
name by name from a directory, follows links, and gives the place it leads to: what stands
there, or a location in an existing directory where a file could be made.

The walk refuses a path as the operating system does: a name that leads on from something that
is no directory, a name that does not exist and is not the last one, a name of more than 255
bytes, and more links than can be followed. -/

namespace HaxePrompt

/-- The names on the way from the root. -/
abbrev Location := List Text

/-- What stands at a location. -/
inductive Node where
  | directory
  | file (contents : Bytes)
  | program (name : Text)
  | link (target : Text)
deriving DecidableEq, Repr

/-- What stands where, apart from the root, which is a directory. -/
structure FileTree where
  nodes : List (Location × Node) := []
deriving DecidableEq, Repr

/-- Where a path leads. -/
inductive Place where
  | occupied (location : Location) (node : Node)
  /-- To nothing, in a directory that exists. -/
  | vacant (location : Location)
deriving DecidableEq, Repr

namespace FileTree

/-! ### Locations -/

def get? (tree : FileTree) (location : Location) : Option Node :=
  if location = [] then some .directory
  else (tree.nodes.find? fun entry => entry.1 = location).map (·.2)

def put (tree : FileTree) (location : Location) (node : Node) : FileTree :=
  { nodes := (location, node) :: tree.nodes.filter fun entry => entry.1 ≠ location }

/-- The tree without a location and all that is under it. -/
def remove (tree : FileTree) (location : Location) : FileTree :=
  { nodes := tree.nodes.filter fun entry => !location.isPrefixOf entry.1 }

def entries (tree : FileTree) (location : Location) : List (Text × Node) :=
  tree.nodes.filterMap fun (place, node) =>
    match place.getLast? with
    | some name => if place.dropLast = location then some (name, node) else none
    | none => none

/-- The tree with a directory at a location and at all locations above it. -/
def makeDirectories (tree : FileTree) (location : Location) : FileTree :=
  (List.range location.length).foldl (fun tree n =>
    let above := location.take (n + 1)
    if tree.get? above = none then tree.put above .directory else tree) tree

/-! ### Paths -/

/-- The character between the names of a path. -/
def separator : Text := ['/']

def pathOf (location : Location) : Text := separator ++ Text.join separator location

/-- A name under a directory, as a path. -/
def pathIn (directory name : Text) : Text :=
  if directory.getLast? = some '/' then directory ++ name else directory ++ separator ++ name

def isAbsolute (path : Text) : Bool := separator.isPrefixOf path

/-- The greatest number of bytes of a name. -/
def maxName : Nat := 255

/-- The number of bytes that a path given to the system has to stay below. -/
def maxPath : Nat := 4096

/-- The greatest number of links followed on one walk. -/
def maxLinks : Nat := 40

/-- Walks the names of a path, from a location.  An empty name asks only that a directory be
there.  With `creating`, a last name followed by nothing but separators is refused. -/
def walk (tree : FileTree) (creating : Bool) (links : Nat) (here : Location) :
    List Text → Except IoError Place
  | [] =>
    match tree.get? here with
    | some node => .ok (.occupied here node)
    | none => .error .notFound
  | name :: rest =>
    if tree.get? here ≠ some .directory then .error .notDirectory
    else if name = [] ∨ name = ['.'] then walk tree creating links here rest
    else if name = ['.', '.'] then walk tree creating links here.dropLast rest
    else if creating ∧ rest ≠ [] ∧ rest.all (·.isEmpty) then .error .isDirectory
    else if maxName < (Utf8.encode name).length then .error .nameTooLong
    else match tree.get? (here ++ [name]) with
      | none => if rest = [] then .ok (.vacant (here ++ [name])) else .error .notFound
      | some (.link target) =>
        match links with
        | 0 => .error .tooManyLinks
        | left + 1 =>
          walk tree creating left (if isAbsolute target then [] else here)
            (Text.split separator target ++ rest)
      | some _ => walk tree creating links (here ++ [name]) rest
termination_by names => (links, names.length)

/-- Where a path leads, from a directory. -/
def resolve (tree : FileTree) (creating : Bool) (here : Location) (path : Text) :
    Except IoError Place :=
  if path = [] then .error .notFound
  else if '\x00' ∈ path then .error .nulInPath
  else walk tree creating maxLinks (if isAbsolute path then [] else here)
    (Text.split separator path)

/-- Where a path leads, if it is short enough to be given to the system as a whole. -/
def resolveWhole (tree : FileTree) (creating : Bool) (here : Location) (path : Text) :
    Except IoError Place :=
  if '\x00' ∉ path ∧ maxPath ≤ (Utf8.encode path).length then .error .nameTooLong
  else tree.resolve creating here path

/-! ### Files -/

def read (tree : FileTree) (here : Location) (path : Text) : Except IoError Bytes :=
  match tree.resolveWhole false here path with
  | .error error => .error error
  | .ok (.vacant _) => .error .notFound
  | .ok (.occupied _ (.file contents)) => .ok contents
  | .ok (.occupied _ .directory) => .error .isDirectory
  | .ok (.occupied _ _) => .ok []

/-- The tree with a file of the given contents at a path. -/
def write (tree : FileTree) (here : Location) (path : Text) (contents : Bytes) :
    Except IoError FileTree :=
  match tree.resolveWhole true here path with
  | .error error => .error error
  | .ok (.occupied _ .directory) => .error .isDirectory
  | .ok (.occupied location _) | .ok (.vacant location) =>
    .ok (tree.put location (.file contents))

/-- The location that a path leads to, which has to exist. -/
def locate (tree : FileTree) (here : Location) (path : Text) : Except IoError Location :=
  match tree.resolve false here path with
  | .error error => .error error
  | .ok (.vacant _) => .error .notFound
  | .ok (.occupied location _) => .ok location

/-- The directory that a path leads to, to work in. -/
def enter (tree : FileTree) (here : Location) (path : Text) : Except IoError Location :=
  match tree.resolveWhole false here path with
  | .error error => .error error
  | .ok (.vacant _) => .error .notFound
  | .ok (.occupied location .directory) => .ok location
  | .ok (.occupied _ _) => .error .notDirectory

def programAt (tree : FileTree) (here : Location) (path : Text) : Except IoError Text :=
  match tree.resolveWhole false here path with
  | .error error => .error error
  | .ok (.vacant _) => .error .notFound
  | .ok (.occupied _ (.program name)) => .ok name
  | .ok (.occupied _ _) => .error .permissionDenied

/-- The path at which a program of a name is looked for in a directory.  No directory stands for
the current one. -/
def candidate (directory name : Text) : Text :=
  if directory = [] then name else pathIn directory name

/-- The program of a name, looked for in one directory after the other, when the search has failed
with `failure` so far.  Where the program or the directory is missing, the search goes on and
that is why it fails unless there is more to it.  It goes on as well past what cannot be run, and
then fails because of that.  Any other error ends it. -/
def searchFrom (tree : FileTree) (here : Location) (name : Text) :
    IoError → List Text → Except IoError Text
  | failure, [] => .error failure
  | failure, directory :: rest =>
    match tree.programAt here (candidate directory name) with
    | .ok program => .ok program
    | .error error =>
      if error = .permissionDenied then tree.searchFrom here name error rest
      else if error = .notFound ∨ error = .notDirectory then
        tree.searchFrom here name (if failure = .permissionDenied then failure else error) rest
      else .error error

/-- The program of a name, looked for in directories. -/
def searchProgram (tree : FileTree) (here : Location) (directories : List Text) (name : Text) :
    Except IoError Text :=
  if name = [] then .error .notFound else tree.searchFrom here name .notFound directories

end FileTree

end HaxePrompt

import HaxePrompt.Act
import HaxePrompt.Machine.FileTree

/-! # Machines

A `Machine` is what a run takes place on: a file tree, a current directory, a directory for
temporary files, and the installed programs.  How the programs behave is given by an instance of
`Programs`, which may be anything; `π` is the type of what they remember from one call to the
next.  The operations of a machine are actions that fail with an `IoError`. -/

namespace HaxePrompt

/-- The behaviour of the installed programs, with a memory of type `π`. -/
class Programs (π : Type) where
  /-- A program runs to its end.  It is given its name, the directory it works in, its arguments
  and the files. -/
  run : (name directory : Text) → (arguments : List Text) → FileTree → π → Completion × π
  start : (name directory : Text) → (arguments : List Text) → FileTree → π → Nat × π
  /-- A serving process is handed a line of input, or has closed its input. -/
  deliver : (process : Nat) → (line : Bytes) → π → Except IoError Reaction × π
  stop : (process : Nat) → π → π

/-- What a run takes place on. -/
structure Machine (π : Type) where
  files : FileTree := {}
  directory : Location := []
  temporary : Text := "/tmp"
  /-- The directories in which programs are looked for that are not given by a path. -/
  searchPath : List Text := []
  programs : π

namespace Machine

variable {π : Type}

/-- A path as it is seen from the root. -/
def absolute (machine : Machine π) (path : Text) : Text :=
  if FileTree.isAbsolute path then path
  else FileTree.pathIn (FileTree.pathOf machine.directory) path

/-! ### Files -/

def read (path : Text) : Act (Machine π) (Except IoError Bytes) := do
  let machine ← Act.get
  return machine.files.read machine.directory path

def write (path : Text) (contents : Bytes) : Act (Machine π) (Except IoError Unit) := do
  let machine ← Act.get
  match machine.files.write machine.directory path contents with
  | .error error => return .error error
  | .ok files =>
    Act.modify fun machine => { machine with files }
    return .ok ()

/-- The absolute path, free of links, of what a path leads to. -/
def canonical (path : Text) : Act (Machine π) (Except IoError Text) := do
  let machine ← Act.get
  return (machine.files.locate machine.directory path).map FileTree.pathOf

/-- The first name with the given beginning that is free in a directory. -/
def freeName (files : FileTree) (directory : Location) (stem : Text) : Text :=
  let names := (List.range (files.nodes.length + 1)).map fun n => stem ++ Text.decimal n
  (names.find? fun name => (files.get? (directory ++ [name])).isNone).getD stem

/-- Makes a temporary directory whose name has the given beginning, and gives its path. -/
def makeTemporary (stem : Text) : Act (Machine π) (Except IoError Text) := do
  let machine ← Act.get
  match machine.files.enter machine.directory machine.temporary with
  | .error error => return .error (error.atPath (FileTree.pathIn machine.temporary stem))
  | .ok parent =>
    let name := freeName machine.files parent stem
    let files := machine.files.put (parent ++ [name]) .directory
    Act.modify fun machine => { machine with files }
    return .ok (FileTree.pathIn machine.temporary name)

def remove (path : Text) : Act (Machine π) (Except IoError Unit) := do
  let machine ← Act.get
  match machine.files.enter machine.directory path with
  | .error error => return .error error
  | .ok location =>
    Act.modify fun machine => { machine with files := machine.files.remove location }
    return .ok ()

/-! ### Programs -/

/-- The program that an invocation runs, and the directory it runs in.  A directory that cannot
be worked in is noticed before a program that cannot be run. -/
def prepare (machine : Machine π) (invocation : Invocation) :
    Except IoError (Text × Location) := do
  let given := [invocation.program] ++ invocation.arguments ++ invocation.directory.toList
  if given.any fun text => '\x00' ∈ text then throw .nulInArgument
  let directory ← match invocation.directory with
    | some path => machine.files.enter machine.directory path
    | none => .ok machine.directory
  let name ←
    if '/' ∈ invocation.program then machine.files.programAt directory invocation.program
    else machine.files.searchProgram directory machine.searchPath invocation.program
  return (name, directory)

/-- The files after some were written from a directory.  One that cannot be written is left
out. -/
def writeAll (files : FileTree) (directory : Location) (wrote : List (Text × Bytes)) : FileTree :=
  wrote.foldl (fun files (path, contents) =>
    match files.write directory path contents with
    | .ok files => files
    | .error _ => files) files

variable [Programs π]

def run (invocation : Invocation) : Act (Machine π) (Except IoError Completion) := do
  let machine ← Act.get
  match machine.prepare invocation with
  | .error error => return .error error
  | .ok (name, directory) =>
    let (completion, programs) := Programs.run name (FileTree.pathOf directory)
      invocation.arguments machine.files machine.programs
    let files := writeAll machine.files directory completion.wrote
    Act.modify fun machine => { machine with files, programs }
    return .ok completion

/-- Starts a program that serves requests, and gives its process number. -/
def start (invocation : Invocation) : Act (Machine π) (Except IoError Nat) := do
  let machine ← Act.get
  match machine.prepare invocation with
  | .error error => return .error error
  | .ok (name, directory) =>
    let (process, programs) := Programs.start name (FileTree.pathOf directory)
      invocation.arguments machine.files machine.programs
    Act.modify fun machine => { machine with programs }
    return .ok process

def deliver (process : Nat) (line : Bytes) : Act (Machine π) (Except IoError Reaction) := do
  let machine ← Act.get
  let (reaction, programs) := Programs.deliver process line machine.programs
  Act.modify fun machine => { machine with programs }
  return reaction

def stop (process : Nat) : Act (Machine π) Unit :=
  Act.modify fun machine => { machine with programs := Programs.stop process machine.programs }

end Machine

end HaxePrompt

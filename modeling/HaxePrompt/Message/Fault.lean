import HaxePrompt.Console.Style
import HaxePrompt.Machine.IoError

/-! # Faults

A `Fault` is a failure as the user is told of it: a kind, a message and hints on what to do.
The faults of this program are named here, so that their wording stands in one place.
`Fault.report` gives the lines shown for a fault: its label and message, then the message of
each hint that has one. -/

namespace HaxePrompt

/-- The kinds of faults. -/
inductive Fault.Kind where
  /-- A hint, shown with another fault or by itself. -/
  | hint
  | toolchain
  | compile
  | extract
  | eval
  | io
  | usage
deriving DecidableEq, Repr

namespace Fault.Kind

/-- All kinds, in the order of their exit statuses. -/
def all : List Fault.Kind := [.hint, .toolchain, .compile, .extract, .eval, .io, .usage]

def label : Fault.Kind → Text
  | .hint => "hint"
  | .toolchain => "toolchain"
  | .compile => "Repl"
  | .extract => "extract"
  | .eval => "Eval"
  | .io => "i/o"
  | .usage => "usage"

def style : Fault.Kind → Style
  | .eval => { bold := true, foreground := some .red }
  | .compile => { bold := true, foreground := some .yellow }
  | _ => { background := some .yellow, foreground := some .black }

/-- The exit status of a program that ends with such a fault. -/
def exitStatus : Fault.Kind → Nat
  | .hint => 0
  | .toolchain => 1
  | .compile => 2
  | .extract => 3
  | .eval => 4
  | .io => 5
  | .usage => 6

end Fault.Kind

/-- A failure as the user is told of it. -/
structure Fault where
  kind : Fault.Kind
  message : Option Text := none
  hints : List Fault := []
deriving Repr

namespace Fault

def withMessage (fault : Fault) (message : Text) : Fault := { fault with message := some message }

def withHint (fault : Fault) (hint : Fault) : Fault :=
  { fault with hints := fault.hints ++ [hint] }

/-- Does the fault consist of its kind alone? -/
def isBare (fault : Fault) : Bool := fault.message.isNone && fault.hints.isEmpty

def of (kind : Fault.Kind) (message : Text) : Fault := { kind, message := some message }

/-- The fault on one line, without its hints. -/
def summary (fault : Fault) : Text :=
  match fault.message with
  | some message => fault.kind.label ++ ": " ++ message
  | none => fault.kind.label

/-- The lines shown for a fault.  Hints without a message, and hints of hints, are not shown. -/
def report (fault : Fault) : List (List Fragment) :=
  let label := Fragment.styled fault.kind.style fault.kind.label
  let head := match fault.message with
    | some message => [label, .plain (": " ++ message)]
    | none => [label]
  let hintStyle : Style := { background := some .green, foreground := some .black }
  head :: (fault.hints.filterMap (·.message)).map fun message =>
    [Fragment.styled hintStyle "hint", .plain (": " ++ message)]

/-! ### The faults of this program -/

/-- The text in backticks, as names and paths are quoted in messages. -/
def ticked (s : Text) : Text := "`" ++ s ++ "`"

def compilationFailed : Fault := .of .compile "compilation failed"

/-- The compiled output has no marker. -/
def noMarkers : Fault := .of .extract "compiled output carries no turn markers"

/-- The compiled output has no code between two markers. -/
def noStatement : Fault := .of .extract "compiled output carries no statement"

/-- The wording for a program that cannot be started. -/
def cannotRun (program : Text) (error : IoError) : Text :=
  "cannot run " ++ ticked program ++ ": " ++ error.describe

def cannotRead (path : Text) (error : IoError) : Fault :=
  .of .io ("cannot read " ++ ticked path ++ ": " ++ error.describe)

def cannotWrite (path : Text) (error : IoError) : Fault :=
  .of .io ("cannot write " ++ ticked path ++ ": " ++ error.describe)

/-- Loading a file ended at the entry that begins on the given line. -/
def stoppedLoading (path : Text) (line : Nat) : Fault :=
  .of .hint ("stopped loading " ++ ticked path ++ " at line " ++ Text.decimal line)

def unusableDirectory (path : Text) (error : IoError) : Fault :=
  .of .usage ("cannot use " ++ ticked path ++ " as working directory: " ++ error.describe)

def ofIoError (error : IoError) : Fault := .of .io error.describe

end Fault

end HaxePrompt

import HaxePrompt.Console.Style

/-! # Diagnostics of the compiler

The compiler writes its messages one to a line.  A line that points into the compilation unit,
by the name of its file at the start of the line or right after a path separator, a line number
and a colon, is an error or a warning of which only the message is kept; any other line is kept
as it is.  `Diagnostic.parse` reads what the compiler wrote, `visible` leaves out the warnings
where they are not wanted, and `Diagnostic.report` is what is shown. -/

namespace HaxePrompt

/-- One line of what the compiler had to say. -/
inductive Diagnostic where
  | error (line : Nat) (message : Text)
  | warning (line : Nat) (message : Text)
  | other (text : Text)
deriving DecidableEq, Repr

namespace Diagnostic

def isWarning : Diagnostic → Bool
  | .warning _ _ => true
  | _ => false

/-- The line of the compilation unit that it points at. -/
def line? : Diagnostic → Option Nat
  | .error line _ | .warning line _ => some line
  | .other _ => none

def message : Diagnostic → Text
  | .error _ message | .warning _ message => message
  | .other text => text

def report : Diagnostic → List Fragment
  | .error _ message =>
    [.styled { bold := true, foreground := some .yellow } "Repl", .plain (": " ++ message)]
  | .warning _ message =>
    [.styled { foreground := some .yellow } "Repl", .plain (": " ++ message)]
  | .other text => [.plain text]

/-! ### Reading -/

/-- The text in front of a warning's message. -/
def warningMark : Text := "Warning : "

/-- Line numbers are below this bound. -/
def lineBound : Nat := UInt64.size

/-- Can a file name begin after this piece of a line?  Between two occurrences of the name only
a path separator makes room for it; at the start of the line nothing is needed. -/
def isAnchor (atStart : Bool) (piece : Text) : Bool :=
  match piece.getLast? with
  | none => atStart
  | some c => c == '/' || c == '\\'

/-- The text after the first anchored occurrence of the name, in a line given as the pieces
between its occurrences. -/
def afterAnchored (name : Text) : Bool → List Text → Option Text
  | atStart, piece :: next :: rest =>
    if isAnchor atStart piece then some (Text.join name (next :: rest))
    else afterAnchored name false (next :: rest)
  | _, _ => none

/-- The line number and the message of a position given as `number: message`. -/
def position? (s : Text) : Option (Nat × Text) :=
  let digits := s.takeWhile Text.isDigit
  let number := Text.digitsValue digits
  if digits ≠ [] ∧ number < lineBound then
    ((": " : Text).isPrefixOf? (s.dropWhile Text.isDigit)).map fun message => (number, message)
  else none

/-- Reads a line about the compilation unit in the given file. -/
def ofLine (file line : Text) : Diagnostic :=
  let name := file ++ ":"
  match (afterAnchored name true (Text.split name line)).bind position? with
  | some (number, message) =>
    match Text.cut warningMark message with
    | some (_, remark) => .warning number remark
    | none => .error number message
  | none => .other line

/-- The line without the carriage returns at its end. -/
def dropReturns (line : Text) : Text := (line.reverse.dropWhile (· == '\r')).reverse

/-- Reads all that the compiler wrote about the compilation unit in the given file.  Blank
lines say nothing. -/
def parse (file written : Text) : List Diagnostic :=
  (((Text.lines written).map dropReturns).filter (· ≠ [])).map (ofLine file)

/-- The diagnostics to be shown. -/
def visible (warnings : Bool) (diagnostics : List Diagnostic) : List Diagnostic :=
  diagnostics.filter fun diagnostic => warnings || !diagnostic.isWarning

end Diagnostic

end HaxePrompt

import HaxePrompt.Entry.Delimiters
import HaxePrompt.Shell.Command
import HaxePrompt.Text.Backspace
import HaxePrompt.Text.Utf8

/-! # The dialogue at the prompt

What the prompt does with the lines it reads depends on the lines alone: lines are joined while
delimiters are open, and a line at a fresh prompt may be a command.  `Dialogue.moves` is the list
of what is done, in order: prompts shown, inputs evaluated, commands carried out, and refused
lines.  The lines entered so far are called pending. -/

namespace HaxePrompt

/-- What comes of an attempt to read a line. -/
inductive Reading where
  /-- A line, without its ending and with its backspaces carried out. -/
  | line (text : Text)
  | interrupted
  | failed (error : IoError)
deriving DecidableEq, Repr

/-- Something done in a dialogue. -/
inductive Move where
  /-- A prompt is shown: that for a fresh input, or that for its continuation. -/
  | prompt (fresh : Bool)
  | evaluate (input : Text)
  | perform (command : Command)
  | reject (fault : Fault)
  | abort (error : IoError)

namespace Dialogue

/-! ### Reading -/

/-- The bytes given, cut after every line feed. -/
def rawLines (bytes : Bytes) : List Bytes :=
  let pieces := Text.split [10] bytes
  pieces.dropLast.map (· ++ [10]) ++ (pieces.getLast?.filter (· ≠ [])).toList

/-- The line without its ending, a line feed with or without a carriage return before it. -/
def withoutEnding (line : Text) : Text :=
  if line.getLast? = some '\n' then Text.dropReturn line.dropLast else line

/-- What comes of reading the bytes of a line.  The backspaces in it are carried out. -/
def readingOf (bytes : Bytes) : Reading :=
  match Utf8.decodeStrict bytes with
  | some line => .line (Text.applyBackspaces (withoutEnding line))
  | none => .failed .invalidUtf8

/-! ### The moves -/

/-- The pending lines with one more. -/
def extend (pending line : Text) : Text :=
  if pending = [] then line else pending ++ Text.newline ++ line

/-- The line that drops the pending lines. -/
def breakLine : Text := ".break"

/-- The command that a line stands for.  While lines are pending only one is known. -/
def commandOf (pending line : Text) : Except Fault (Option Command) :=
  if pending = [] then Command.parse line
  else .ok (if Text.trim line = breakLine then some .break else none)

/-- The moves of a dialogue, from the pending lines and what is read from now on.  The prompt is
shown once more at the end of the input. -/
def moves (pending : Text) : List Reading → List Move
  | [] => [.prompt pending.isEmpty]
  | .interrupted :: rest => .prompt pending.isEmpty :: moves [] rest
  | .failed error :: _ => [.prompt pending.isEmpty, .abort error]
  | .line line :: rest =>
    .prompt pending.isEmpty ::
      match commandOf pending line with
      | .error fault => .reject fault :: moves pending rest
      | .ok (some .exit) => [.perform .exit]
      | .ok (some .break) => .perform .break :: moves [] rest
      | .ok (some command) => .perform command :: moves pending rest
      | .ok none =>
        if Delimiters.isUnclosed (extend pending line) then moves (extend pending line) rest
        else .evaluate (extend pending line) :: moves [] rest

def Move.isPrompt : Move → Bool
  | .prompt _ => true
  | _ => false

/-- The number of attempts to read that the moves stand for. -/
def attempts (ms : List Move) : Nat := ms.countP Move.isPrompt

end Dialogue

end HaxePrompt

import HaxePrompt.Message.Fault
import HaxePrompt.Text.Blank
import HaxePrompt.Text.Quoted

/-! # Commands of the prompt

A line that begins with a dot and a letter is a command to the prompt itself and not an input
to be evaluated.  `Command.parse` recognizes it; a text such as `.5` is no command. -/

namespace HaxePrompt

/-- The commands of the prompt. -/
inductive Command where
  | help
  | exit
  | clear
  /-- Drop the lines entered so far. -/
  | break
  | load (path : Text)
  | save (path : Text)
deriving DecidableEq, Repr

namespace Command

/-- The name of a command in the log. -/
def name : Command → Text
  | .help => "Help"
  | .exit => "Exit"
  | .clear => "Clear"
  | .break => "Break"
  | .load path => "Load(" ++ Text.quoted path ++ ")"
  | .save path => "Save(" ++ Text.quoted path ++ ")"

def summary : Text := Text.join Text.newline [
  ".break    Drop the lines entered so far",
  ".clear    Reset the session",
  ".exit     Exit the REPL",
  ".help     Print this help message",
  ".load     Evaluate the lines of a file",
  ".save     Save the imports and statements of the session to a file",
  "$         List the imports and statements of the session"]

/-! ### Faults -/

def missingFile (keyword : Text) : Fault := .of .usage ("usage: ." ++ keyword ++ " <file>")

def unknown (keyword : Text) : Fault :=
  (Fault.of .usage ("invalid REPL keyword " ++ Fault.ticked ("." ++ keyword))).withHint
    (.of .hint ("try " ++ Fault.ticked ".help"))

/-! ### Reading -/

/-- Is the character a letter of the English alphabet? -/
def isLetter (c : Char) : Bool := ('a' ≤ c && c ≤ 'z') || ('A' ≤ c && c ≤ 'Z')

/-- The file a command works on: all that follows the keyword. -/
def fileOperand (keyword operand : Text) : Except Fault Text :=
  if operand = [] then .error (missingFile keyword) else .ok operand

/-- The command of a keyword and what follows it, without the blanks around it. -/
def ofKeyword (keyword operand : Text) : Except Fault Command :=
  if keyword = "help".toList then .ok .help
  else if keyword = "exit".toList then .ok .exit
  else if keyword = "clear".toList then .ok .clear
  else if keyword = "break".toList then .ok .break
  else if keyword = "load".toList then (fileOperand keyword operand).map .load
  else if keyword = "save".toList then (fileOperand keyword operand).map .save
  else .error (unknown keyword)

/-- Recognizes a command.  The keyword ends at the first blank. -/
def parse (line : Text) : Except Fault (Option Command) :=
  match Text.trim line with
  | '.' :: c :: rest =>
    if isLetter c then
      let keyword := (c :: rest).takeWhile (!Text.isBlank ·)
      let operand := Text.trim ((c :: rest).dropWhile (!Text.isBlank ·))
      (ofKeyword keyword operand).map some
    else .ok none
  | _ => .ok none

end Command

end HaxePrompt

import HaxePrompt.Entry.Basic
import HaxePrompt.Machine.Invocation
import HaxePrompt.Shell.Command
import HaxePrompt.Turn.Phase

/-! # The log

While the log is on, the program tells what it does, one `Notice` at a time.  A notice belongs
to a topic or to none; `Notice.report` is the line written for it.  The line begins with a badge
and names the topic. -/

namespace HaxePrompt

/-- The topics of the log. -/
inductive Topic where
  | turn
  | compile
  | eval
deriving DecidableEq, Repr

namespace Topic

def name : Topic → Text
  | .turn => "turn"
  | .compile => "compile"
  | .eval => "eval"

/-- The colour behind the name of a topic. -/
def colour : Topic → Colour
  | .turn => .green
  | .compile => .blue
  | .eval => .cyan

/-- The line of the log for a text on a topic, or on none. -/
def logLine (topic : Option Topic) (text : Text) : List Fragment :=
  let badge (colour : Colour) (label : Text) : Fragment :=
    .styled { background := some colour, foreground := some .black } label
  [.plain "<", badge .purple "LOG", .plain "> "] ++
    (match topic with
    | some topic => [.plain "[", badge topic.colour topic.name, .plain "] "]
    | none => []) ++
    [.plain text]

end Topic

/-- Something told in the log. -/
inductive Notice where
  | classified (raw : Text) (kind : Entry.Kind)
  | moved (before after : Phase)
  | cleared
  | programDirectory (path : Text)
  | invoked (words : List Text)
  | located (file : Text) (line : Nat) (message : Text)
  | compilerExited (status : ExitStatus)
  | sandboxStarted (process : Nat)
  | running (bytes : Nat)
  | sandboxExited (status : ExitStatus)
  | sandboxReset
  | performing (command : Command)
  | ready (version directory : Text)
deriving DecidableEq, Repr

namespace Notice

def topic : Notice → Option Topic
  | .classified .. | .moved .. | .cleared => some .turn
  | .programDirectory .. | .invoked .. | .located .. | .compilerExited .. => some .compile
  | .sandboxStarted .. | .running .. | .sandboxExited .. | .sandboxReset => some .eval
  | .performing .. | .ready .. => none

def text : Notice → Text
  | .classified raw kind => Fault.ticked raw ++ " classified as " ++ kind.name
  | .moved before after => before.name ++ " -> " ++ after.name
  | .cleared => "session cleared"
  | .programDirectory path => "compilation unit lives in " ++ path
  | .invoked words => Text.join [' '] words
  | .located file line message => file ++ ":" ++ Text.decimal line ++ ": " ++ message
  | .compilerExited status => "compiler exited with " ++ status.describe
  | .sandboxStarted process => "sandbox started as process " ++ Text.decimal process
  | .running bytes => "running " ++ Text.decimal bytes ++ " bytes of JavaScript"
  | .sandboxExited status => "sandbox exited with " ++ status.describe
  | .sandboxReset => "sandbox reset"
  | .performing command => "running " ++ command.name
  | .ready version directory => "node " ++ version ++ ", modules resolved from " ++ directory

/-- The line of the log for a notice. -/
def report (notice : Notice) : List Fragment := Topic.logLine notice.topic notice.text

end Notice

end HaxePrompt

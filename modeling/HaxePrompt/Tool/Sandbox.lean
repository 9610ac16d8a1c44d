import HaxePrompt.Machine.Basic
import HaxePrompt.Tool.Compiler
import HaxePrompt.Tool.Report

/-! # The sandbox

Code is evaluated by a runner, a Node.js process that is started when it is first needed and
kept, so that what one entry defines is there for the next.  A runner is held only between a
report and the next request: one that ends, or cannot be written to, is dropped with all that it
has defined, and the next evaluation starts another. -/

namespace HaxePrompt

/-- A running evaluator. -/
structure Runner where
  process : Nat
  /-- The bytes received of a line that is not complete. -/
  unfinished : Bytes := []
  /-- The reports received that no evaluation has taken. -/
  reports : List Report := []
deriving DecidableEq, Repr

/-- The evaluator of a session. -/
structure Sandbox where
  program : Text
  workingDirectory : Text
  directory : Text
  colours : Bool := false
  runner : Option Runner := none
deriving DecidableEq, Repr

namespace Sandbox

variable {π : Type}

def scriptFile : Text := "runner.js"

def scriptPath (sandbox : Sandbox) : Text := FileTree.pathIn sandbox.directory scriptFile

def invocation (sandbox : Sandbox) : Invocation :=
  { program := sandbox.program,
    arguments := [sandbox.scriptPath, sandbox.workingDirectory] ++
      if sandbox.colours then [("--colors" : Text)] else [],
    directory := some sandbox.workingDirectory }

/-- Makes a sandbox with a temporary directory of its own, which holds the script. -/
def create (program workingDirectory : Text) (colours : Bool) (script : Text) :
    Act (Machine π) (Except Fault Sandbox) := do
  match ← Machine.makeTemporary "hxrepl_vm_" with
  | .error error => return .error (.ofIoError error)
  | .ok directory =>
    let sandbox : Sandbox := { program, workingDirectory, directory, colours }
    match ← Machine.write sandbox.scriptPath (Utf8.encode script) with
    | .error error => return .error (.ofIoError error)
    | .ok () => return .ok sandbox

/-! ### What a runner sends -/

/-- The lines of a reaction that can be read, and what is left of the bytes.  Once the runner
has ended, what it left of a line is read as well. -/
def receive (unfinished : Bytes) (reaction : Reaction) : List Bytes × Bytes :=
  let (lines, rest) := Report.complete (unfinished ++ reaction.output)
  if reaction.ended.isSome then (if rest = [] then lines else lines ++ [rest], [])
  else (lines, rest)

/-- Shows what a runner has printed, and gives the runner with the reports it has sent. -/
def attend (runner : Runner) (reaction : Reaction) : Act (Machine π) Runner := do
  Act.emit (.write .error reaction.errors)
  let (lines, unfinished) := receive runner.unfinished reaction
  let read := lines.map Report.ofLine
  Act.emitAll (read.map fun (output, _) => .raw .output output)
  return { runner with unfinished, reports := runner.reports ++ read.filterMap (·.2) }

variable [Programs π]

def version (sandbox : Sandbox) : Act (Machine π) (Except Fault Text) := do
  return (← Compiler.askVersion sandbox.program "--version").map (·.1)

/-- The sandbox without its runner. -/
def drop (sandbox : Sandbox) : Act (Machine π) Sandbox := do
  match sandbox.runner with
  | some runner => Machine.stop runner.process
  | none => pure ()
  return { sandbox with runner := none }

def spawn (sandbox : Sandbox) : Act (Machine π) (Except Fault Runner) := do
  match ← Machine.start sandbox.invocation with
  | .error error => return .error (.of .eval (Fault.cannotRun sandbox.program error))
  | .ok process =>
    Act.note (.sandboxStarted process)
    return .ok { process }

/-- The runner that is held, or a new one. -/
def take (sandbox : Sandbox) : Act (Machine π) (Except Fault Runner) :=
  match sandbox.runner with
  | some runner => return .ok runner
  | none => sandbox.spawn

/-- The runner took no request. -/
def gone (error : IoError) : Fault := .of .eval ("sandbox is gone: " ++ error.describe)

/-- The runner ended without a report. -/
def exited (status : ExitStatus) : Fault := .of .eval ("sandbox exited with " ++ status.describe)

/-- The runner neither ended nor sent a report.  The program waits for it without end and gives no
result; this fault stands for that and is never printed. -/
def silent : Fault := { kind := .eval }

/-- Sends code to a runner and waits for the report.  Only a runner that sent one is held
afterwards.  A reaction is all that the runner does before it is silent for good: if that is neither
a report nor its end, `silent` stands for the result that there is not.  The status of a runner that
ended can always be had here; an error of asking the system for it is left out. -/
def ask (sandbox : Sandbox) (runner : Runner) (code : Text) :
    Act (Machine π) (Sandbox × Except Fault (Option Text)) := do
  let held := { sandbox with runner := some runner }
  Act.note (.running (Utf8.encode code).length)
  match ← Machine.deliver runner.process (Utf8.encode (request code)) with
  | .error error => return (← held.drop, .error (gone error))
  | .ok reaction =>
    let runner ← attend runner reaction
    match runner.reports, reaction.ended with
    | report :: reports, _ =>
      return ({ sandbox with runner := some { runner with reports } }, report.result)
    | [], some status =>
      Act.note (.sandboxExited status)
      return (← held.drop, .error (exited status))
    | [], none => return (← held.drop, .error silent)

/-- Evaluates code, and gives the sandbox after it. -/
def evaluate (sandbox : Sandbox) (code : Text) :
    Act (Machine π) (Sandbox × Except Fault (Option Text)) := do
  match ← sandbox.take with
  | .error fault => return ({ sandbox with runner := none }, .error fault)
  | .ok runner => sandbox.ask runner code

/-- Forgets all that was defined, by dropping the runner. -/
def reset (sandbox : Sandbox) : Act (Machine π) Sandbox := do
  Act.note .sandboxReset
  sandbox.drop

/-- Drops the runner and removes what the sandbox left, if it is still there. -/
def dispose (sandbox : Sandbox) : Act (Machine π) Unit := do
  let sandbox ← sandbox.drop
  let _ ← Machine.remove sandbox.directory

end Sandbox

end HaxePrompt

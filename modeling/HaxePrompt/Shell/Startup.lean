import HaxePrompt.Shell.Environment
import HaxePrompt.Shell.Loop
import HaxePrompt.Shell.Usage

/-! # Startup

`Startup.run` is the whole program: it reads the options, makes the tools, asks both of them for
their versions and holds the dialogue.  Its value is the exit status: zero, or that of the kind
of fault that kept the session from starting. -/

namespace HaxePrompt.Startup

/-- How the program is called. -/
structure Call where
  arguments : List Text := []
  environment : Environment := []
  input : Bytes := []
deriving DecidableEq, Repr

namespace Call

def has (call : Call) (switch : Switch) : Bool :=
  (Options.parse call.arguments).toOption.any (·.has switch)

/-- How what the program leaves is shown. -/
def display (call : Call) : Display where
  colours := call.environment.asksForColours
  log := call.has .debug || call.environment.asksForLog

/-- What is done at the prompt. -/
def moves (call : Call) : List Move :=
  Dialogue.moves [] ((Dialogue.rawLines call.input).map Dialogue.readingOf)

end Call

variable {π : Type}

/-- Ends the program with a fault. -/
def abandon {σ : Type} (fault : Fault) : Act σ Nat := do
  Act.emitAll (Emission.fault fault)
  return fault.kind.exitStatus

/-- The exit status of a program that failed in no way of its own. -/
def failure : Nat := 1

/-- The text shown when the prompt cannot be read any more. -/
def unreadable (error : IoError) : Text :=
  Text.unlines ["Error: " ++ error.describe, [], "Caused by:", "    " ++ error.describe]

/-- Ends the program after the dialogue. -/
def conclude {σ : Type} : Except IoError Unit → Act σ Nat
  | .ok () => return 0
  | .error error => do
    Act.emit (.raw .error (unreadable error))
    return failure

/-- Ends the program because of its arguments. -/
def decline {σ : Type} (refusal : Refusal) : Act σ Nat := do
  if refusal.error = .help then
    Act.emit (.raw .output Usage.help)
    return 0
  else
    Act.emit (.raw .error (Usage.complaint refusal))
    return failure

/-- The line that greets the user. -/
def greeting (version : Text) : Text := "REPL Haxe " ++ version

variable [Programs π]

/-- The versions of the compiler and of the evaluator, asked for in this order. -/
def versions (equipment : Equipment) : Act (Machine π) (Except Fault (Text × Text)) := do
  match ← equipment.compiler.version with
  | .error fault => return .error fault
  | .ok compiler =>
    match ← equipment.sandbox.version with
    | .error fault => return .error fault
    | .ok evaluator => return .ok (compiler, evaluator)

/-- Makes the tools and holds the dialogue. -/
def converse (settings : Settings) (prompts : Bool) (moves : List Move) :
    Act (Machine π) Nat := do
  match ← settings.equip with
  | .error fault => abandon fault
  | .ok equipment =>
    match ← versions equipment with
    | .error fault => abandon fault
    | .ok (compiler, evaluator) =>
      Act.note (.ready evaluator equipment.sandbox.workingDirectory)
      Act.emit (.say (greeting compiler))
      conclude (← Shell.conduct settings equipment prompts moves)

/-- The machine as the environment has it. -/
def settle (environment : Environment) (machine : Machine π) : Machine π :=
  { machine with
    searchPath := environment.searchPath?.getD machine.searchPath
    temporary := (environment.temporary?.map machine.absolute).getD machine.temporary }

/-- Runs the program and gives its exit status. -/
def run (call : Call) : Act (Machine π) Nat :=
  match Options.parse call.arguments with
  | .error refusal => decline refusal
  | .ok options =>
    if options.has .version then do
      Act.emit (.say Usage.versionNumber)
      return 0
    else do
      Act.modify (settle call.environment)
      converse options.settings call.environment.showsPrompts call.moves

end HaxePrompt.Startup

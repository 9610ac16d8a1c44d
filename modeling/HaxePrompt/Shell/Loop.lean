import HaxePrompt.Shell.Dialogue
import HaxePrompt.Shell.Load
import HaxePrompt.Shell.Settings

/-! # Carrying out a dialogue

`Shell.conduct` carries out the moves of a dialogue on a machine, with the tools it was equipped
with, and removes what they left at the end. -/

namespace HaxePrompt.Shell

variable {π : Type}

def promptFragments (fresh : Bool) : List Fragment :=
  [.styled { foreground := some .purple } (if fresh then ">" else "..."), .plain " "]

def showFault {σ : Type} : Except Fault Unit → Act σ Unit
  | .ok () => pure ()
  | .error fault => Act.emitAll (Emission.fault fault)

def onMachine {α : Type} (act : Act (Machine π) α) : Act (Engine (Workshop π)) α :=
  Engine.onTools (Workshop.onMachine act)

def save (history : History) (path : Text) : Act (Machine π) (Except Fault Unit) := do
  return (← Machine.write path (Utf8.encode history.toScript)).mapError (Fault.cannotWrite path)

variable [Programs π]

/-- Carries out a command.  Dropping the pending lines, and ending the session, is left to the
dialogue. -/
def perform (command : Command) : Act (Engine (Workshop π)) Unit := do
  Act.note (.performing command)
  match command with
  | .help => Act.emit (.say Command.summary)
  | .exit | .break => pure ()
  | .clear => Engine.clear Workshop.toolchain
  | .load path =>
    let contents ← onMachine (Machine.read path)
    showFault (← load Workshop.toolchain path contents)
  | .save path =>
    match ← onMachine (save (← Act.get).history path) with
    | .ok () => Act.emit (.say ("session saved to " ++ path))
    | .error fault => showFault (.error fault)

/-- Carries out a move, and gives the error that ends the dialogue, if there is one. -/
def carryOut (prompts : Bool) : Move → Act (Engine (Workshop π)) (Option IoError)
  | .prompt fresh => do
    if prompts then Act.emit (.print .output (promptFragments fresh))
    return none
  | .evaluate input => do
    let _ ← submitShown Workshop.toolchain input
    return none
  | .perform command => do
    perform command
    return none
  | .reject fault => do
    showFault (.error fault)
    return none
  | .abort error => return some error

/-- Carries out moves, up to an error. -/
def carryOutAll (prompts : Bool) : List Move → Act (Engine (Workshop π)) (Except IoError Unit)
  | [] => return .ok ()
  | move :: rest => do
    match ← carryOut prompts move with
    | some error => return .error error
    | none => carryOutAll prompts rest

/-- The engine of a fresh session. -/
def freshEngine (settings : Settings) (equipment : Equipment) (machine : Machine π) :
    Engine (Workshop π) :=
  { showWarnings := settings.showWarnings, tools := { equipment with machine } }

/-- Carries out a whole dialogue in a fresh session. -/
def conduct (settings : Settings) (equipment : Equipment) (prompts : Bool) (moves : List Move) :
    Act (Machine π) (Except IoError Unit) :=
  Act.on (freshEngine settings equipment) (fun engine _ => engine.tools.machine) do
    let result ← carryOutAll prompts moves
    Engine.onTools Workshop.dispose
    return result

end HaxePrompt.Shell

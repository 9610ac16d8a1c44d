import HaxePrompt.Entry.Script
import HaxePrompt.Text.Utf8
import HaxePrompt.Turn.Engine

/-! # Loading a script

`load` evaluates the inputs of a file one after the other and stops at the first that fails.
The contents of the file, or the reason why it could not be read, are given to it. -/

namespace HaxePrompt.Shell

variable {σ : Type}

/-- The contents of a file as text. -/
def textOf (contents : Except IoError Bytes) : Except IoError Text := do
  match Utf8.decodeStrict (← contents) with
  | some text => return text
  | none => throw .invalidUtf8

/-- Takes an input through a turn and shows the answer. -/
def submitShown (tools : Toolchain σ) (input : Text) : Act (Engine σ) Answer := do
  let answer ← Engine.submit tools input
  Act.emitAll answer.emissions
  return answer

/-- Evaluates inputs up to the first that fails, and gives the one that failed. -/
def submitBlocks (tools : Toolchain σ) :
    List Script.Block → Act (Engine σ) (Option Script.Block)
  | [] => return none
  | block :: rest => do
    let answer ← submitShown tools block.text
    if answer.isFailure then return some block else submitBlocks tools rest

/-- Evaluates the inputs of the file at `path`. -/
def load (tools : Toolchain σ) (path : Text) (contents : Except IoError Bytes) :
    Act (Engine σ) (Except Fault Unit) :=
  match textOf contents with
  | .error error => return .error (.cannotRead path error)
  | .ok script => do
    match ← submitBlocks tools (Script.blocks script) with
    | some block => return .error (.stoppedLoading path block.line)
    | none => return .ok ()

end HaxePrompt.Shell

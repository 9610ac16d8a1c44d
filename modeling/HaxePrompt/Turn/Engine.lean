import HaxePrompt.Assembly.Delta
import HaxePrompt.Assembly.Program
import HaxePrompt.History
import HaxePrompt.Turn.Answer
import HaxePrompt.Turn.Toolchain

/-! # The engine

The engine holds a session and takes it through its turns.  An entry is staged in the history,
the program of the whole session is assembled and compiled, the newest code is cut out and run,
and the entry is committed; if anything fails on the way it is rolled back.  `Engine.submit`
takes an input through one turn and `Engine.clear` forgets the session.

Each change of phase goes through `enter`, and each rollback through `rollback`; both leave the
condition they rely on as a `Check`. -/

namespace HaxePrompt

/-- A session with the state of its toolchain. -/
structure Engine (σ : Type) where
  history : History := {}
  phase : Phase := .idle
  showWarnings : Bool := true
  tools : σ

namespace Engine

variable {σ α : Type}

def onTools (act : Act σ α) : Act (Engine σ) α :=
  Act.on Engine.tools (fun tools engine => { engine with tools }) act

def enter (next : Phase) : Act (Engine σ) Unit := do
  let current := (← Act.get).phase
  Act.emit (.check (.move current next))
  Act.note (.moved current next)
  Act.modify fun engine => { engine with phase := next }

def stage (entry : Entry) : Act (Engine σ) Unit :=
  Act.modify fun engine => { engine with history := engine.history.stage entry }

/-- Takes a staged entry away again. -/
def rollback (entry : Entry) : Act (Engine σ) Unit := do
  let history := (← Act.get).history
  Act.emit (.check (.rollback (history.newest? entry) entry.source))
  Act.modify fun engine => { engine with history := engine.history.rollback entry }

/-- Keeps a staged entry, unless it is transient. -/
def commit (entry : Entry) : Act (Engine σ) Unit :=
  if entry.transient then rollback entry else pure ()

/-- Ends a turn that failed in the given phase. -/
def fail (entry : Entry) (failed : Phase) (diagnostics : List Diagnostic) (fault : Fault) :
    Act (Engine σ) Answer := do
  enter failed
  rollback entry
  enter .idle
  return { diagnostics, outcome := .failed fault }

/-- Ends a turn that gave a value. -/
def succeed (entry : Entry) (diagnostics : List Diagnostic) (value : Option Text) :
    Act (Engine σ) Answer := do
  enter .evalSucceeded
  commit entry
  enter .idle
  return { diagnostics, outcome := .value value }

/-- The second half of a turn: cuts the newest code out of the compiled program and runs it. -/
def evaluate (tools : Toolchain σ) (entry : Entry) (part : Part) (compiled : Compiled) :
    Act (Engine σ) Answer := do
  enter .compileSucceeded
  let diagnostics := Diagnostic.visible (← Act.get).showWarnings compiled.diagnostics
  enter .evaluating
  match Delta.extract part compiled.output with
  | .error fault => fail entry .evalFailed diagnostics fault
  | .ok code =>
    match ← onTools (tools.evaluate code) with
    | .error fault => fail entry .evalFailed diagnostics fault
    | .ok value => succeed entry diagnostics value

/-- Takes an entry of the given part through a turn. -/
def perform (tools : Toolchain σ) (entry : Entry) (part : Part) : Act (Engine σ) Answer := do
  enter .assembling
  stage entry
  let history := (← Act.get).history
  enter .compiling
  match ← onTools (tools.compile (Program.assemble history.imports history.statements entry)) with
  | .error refusal =>
    let diagnostics := Diagnostic.visible (← Act.get).showWarnings refusal
    fail entry .compileFailed diagnostics .compilationFailed
  | .ok compiled => evaluate tools entry part compiled

/-- Takes an input through a turn. -/
def submit (tools : Toolchain σ) (input : Text) : Act (Engine σ) Answer := do
  let entry := Entry.read input
  Act.note (.classified entry.raw entry.kind)
  match entry.part? with
  | some part => perform tools entry part
  | none =>
    if entry.kind = .listing then
      return { outcome := .listing (← Act.get).history.listing }
    else
      return { outcome := .skipped }

/-- Forgets the session, and with it all that its code has defined. -/
def clear (tools : Toolchain σ) : Act (Engine σ) Unit := do
  Act.note .cleared
  Act.modify fun engine => { engine with history := {} }
  onTools tools.reset

end Engine

end HaxePrompt

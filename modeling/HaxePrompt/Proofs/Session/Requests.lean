import HaxePrompt.Proofs.Turn.Course

/-! # Runs of a session

A session is a sequence of requests to an engine: inputs to be taken through a turn, and demands
to forget everything.  `Engine.serveAll` serves them one after the other and tells what became of
each; a session begins with `Engine.fresh`. -/

namespace HaxePrompt

/-- What an engine can be asked for. -/
inductive Request where
  | submit (input : Text)
  | clear
deriving DecidableEq, Repr

/-- What became of a request. -/
inductive Event where
  | answered (input : Text) (answer : Answer)
  | cleared

namespace Event

def request : Event → Request
  | .answered input _ => .submit input
  | .cleared => .clear

def isAnswer : Event → Bool
  | .answered .. => true
  | .cleared => false

end Event

namespace Engine

variable {σ : Type}

def serve (tools : Toolchain σ) : Request → Act (Engine σ) Event
  | .submit input => do
    let answer ← submit tools input
    return .answered input answer
  | .clear => do
    clear tools
    return .cleared

def serveAll (tools : Toolchain σ) : List Request → Act (Engine σ) (List Event)
  | [] => return []
  | request :: rest => do
    let event ← serve tools request
    let events ← serveAll tools rest
    return event :: events

theorem value_serveAll_cons (tools : Toolchain σ) (request : Request) (rest : List Request)
    (engine : Engine σ) :
    ((serveAll tools (request :: rest)).run engine).value =
      ((serve tools request).run engine).value ::
        ((serveAll tools rest).run ((serve tools request).run engine).state).value := rfl

theorem state_serveAll_cons (tools : Toolchain σ) (request : Request) (rest : List Request)
    (engine : Engine σ) :
    ((serveAll tools (request :: rest)).run engine).state =
      ((serveAll tools rest).run ((serve tools request).run engine).state).state := rfl

theorem value_serve_submit (tools : Toolchain σ) (input : Text) (engine : Engine σ) :
    ((serve tools (.submit input)).run engine).value =
      .answered input ((submit tools input).run engine).value := rfl

theorem request_serve (tools : Toolchain σ) (request : Request) (engine : Engine σ) :
    ((serve tools request).run engine).value.request = request := by
  cases request <;> rfl

theorem requests_serveAll (tools : Toolchain σ) (requests : List Request) (engine : Engine σ) :
    ((serveAll tools requests).run engine).value.map Event.request = requests := by
  induction requests generalizing engine with
  | nil => rfl
  | cons request rest ih =>
      rw [value_serveAll_cons, List.map_cons, request_serve, ih]

end Engine

end HaxePrompt

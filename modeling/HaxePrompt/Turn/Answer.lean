import HaxePrompt.Console.Emission
import HaxePrompt.Message.Diagnostic

/-! # Answers

The answer to an entry holds what the compiler had to say and the outcome of the turn.
`Answer.emissions` is what the prompt shows of it: the diagnostics, then the listing, the value
or the fault.  A refusal by the compiler that the diagnostics explain is not shown again. -/

namespace HaxePrompt

/-- The outcome of a turn. -/
inductive Outcome where
  | skipped
  | listing (text : Text)
  /-- The entry was accepted; an entry without a value gives `none`. -/
  | value (value : Option Text)
  | failed (fault : Fault)

/-- The answer to an entry. -/
structure Answer where
  diagnostics : List Diagnostic := []
  outcome : Outcome

namespace Answer

def isFailure (answer : Answer) : Bool :=
  match answer.outcome with
  | .failed _ => true
  | _ => false

/-- What is shown of an outcome after the diagnostics. -/
def outcomeEmissions (diagnostics : List Diagnostic) : Outcome → List Emission
  | .skipped => []
  | .listing text => [.say text]
  | .value none => []
  | .value (some text) => [.say text]
  | .failed fault =>
    if fault.kind = .compile ∧ diagnostics ≠ [] then [] else Emission.fault fault

def emissions (answer : Answer) : List Emission :=
  answer.diagnostics.map (fun diagnostic => Emission.line .error diagnostic.report) ++
    outcomeEmissions answer.diagnostics answer.outcome

end Answer

end HaxePrompt

import HaxePrompt.Proofs.Machine.Dealings
import HaxePrompt.Proofs.Tool.Asking

/-! # What a sandbox has to do with its processes

A sandbox is called to evaluate code or to forget what was defined (`Sandbox.Demand`).  On a machine
that keeps a record of the dealings with processes, each call is a `Visit`: what the record tells of
it is which process the code was sent to (`Visit.process?`), the report that came of it
(`Visit.report?`), and whether a new process was asked for (`Visit.Tries`).  None of this is taken
from the runner that the sandbox holds.

The record changes no call (`mirrors_call`), so the calls and their results are those of the machine
without it (`visits_results`). -/

namespace HaxePrompt

variable {π : Type}

/-! ### The reports of a process -/

namespace Dealing

/-- The bytes of an unfinished line and the reports of a process, with what one more answer
brings. -/
def takeIn (taken : Bytes × List Report) : Except IoError Reaction → Bytes × List Report
  | .error _ => taken
  | .ok reaction =>
    let (lines, unfinished) := Sandbox.receive taken.1 reaction
    (unfinished, taken.2 ++ Report.reportsIn lines)

/-- What the answers of a process bring in all. -/
def received (answers : List (Except IoError Reaction)) : Bytes × List Report :=
  answers.foldl takeIn ([], [])

/-- The report that the latest request to a process obtained: the request was taken, and there have
been as many reports as requests. -/
def report? (process : Nat) (record : List Dealing) : Option Report :=
  match (answers process record).getLast? with
  | some (.ok _) =>
    (received (answers process record)).2[(answers process record).length - 1]?
  | _ => none

theorem answers_handed (process : Nat) (line : Bytes) (answer : Except IoError Reaction)
    (record : List Dealing) :
    answers process (.handed process line answer :: record) =
      answers process record ++ [answer] := by
  simp [answers]

theorem received_concat (answers : List (Except IoError Reaction))
    (answer : Except IoError Reaction) :
    received (answers ++ [answer]) = takeIn (received answers) answer := by
  simp [received]

end Dealing

/-! ### Calls -/

namespace Sandbox

/-- What a sandbox is called for. -/
inductive Demand where
  | evaluate (code : Text)
  | reset
deriving DecidableEq, Repr

variable [Programs π]

/-- Meets a demand, and gives the sandbox after it and the result of an evaluation. -/
def call (sandbox : Sandbox) :
    Demand → Act (Machine π) (Sandbox × Option (Except Fault (Option Text)))
  | .evaluate code => do
    let (sandbox, result) ← sandbox.evaluate code
    return (sandbox, some result)
  | .reset => return (← sandbox.reset, none)

/-- Meets one demand after the other, and gives the results of the evaluations. -/
def callAll (sandbox : Sandbox) :
    List Demand → Act (Machine π) (Sandbox × List (Option (Except Fault (Option Text))))
  | [] => return (sandbox, [])
  | demand :: demands => do
    let (sandbox, result?) ← sandbox.call demand
    let (sandbox, results) ← sandbox.callAll demands
    return (sandbox, result? :: results)

/-! ### The record changes no call -/

omit [Programs π] in
theorem mirrors_attend (runner : Runner) (reaction : Reaction) :
    (attend runner reaction : Act (Machine (Recorded π)) Runner).Mirrors
      (attend runner reaction) :=
  ⟨fun _ => rfl, fun _ => rfl, fun _ => rfl⟩

theorem mirrors_drop (sandbox : Sandbox) :
    (sandbox.drop : Act (Machine (Recorded π)) Sandbox).Mirrors sandbox.drop := by
  unfold drop
  cases sandbox.runner with
  | none => exact Act.mirrors_pure _
  | some runner => exact (Machine.mirrors_stop runner.process).bind fun _ => Act.mirrors_pure _

theorem mirrors_take (sandbox : Sandbox) :
    (sandbox.take : Act (Machine (Recorded π)) (Except Fault Runner)).Mirrors sandbox.take := by
  unfold take
  cases sandbox.runner with
  | some runner => exact Act.mirrors_pure _
  | none =>
      refine (Machine.mirrors_start _).bind fun started => ?_
      cases started with
      | error error => exact Act.mirrors_pure _
      | ok process => exact (Act.mirrors_note _).bind fun _ => Act.mirrors_pure _

theorem mirrors_ask (sandbox : Sandbox) (runner : Runner) (code : Text) :
    (sandbox.ask runner code : Act (Machine (Recorded π)) _).Mirrors (sandbox.ask runner code) := by
  unfold ask
  refine (Act.mirrors_note _).bind fun _ => (Machine.mirrors_deliver _ _).bind fun answer => ?_
  cases answer with
  | error error => exact (mirrors_drop _).bind fun _ => Act.mirrors_pure _
  | ok reaction =>
      refine (mirrors_attend runner reaction).bind fun runner => ?_
      split
      · exact Act.mirrors_pure _
      · exact (Act.mirrors_note _).bind fun _ => (mirrors_drop _).bind fun _ => Act.mirrors_pure _
      · exact (mirrors_drop _).bind fun _ => Act.mirrors_pure _

theorem mirrors_call (sandbox : Sandbox) (demand : Demand) :
    (sandbox.call demand : Act (Machine (Recorded π)) _).Mirrors (sandbox.call demand) := by
  cases demand with
  | reset =>
      exact ((Act.mirrors_note _).bind fun _ => mirrors_drop sandbox).bind fun _ =>
        Act.mirrors_pure _
  | evaluate code =>
      refine Act.Mirrors.bind ((mirrors_take sandbox).bind fun taken => ?_) fun _ =>
        Act.mirrors_pure _
      cases taken with
      | error fault => exact Act.mirrors_pure _
      | ok runner => exact mirrors_ask sandbox runner code

end Sandbox

/-! ### Visits -/

/-- A call of a sandbox, with the record before it and after it. -/
structure Visit where
  demand : Sandbox.Demand
  result? : Option (Except Fault (Option Text))
  before : List Dealing
  after : List Dealing

namespace Visit

/-- The dealings in the course of the call, newest first. -/
def dealings (visit : Visit) : List Dealing :=
  visit.after.take (visit.after.length - visit.before.length)

/-- Is the call one for an evaluation? -/
def Evaluates (visit : Visit) : Prop := ∃ code, visit.demand = .evaluate code

/-- The number of the process that the code to evaluate was sent to. -/
def number? (visit : Visit) : Option Nat :=
  match visit.demand with
  | .evaluate code => visit.dealings.findSome? (Dealing.handedTo? (Utf8.encode (request code)))
  | .reset => none

/-- The process that the code to evaluate was sent to, given by the place of its start in the
record. -/
def process? (visit : Visit) : Option Nat :=
  visit.number?.bind fun number => Dealing.origin? number visit.after

/-- The report that the evaluation obtained. -/
def report? (visit : Visit) : Option Report :=
  visit.number?.bind fun number => Dealing.report? number visit.after

/-- The call asked for a new process: one was started, or the program could not be run. -/
def Tries (program : Text) (visit : Visit) : Prop :=
  visit.dealings.any Dealing.isStart ∨
    visit.dealings = [] ∧ ∃ error,
      visit.result? = some (.error (.of .eval (Fault.cannotRun program error)))

/-- The process that the call leaves behind: the one that was asked, if it sent a report. -/
def left? (visit : Visit) : Option Nat := visit.report?.bind fun _ => visit.process?

/-- How an evaluation goes on from the process that is held. -/
structure Follows (program : Text) (held? : Option Nat) (visit : Visit) : Prop where
  /-- A process that is held is asked, and no other is started. -/
  kept : ∀ origin, held? = some origin → visit.process? = some origin ∧ ¬ visit.Tries program
  /-- Without one a new process is asked for, and the process asked is none of before. -/
  fresh : held? = none →
    visit.Tries program ∧ ∀ origin, visit.process? = some origin → visit.before.length ≤ origin
  asked : ∀ report, visit.report? = some report →
    visit.process?.isSome ∧ visit.result? = some report.result
  failed : visit.report? = none → ∃ fault, visit.result? = some (.error fault) ∧ fault.kind = .eval

variable {visit : Visit} {own : List Dealing}

theorem dealings_eq (h : visit.after = own ++ visit.before) : visit.dealings = own := by
  unfold dealings
  rw [h, List.length_append, Nat.add_sub_cancel, List.take_left]

theorem not_evaluates_iff : ¬ visit.Evaluates ↔ visit.demand = .reset := by
  unfold Evaluates
  cases visit.demand <;> simp

theorem process?_of_reset (h : visit.demand = .reset) : visit.process? = none := by
  unfold process? number?
  rw [h]
  rfl

theorem left?_of_reset (h : visit.demand = .reset) : visit.left? = none := by
  unfold left?
  rw [process?_of_reset h]
  cases visit.report? <;> rfl

theorem process?_lt {origin : Nat} (h : visit.process? = some origin) :
    origin < visit.after.length := by
  obtain ⟨number, -, horigin⟩ := Option.bind_eq_some_iff.mp h
  exact Dealing.origin?_lt horigin

end Visit

namespace Sandbox

def visit [Programs π] (sandbox : Sandbox) (machine : Machine (Recorded π)) (demand : Demand) :
    Visit where
  demand := demand
  result? := ((sandbox.call demand).run machine).value.2
  before := machine.record
  after := ((sandbox.call demand).run machine).state.record

def visits [Programs π] (sandbox : Sandbox) (machine : Machine (Recorded π)) :
    List Demand → List Visit
  | [] => []
  | demand :: demands =>
    let called := (sandbox.call demand).run machine
    sandbox.visit machine demand :: visits called.value.1 called.state demands

/-- What the visits tell are the demands, and the results on the machine without the record. -/
theorem visits_results [Programs π] (demands : List Demand) :
    ∀ (sandbox : Sandbox) (machine : Machine (Recorded π)),
      (sandbox.visits machine demands).map (·.demand) = demands ∧
        (sandbox.visits machine demands).map (·.result?) =
          ((sandbox.callAll demands).run machine.forget).value.2 := by
  induction demands with
  | nil => exact fun _ _ => ⟨rfl, rfl⟩
  | cons demand demands ih =>
      intro sandbox machine
      obtain ⟨hdemands, hresults⟩ := ih ((sandbox.call demand).run machine).value.1
        ((sandbox.call demand).run machine).state
      have hcall : (sandbox.call demand : Act (Machine (Recorded π)) _).Mirrors
        (sandbox.call demand) := mirrors_call sandbox demand
      constructor
      · rw [visits, List.map_cons, hdemands]
        rfl
      · rw [visits, List.map_cons, hresults, hcall.state, visit, hcall.value]
        rfl

end Sandbox

end HaxePrompt

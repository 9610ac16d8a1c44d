import HaxePrompt.Proofs.Session.Requests
import HaxePrompt.Proofs.Turn.Record

/-! # Hidden warnings

Whether the warnings of the compiler are shown is looked at only where the diagnostics of an answer
are put together.  Two engines that differ in nothing else take every turn along the same course
(`TurnsTo.hideWarnings`): they make the same calls, get the same outcome and leave engines that
again differ in nothing else, and the answer of the one that hides warnings is that of the other
without them.

So a session with the warnings hidden is the session with them shown, less the warnings
(`serveAll_hideWarnings`). -/

namespace HaxePrompt

/-- The answer without the warnings in it. -/
def Answer.withoutWarnings (answer : Answer) : Answer :=
  { answer with diagnostics := answer.diagnostics.filter fun diagnostic => !diagnostic.isWarning }

def Event.withoutWarnings : Event → Event
  | .answered input answer => .answered input answer.withoutWarnings
  | .cleared => .cleared

theorem Diagnostic.visible_false (warnings : Bool) (diagnostics : List Diagnostic) :
    visible false diagnostics =
      (visible warnings diagnostics).filter fun diagnostic => !diagnostic.isWarning := by
  unfold visible
  rw [List.filter_filter]
  apply List.filter_congr
  intro diagnostic _
  cases warnings <;> cases diagnostic.isWarning <;> rfl

namespace Engine

variable {σ : Type} {tools : Toolchain σ} {entry : Entry} {before after : Engine σ}
  {calls : List Call} {answer : Answer}

def hideWarnings (engine : Engine σ) : Engine σ := { engine with showWarnings := false }

theorem withoutWarnings_shown (engine : Engine σ) (diagnostics : List Diagnostic)
    (outcome : Outcome) :
    Answer.withoutWarnings { diagnostics := engine.shown diagnostics, outcome } =
      { diagnostics := engine.hideWarnings.shown diagnostics, outcome } := by
  have hshown : engine.hideWarnings.shown diagnostics =
      (engine.shown diagnostics).filter fun diagnostic => !diagnostic.isWarning :=
    Diagnostic.visible_false engine.showWarnings diagnostics
  rw [hshown]
  rfl

/-- A turn takes the same course with the warnings hidden. -/
theorem TurnsTo.hideWarnings (h : TurnsTo tools entry before calls answer after) :
    TurnsTo tools entry before.hideWarnings calls answer.withoutWarnings after.hideWarnings := by
  cases h with
  | skip hp hk => exact .skip hp hk
  | list hp hk => exact .list hp hk
  | refuse hp hc =>
      rw [withoutWarnings_shown]
      exact .refuse hp hc
  | lose hp hc hx =>
      rw [withoutWarnings_shown]
      exact .lose hp hc hx
  | fail hp hc hx he =>
      rw [withoutWarnings_shown]
      exact .fail hp hc hx he
  | succeed hp hc hx he =>
      rw [withoutWarnings_shown]
      exact .succeed hp hc hx he

theorem serve_hideWarnings (tools : Toolchain σ) (request : Request) (engine : Engine σ) :
    ((serve tools request).run engine.hideWarnings).value =
        ((serve tools request).run engine).value.withoutWarnings ∧
      ((serve tools request).run engine.hideWarnings).state =
        ((serve tools request).run engine).state.hideWarnings := by
  cases request with
  | submit input =>
      obtain ⟨calls, hturn⟩ := turnsTo_submit tools input engine
      obtain ⟨hvalue, hstate⟩ := hturn.hideWarnings.run_submit
      refine ⟨?_, hstate⟩
      rw [value_serve_submit, value_serve_submit, hvalue]
      rfl
  | clear => exact ⟨rfl, rfl⟩

/-- Requests served one after the other with the warnings hidden. -/
theorem serveAll_hideWarnings (tools : Toolchain σ) (requests : List Request)
    (engine : Engine σ) :
    ((serveAll tools requests).run engine.hideWarnings).value =
        ((serveAll tools requests).run engine).value.map Event.withoutWarnings ∧
      ((serveAll tools requests).run engine.hideWarnings).state =
        ((serveAll tools requests).run engine).state.hideWarnings := by
  induction requests generalizing engine with
  | nil => exact ⟨rfl, rfl⟩
  | cons request rest ih =>
      obtain ⟨hvalue, hstate⟩ := serve_hideWarnings tools request engine
      obtain ⟨ihvalue, ihstate⟩ := ih ((serve tools request).run engine).state
      rw [value_serveAll_cons, value_serveAll_cons, state_serveAll_cons, state_serveAll_cons,
        hvalue, hstate, ihvalue, ihstate, List.map_cons]
      exact ⟨rfl, rfl⟩

/-- **Hiding the warnings changes only what is shown.**  Any requests are served twice with the
same toolchain, which writes down the calls to it: once with the warnings shown, and once with them
hidden.  Each request comes to the same, but for the warnings among the diagnostics of its answer;
and after it the session is the same, and so are the phase, the state of the toolchain, and the
record of the calls. -/
theorem session_without_warnings (tools : Toolchain σ) (s : σ) (requests : List Request) :
    let shown := (serveAll tools.recorded requests).run (fresh true (s, []))
    let hidden := (serveAll tools.recorded requests).run (fresh false (s, []))
    hidden.value = shown.value.map Event.withoutWarnings ∧
      hidden.state.history = shown.state.history ∧ hidden.state.phase = shown.state.phase ∧
      hidden.state.tools = shown.state.tools := by
  intro shown hidden
  obtain ⟨hvalue, hstate⟩ := serveAll_hideWarnings tools.recorded requests (fresh true (s, []))
  have hhidden : hidden.state = shown.state.hideWarnings := hstate
  refine ⟨hvalue, ?_, ?_, ?_⟩ <;> rw [hhidden] <;> rfl

/-- The compiler refuses an entry with a warning and an error. -/
example :
    let tools := Toolchain.ofFunctions
      (fun _ => .error [.warning 9 "unused", .error 9 "bad"]) fun _ => .ok none
    let answers (showWarnings : Bool) : List Event :=
      ((serveAll tools.recorded [.submit "a"]).run (fresh showWarnings ((), []))).value
    answers true = [.answered "a"
        ⟨[.warning 9 "unused", .error 9 "bad"], .failed .compilationFailed⟩] ∧
      answers false = [.answered "a" ⟨[.error 9 "bad"], .failed .compilationFailed⟩] :=
  ⟨rfl, rfl⟩

end Engine

end HaxePrompt

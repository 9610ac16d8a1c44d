import HaxePrompt.Proofs.Turn.Course

/-! # Records of turns

`Toolchain.recorded` is a toolchain that works as the given one and writes down each call to it.
With it a turn can be watched: `Engine.observe` takes an input through a turn and gives the
record of it, the calls to the toolchain and the answer.  Watching changes nothing
(`state_observe`, `answer_observe`), and what is written down is the calls of the course that the
turn takes (`turnsTo_observe`). -/

namespace HaxePrompt

variable {σ α : Type}

/-- Writes down a call, and lets the action work on the state beside the record. -/
def Act.recording (call : Call) (act : Act σ α) : Act (σ × List Call) α := do
  Act.modify fun s => (s.1, s.2 ++ [call])
  Act.on Prod.fst (fun inner s => (inner, s.2)) act

/-- The toolchain with a record of the calls to it, oldest first. -/
def Toolchain.recorded (tools : Toolchain σ) : Toolchain (σ × List Call) where
  compile source := Act.recording (.compile source) (tools.compile source)
  evaluate code := Act.recording (.evaluate code) (tools.evaluate code)
  reset := Act.recording .reset tools.reset

/-- The record of a turn. -/
structure Turn where
  input : Text
  calls : List Call
  answer : Answer

namespace Engine

def withRecord (engine : Engine σ) (calls : List Call) : Engine (σ × List Call) :=
  { history := engine.history, phase := engine.phase, showWarnings := engine.showWarnings,
    tools := (engine.tools, calls) }

def dropRecord (engine : Engine (σ × List Call)) : Engine σ :=
  { history := engine.history, phase := engine.phase, showWarnings := engine.showWarnings,
    tools := engine.tools.1 }

/-- Takes an input through a turn and gives the record of it. -/
def observe (tools : Toolchain σ) (input : Text) : Act (Engine σ) Turn := fun engine =>
  let step := (submit tools.recorded input).run (engine.withRecord [])
  ⟨{ input, calls := step.state.tools.2, answer := step.value }, step.state.dropRecord,
    step.emitted⟩

/-- Takes inputs through turns, one after the other. -/
def observeAll (tools : Toolchain σ) : List Text → Act (Engine σ) (List Turn)
  | [] => return []
  | input :: rest => do
    let turn ← observe tools input
    let turns ← observeAll tools rest
    return turn :: turns

variable {tools : Toolchain σ} {entry : Entry} {before after : Engine σ} {calls : List Call}
  {answer : Answer}

/-- A recorded turn takes the same course and writes its calls down. -/
theorem TurnsTo.recorded (h : TurnsTo tools entry before calls answer after)
    (earlier : List Call) :
    TurnsTo tools.recorded entry (before.withRecord earlier) calls answer
      (after.withRecord (earlier ++ calls)) := by
  have htwo : ∀ one two : Call, earlier ++ [one, two] = earlier ++ [one] ++ [two] := by
    intro one two
    rw [List.append_assoc, List.singleton_append]
  cases h with
  | skip hp hk =>
      rw [List.append_nil]
      exact .skip hp hk
  | list hp hk =>
      rw [List.append_nil]
      exact .list hp hk
  | refuse hp hc => exact .refuse hp hc
  | lose hp hc hx => exact .lose hp hc hx
  | fail hp hc hx he =>
      rw [htwo]
      exact .fail hp hc hx he
  | succeed hp hc hx he =>
      rw [htwo]
      exact .succeed hp hc hx he

/-- Watching a turn shows the course that it takes. -/
theorem TurnsTo.run_observe {input : Text}
    (h : TurnsTo tools (Entry.read input) before calls answer after) :
    ((observe tools input).run before).value = { input, calls, answer } ∧
      ((observe tools input).run before).state = after := by
  obtain ⟨hvalue, hstate⟩ := (h.recorded []).run_submit
  unfold observe Act.run at *
  simp only [hvalue, hstate]
  exact ⟨rfl, rfl⟩

theorem turnsTo_observe (tools : Toolchain σ) (input : Text) (before : Engine σ) :
    TurnsTo tools (Entry.read input) before ((observe tools input).run before).value.calls
      ((observe tools input).run before).value.answer
      ((observe tools input).run before).state := by
  obtain ⟨calls, answer, after, h⟩ := exists_turnsTo tools (Entry.read input) before
  obtain ⟨hvalue, hstate⟩ := h.run_observe
  rw [hvalue, hstate]
  exact h

theorem input_observe (tools : Toolchain σ) (input : Text) (before : Engine σ) :
    ((observe tools input).run before).value.input = input := rfl

theorem answer_observe (tools : Toolchain σ) (input : Text) (before : Engine σ) :
    ((observe tools input).run before).value.answer = ((submit tools input).run before).value :=
  ((turnsTo_observe tools input before).run_submit).1.symm

theorem state_observe (tools : Toolchain σ) (input : Text) (before : Engine σ) :
    ((observe tools input).run before).state = ((submit tools input).run before).state :=
  ((turnsTo_observe tools input before).run_submit).2.symm

theorem value_observeAll_cons (tools : Toolchain σ) (input : Text) (rest : List Text)
    (engine : Engine σ) :
    ((observeAll tools (input :: rest)).run engine).value =
      ((observe tools input).run engine).value ::
        ((observeAll tools rest).run ((observe tools input).run engine).state).value := rfl

theorem state_observeAll_cons (tools : Toolchain σ) (input : Text) (rest : List Text)
    (engine : Engine σ) :
    ((observeAll tools (input :: rest)).run engine).state =
      ((observeAll tools rest).run ((observe tools input).run engine).state).state := rfl

theorem inputs_observeAll (tools : Toolchain σ) (inputs : List Text) (engine : Engine σ) :
    ((observeAll tools inputs).run engine).value.map Turn.input = inputs := by
  induction inputs generalizing engine with
  | nil => rfl
  | cons input rest ih => rw [value_observeAll_cons, List.map_cons, input_observe, ih]

end Engine

end HaxePrompt

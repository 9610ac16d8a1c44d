import HaxePrompt.Proofs.Session.History
import HaxePrompt.Turn.Engine

/-! # The course of a turn

`TurnsTo tools entry before calls answer after` says what a turn can do, one constructor for each
way it can end: nothing was entered, the listing was asked for, the compiler refused the program,
the newest code was not found in its output, the newest code failed, or it gave its result.  The
calls to the toolchain and the state after the turn are given in full, so that an invariant of a
session is a case split on this relation.

`Engine.submit` takes one of these courses (`turnsTo_submit`), and a course that can be taken is
the one it takes (`TurnsTo.run_submit`).  The history grows by an entry that gave its result, as
`History.keep` says, and is otherwise what it was before (`TurnsTo.history`). -/

namespace HaxePrompt

namespace Toolchain

variable {σ : Type}

/-- The compiler answers as a function of the program does, whatever happened before. -/
def CompilesAs (tools : Toolchain σ) (compile : Text → Except (List Diagnostic) Compiled) :
    Prop :=
  ∀ source s, ((tools.compile source).run s).value = compile source

/-- The evaluator answers as a function of the code does, whatever happened before. -/
def EvaluatesAs (tools : Toolchain σ) (evaluate : Text → Except Fault (Option Text)) : Prop :=
  ∀ code s, ((tools.evaluate code).run s).value = evaluate code

/-- The toolchain that answers as two functions do and has no state. -/
def ofFunctions (compile : Text → Except (List Diagnostic) Compiled)
    (evaluate : Text → Except Fault (Option Text)) : Toolchain Unit where
  compile source := return compile source
  evaluate code := return evaluate code
  reset := return ()

theorem compilesAs_ofFunctions (compile : Text → Except (List Diagnostic) Compiled)
    (evaluate : Text → Except Fault (Option Text)) :
    (ofFunctions compile evaluate).CompilesAs compile := fun _ _ => rfl

theorem evaluatesAs_ofFunctions (compile : Text → Except (List Diagnostic) Compiled)
    (evaluate : Text → Except Fault (Option Text)) :
    (ofFunctions compile evaluate).EvaluatesAs evaluate := fun _ _ => rfl

end Toolchain

/-- A call to a toolchain. -/
inductive Call where
  | compile (source : Text)
  | evaluate (code : Text)
  | reset
deriving DecidableEq, Repr

/-- Did the entry give its result? -/
def Answer.isValue (answer : Answer) : Bool :=
  match answer.outcome with
  | .value _ => true
  | _ => false

theorem Answer.isFailure_of_isValue {answer : Answer} (h : answer.isValue = true) :
    answer.isFailure = false := by
  unfold isValue at h
  unfold isFailure
  split at h
  · rename_i heq
    rw [heq]
  · cases h

namespace Engine

variable {σ : Type} {tools : Toolchain σ} {entry : Entry} {before : Engine σ}

/-- The engine of a session that begins. -/
def fresh (showWarnings : Bool) (tools : σ) : Engine σ := { showWarnings, tools }

/-- The program of a turn: that of the session with the entry staged. -/
def program (engine : Engine σ) (entry : Entry) : Text :=
  Program.assemble (engine.history.stage entry).imports (engine.history.stage entry).statements
    entry

def compileStep (tools : Toolchain σ) (engine : Engine σ) (entry : Entry) :
    Step σ (Except (List Diagnostic) Compiled) :=
  (tools.compile (engine.program entry)).run engine.tools

/-- The diagnostics shown of those that the compiler gave. -/
def shown (engine : Engine σ) (diagnostics : List Diagnostic) : List Diagnostic :=
  Diagnostic.visible engine.showWarnings diagnostics

/-- The engine after a turn with a part, between two turns again. -/
def settled (engine : Engine σ) (history : History) (tools : σ) : Engine σ :=
  { engine with history, phase := .idle, tools }

@[simp] theorem settled_history (engine : Engine σ) (history : History) (s : σ) :
    (engine.settled history s).history = history := rfl

@[simp] theorem settled_tools (engine : Engine σ) (history : History) (s : σ) :
    (engine.settled history s).tools = s := rfl

@[simp] theorem settled_showWarnings (engine : Engine σ) (history : History) (s : σ) :
    (engine.settled history s).showWarnings = engine.showWarnings := rfl

/-- What a turn can do: the calls to the toolchain, the answer to the entry, and the engine after
it. -/
inductive TurnsTo (tools : Toolchain σ) (entry : Entry) (before : Engine σ) :
    List Call → Answer → Engine σ → Prop
  | skip (hp : entry.part? = none) (hk : entry.kind ≠ .listing) :
      TurnsTo tools entry before [] { outcome := .skipped } before
  | list (hp : entry.part? = none) (hk : entry.kind = .listing) :
      TurnsTo tools entry before [] { outcome := .listing before.history.listing } before
  | refuse {part : Part} {refusal : List Diagnostic} (hp : entry.part? = some part)
      (hc : (compileStep tools before entry).value = .error refusal) :
      TurnsTo tools entry before [.compile (before.program entry)]
        { diagnostics := before.shown refusal, outcome := .failed .compilationFailed }
        (before.settled before.history (compileStep tools before entry).state)
  /-- The newest code was not found in the output. -/
  | lose {part : Part} {compiled : Compiled} {fault : Fault} (hp : entry.part? = some part)
      (hc : (compileStep tools before entry).value = .ok compiled)
      (hx : Delta.extract part compiled.output = .error fault) :
      TurnsTo tools entry before [.compile (before.program entry)]
        { diagnostics := before.shown compiled.diagnostics, outcome := .failed fault }
        (before.settled before.history (compileStep tools before entry).state)
  | fail {part : Part} {compiled : Compiled} {code : Text} {fault : Fault}
      (hp : entry.part? = some part)
      (hc : (compileStep tools before entry).value = .ok compiled)
      (hx : Delta.extract part compiled.output = .ok code)
      (he : ((tools.evaluate code).run (compileStep tools before entry).state).value =
        .error fault) :
      TurnsTo tools entry before [.compile (before.program entry), .evaluate code]
        { diagnostics := before.shown compiled.diagnostics, outcome := .failed fault }
        (before.settled before.history
          ((tools.evaluate code).run (compileStep tools before entry).state).state)
  | succeed {part : Part} {compiled : Compiled} {code : Text} {value : Option Text}
      (hp : entry.part? = some part)
      (hc : (compileStep tools before entry).value = .ok compiled)
      (hx : Delta.extract part compiled.output = .ok code)
      (he : ((tools.evaluate code).run (compileStep tools before entry).state).value =
        .ok value) :
      TurnsTo tools entry before [.compile (before.program entry), .evaluate code]
        { diagnostics := before.shown compiled.diagnostics, outcome := .value value }
        (before.settled (before.history.keep entry)
          ((tools.evaluate code).run (compileStep tools before entry).state).state)

/-! ### The engine takes these steps -/

theorem exists_turnsTo (tools : Toolchain σ) (entry : Entry) (before : Engine σ) :
    ∃ calls answer after, TurnsTo tools entry before calls answer after := by
  cases hp : entry.part? with
  | none =>
      by_cases hk : entry.kind = .listing
      · exact ⟨_, _, _, .list hp hk⟩
      · exact ⟨_, _, _, .skip hp hk⟩
  | some part =>
      cases hc : (compileStep tools before entry).value with
      | error refusal => exact ⟨_, _, _, .refuse hp hc⟩
      | ok compiled =>
          cases hx : Delta.extract part compiled.output with
          | error fault => exact ⟨_, _, _, .lose hp hc hx⟩
          | ok code =>
              cases he : ((tools.evaluate code).run
                  (compileStep tools before entry).state).value with
              | error fault => exact ⟨_, _, _, .fail hp hc hx he⟩
              | ok value => exact ⟨_, _, _, .succeed hp hc hx he⟩

theorem state_enter (next : Phase) (engine : Engine σ) :
    ((enter next).run engine).state = { engine with phase := next } := rfl

theorem state_rollback (entry : Entry) (engine : Engine σ) :
    ((rollback entry).run engine).state =
      { engine with history := engine.history.rollback entry } := rfl

theorem state_commit (entry : Entry) (engine : Engine σ) :
    ((commit entry).run engine).state =
      { engine with history := engine.history.commit entry } := by
  unfold commit History.commit
  split
  · exact state_rollback entry engine
  · rfl

theorem run_onTools {α : Type} (act : Act σ α) (engine : Engine σ) :
    (onTools act).run engine =
      ⟨(act.run engine.tools).value, { engine with tools := (act.run engine.tools).state },
        (act.run engine.tools).emitted⟩ := rfl

theorem run_fail (entry : Entry) (failed : Phase) (diagnostics : List Diagnostic) (fault : Fault)
    (engine : Engine σ) :
    ((fail entry failed diagnostics fault).run engine).value =
        { diagnostics, outcome := .failed fault } ∧
      ((fail entry failed diagnostics fault).run engine).state =
        engine.settled (engine.history.rollback entry) engine.tools := by
  constructor <;> rfl

theorem run_succeed (entry : Entry) (diagnostics : List Diagnostic) (value : Option Text)
    (engine : Engine σ) :
    ((succeed entry diagnostics value).run engine).value =
        { diagnostics, outcome := .value value } ∧
      ((succeed entry diagnostics value).run engine).state =
        engine.settled (engine.history.commit entry) engine.tools := by
  simp only [succeed, Act.run_bind, Act.run_pure, state_enter, state_commit, settled, and_self]

/-- A turn that takes this course is the one that `submit` takes. -/
theorem TurnsTo.run_submit {input : Text} {calls : List Call} {answer : Answer}
    {after : Engine σ} (h : TurnsTo tools (Entry.read input) before calls answer after) :
    ((submit tools input).run before).value = answer ∧
      ((submit tools input).run before).state = after := by
  cases h with
  | skip hp hk => simp [submit, hp, hk]
  | list hp hk => simp [submit, hp, hk]
  | refuse hp hc =>
      unfold compileStep program at hc
      simp [submit, hp, perform, stage, state_enter, run_onTools, hc, run_fail, shown, settled,
        compileStep, program]
  | lose hp hc hx =>
      unfold compileStep program at hc
      simp [submit, hp, perform, stage, state_enter, run_onTools, hc, evaluate, hx, run_fail,
        shown, settled, compileStep, program]
  | fail hp hc hx he =>
      unfold compileStep program at hc he
      simp [submit, hp, perform, stage, state_enter, run_onTools, hc, evaluate, hx, he, run_fail,
        shown, settled, compileStep, program]
  | succeed hp hc hx he =>
      unfold compileStep program at hc he
      simp [submit, hp, perform, stage, state_enter, run_onTools, hc, evaluate, hx, he,
        run_succeed, History.commit_stage, shown, settled, compileStep, program]

theorem turnsTo_submit (tools : Toolchain σ) (input : Text) (before : Engine σ) :
    ∃ calls, TurnsTo tools (Entry.read input) before calls
      ((submit tools input).run before).value ((submit tools input).run before).state := by
  obtain ⟨calls, answer, after, h⟩ := exists_turnsTo tools (Entry.read input) before
  obtain ⟨hvalue, hstate⟩ := h.run_submit
  rw [hvalue, hstate]
  exact ⟨calls, h⟩

/-! ### What a turn leaves -/

/-- The history grows by an entry that gave its result and is otherwise what it was. -/
theorem TurnsTo.history {calls : List Call} {answer : Answer} {after : Engine σ}
    (h : TurnsTo tools entry before calls answer after) :
    after.history = if answer.isValue then before.history.keep entry else before.history := by
  cases h <;> rfl

theorem TurnsTo.all {calls : List Call} {answer : Answer} {after : Engine σ}
    {P : Part → Text → Prop} (h : TurnsTo tools entry before calls answer after)
    (hentry : ∀ part, entry.part? = some part → entry.transient = false → P part entry.source)
    (hbefore : before.history.All P) : after.history.All P := by
  rw [h.history]
  split
  · exact hbefore.keep hentry
  · exact hbefore

theorem TurnsTo.showWarnings {calls : List Call} {answer : Answer} {after : Engine σ}
    (h : TurnsTo tools entry before calls answer after) :
    after.showWarnings = before.showWarnings := by
  cases h <;> rfl

end Engine

end HaxePrompt

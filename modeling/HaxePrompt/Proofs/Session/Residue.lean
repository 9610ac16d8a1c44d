import HaxePrompt.Proofs.Assembly.LineCompiler
import HaxePrompt.Proofs.Turn.Record

/-! # Turns that are not kept leave nothing behind

A turn is kept (`Turn.isKept`) when an import declaration, a declaration of a variable or an
expression gave its result.  Where the compiler goes by the program alone and the evaluator by
the code alone, a session can be run again with the inputs of its kept turns only: the history is
the same at the end, and each kept turn makes the same calls and gets the same answer
(`observeAll_kept`).

The two runs are held together by `SameSession`: at every point the engines agree on the history
and on whether warnings are shown, while their tools may differ.  A turn depends on nothing else
(`TurnsTo.transfer`), and one that is not kept changes neither (`TurnsTo.sameSession`). -/

namespace HaxePrompt

variable {σ τ : Type}

/-- Is the entry of the turn in the history after it? -/
def Turn.isKept (turn : Turn) : Bool :=
  turn.answer.isValue &&
    decide ((Entry.read turn.input).kind ∈ [.importing, .binding, .expression])

namespace Engine

/-- The engines agree on all that a turn depends on apart from the tools. -/
structure SameSession (one : Engine σ) (two : Engine τ) : Prop where
  history : one.history = two.history
  showWarnings : one.showWarnings = two.showWarnings

theorem SameSession.trans {ρ : Type} {one : Engine σ} {two : Engine τ} {three : Engine ρ}
    (h : SameSession one two) (h' : SameSession two three) : SameSession one three :=
  ⟨h.history.trans h'.history, h.showWarnings.trans h'.showWarnings⟩

variable {tools : Toolchain σ} {tools' : Toolchain τ} {entry : Entry}
  {before after : Engine σ} {before' : Engine τ} {calls : List Call} {answer : Answer}
  {compile : Text → Except (List Diagnostic) Compiled}
  {evaluate : Text → Except Fault (Option Text)}

theorem SameSession.program (h : SameSession before before') (entry : Entry) :
    before'.program entry = before.program entry := by
  unfold Engine.program
  rw [h.history]

theorem SameSession.shown (h : SameSession before before') (diagnostics : List Diagnostic) :
    before'.shown diagnostics = before.shown diagnostics := by
  unfold Engine.shown
  rw [h.showWarnings]

/-- A turn takes the same course in another engine with the same session, if both compilers and
both evaluators answer as the same functions. -/
theorem TurnsTo.transfer (hcompile : tools.CompilesAs compile)
    (hcompile' : tools'.CompilesAs compile) (hevaluate : tools.EvaluatesAs evaluate)
    (hevaluate' : tools'.EvaluatesAs evaluate) (hsame : SameSession before before')
    (h : TurnsTo tools entry before calls answer after) :
    ∃ after', TurnsTo tools' entry before' calls answer after' ∧ SameSession after after' := by
  have hstep : (compileStep tools' before' entry).value =
      (compileStep tools before entry).value := by
    unfold compileStep
    rw [hcompile', hcompile, hsame.program]
  have hrun : ∀ code s s', ((tools'.evaluate code).run s').value =
      ((tools.evaluate code).run s).value := by
    intro code s s'
    rw [hevaluate', hevaluate]
  cases h with
  | skip hp hk => exact ⟨before', .skip hp hk, hsame⟩
  | list hp hk =>
      refine ⟨before', ?_, hsame⟩
      rw [hsame.history]
      exact .list hp hk
  | refuse hp hc =>
      rw [← hsame.program, ← hsame.shown]
      exact ⟨_, .refuse hp (hstep.trans hc), hsame.history, hsame.showWarnings⟩
  | lose hp hc hx =>
      rw [← hsame.program, ← hsame.shown]
      exact ⟨_, .lose hp (hstep.trans hc) hx, hsame.history, hsame.showWarnings⟩
  | fail hp hc hx he =>
      rw [← hsame.program, ← hsame.shown]
      exact ⟨_, .fail hp (hstep.trans hc) hx ((hrun _ _ _).trans he), hsame.history,
        hsame.showWarnings⟩
  | succeed hp hc hx he =>
      rw [← hsame.program, ← hsame.shown]
      refine ⟨_, .succeed hp (hstep.trans hc) hx ((hrun _ _ _).trans he), ?_,
        hsame.showWarnings⟩
      simp only [settled_history, hsame.history]

/-- A turn that is not kept changes nothing that a later turn depends on. -/
theorem TurnsTo.sameSession {input : Text}
    (h : TurnsTo tools (Entry.read input) before calls answer after)
    (hkept : Turn.isKept { input, calls, answer } = false) : SameSession after before := by
  refine ⟨?_, h.showWarnings⟩
  rw [h.history]
  cases hvalue : answer.isValue with
  | false => rfl
  | true =>
      apply History.keep_eq_self
      intro part
      cases part <;> simp_all [Turn.isKept, History.keptKinds]

/-- The inputs of the kept turns, run in an engine with the same session, take the same turns. -/
theorem SameSession.kept (hcompile : tools.CompilesAs compile)
    (hcompile' : tools'.CompilesAs compile) (hevaluate : tools.EvaluatesAs evaluate)
    (hevaluate' : tools'.EvaluatesAs evaluate) (inputs : List Text)
    (hsame : SameSession before before') :
    ((observeAll tools' ((((observeAll tools inputs).run before).value.filter Turn.isKept).map
        Turn.input)).run before').value =
          ((observeAll tools inputs).run before).value.filter Turn.isKept ∧
      SameSession ((observeAll tools inputs).run before).state
        ((observeAll tools' ((((observeAll tools inputs).run before).value.filter
          Turn.isKept).map Turn.input)).run before').state := by
  induction inputs generalizing before before' with
  | nil => exact ⟨rfl, hsame⟩
  | cons input rest ih =>
      have hturn := turnsTo_observe tools input before
      rw [value_observeAll_cons, state_observeAll_cons]
      cases hkept : ((observe tools input).run before).value.isKept with
      | false =>
          rw [List.filter_cons_of_neg (by simp [hkept])]
          exact ih ((hturn.sameSession hkept).trans hsame)
      | true =>
          obtain ⟨after', hturn', hsame'⟩ :=
            hturn.transfer hcompile hcompile' hevaluate hevaluate' hsame
          obtain ⟨hvalue, hstate⟩ := hturn'.run_observe
          rw [List.filter_cons_of_pos hkept, List.map_cons, input_observe, value_observeAll_cons,
            state_observeAll_cons, hvalue, hstate]
          obtain ⟨ihvalue, ihstate⟩ := ih hsame'
          exact ⟨by rw [ihvalue]; rfl, ihstate⟩

/-- **Turns that are not kept leave nothing behind.**  A session run again from its beginning
with the inputs of its kept turns alone takes the same turns, with the same programs compiled,
the same code run and the same answers, and ends with the same history. -/
theorem observeAll_kept (hcompile : tools.CompilesAs compile)
    (hevaluate : tools.EvaluatesAs evaluate) (showWarnings : Bool) (s s' : σ)
    (inputs : List Text) :
    let full := (observeAll tools inputs).run (fresh showWarnings s)
    let kept := full.value.filter Turn.isKept
    let short := (observeAll tools (kept.map Turn.input)).run (fresh showWarnings s')
    full.value.map Turn.input = inputs ∧ short.value = kept ∧
      short.state.history = full.state.history := by
  intro full kept short
  have hsame : SameSession (fresh showWarnings s) (fresh showWarnings s') := ⟨rfl, rfl⟩
  obtain ⟨hvalue, hstate⟩ := hsame.kept hcompile hcompile hevaluate hevaluate inputs
  exact ⟨inputs_observeAll tools inputs _, hvalue, hstate.history.symm⟩

/-- A compiler that refuses what is bad and whose output has no markers for what is lost. -/
def picky (source : Text) : Except (List Diagnostic) Compiled :=
  if Text.occursIn "bad" source then .error [.other "bad"]
  else if Text.occursIn "lost" source then .ok { output := [] }
  else LineCompiler.compile "Repl;\n" "ready;\n" source

/-- An evaluator that fails where something is thrown. -/
def brittle (code : Text) : Except Fault (Option Text) :=
  if Text.occursIn "throw" code then .error (.of .eval "thrown") else .ok none

def trial (inputs : List Text) : Step (Engine Unit) (List Turn) :=
  (observeAll (Toolchain.ofFunctions picky brittle) inputs).run (fresh false ())

/-- Among them a refused, a lost and a failed entry, a type query, a listing and nothing at all. -/
def trialInputs : List Text :=
  ["var a = 1", "bad", "import a.B", "a + lost", "throw a", "$type(a)", "$", " ", "a"]

theorem observeAll_kept_names :
    (trial ["var a = 1", "import a.B", "a"]).value = (trial trialInputs).value.filter Turn.isKept ∧
      (trial ["var a = 1", "import a.B", "a"]).state.history =
        (trial trialInputs).state.history := by
  have hkept : ((trial trialInputs).value.filter Turn.isKept).map Turn.input =
      (["var a = 1", "import a.B", "a"] : List Text) := by decide +kernel
  rw [← hkept]
  unfold trial
  exact (observeAll_kept (Toolchain.compilesAs_ofFunctions picky brittle)
    (Toolchain.evaluatesAs_ofFunctions picky brittle) false () () trialInputs).2

end Engine

end HaxePrompt

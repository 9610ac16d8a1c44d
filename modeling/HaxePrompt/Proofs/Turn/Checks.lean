import HaxePrompt.Proofs.Turn.Course

/-! # The conditions that a turn relies on

`Act.checks` is the conditions that an action relies on: those it leaves among its emissions.  An
action that relies on none is `Act.Unchecked`, and so is what is put together of such actions.

For a toolchain that leaves none (`Toolchain.LeavesNoChecks`, as every workshop's does), the
conditions of a turn are those of its engine.  A turn that comes to its end in a phase
(`Engine.EndsIn`) relies on the conditions that `Engine.turnChecks` lists (`Engine.TurnsTo.checks`):
the moves of its phases, and, if the entry is taken away again, that it is its own source that is
taken.  They all hold (`Engine.holds_of_mem_turnChecks`). -/

namespace HaxePrompt

/-! ### The conditions of an action -/

/-- The condition that an emission is, if it is one. -/
def Emission.check? : Emission → Option Check
  | .check condition => some condition
  | _ => none

/-- The conditions among emissions, oldest first. -/
def Emission.checks (emissions : List Emission) : List Check := emissions.filterMap check?

theorem Emission.checks_append (one two : List Emission) :
    checks (one ++ two) = checks one ++ checks two := List.filterMap_append

namespace Act

variable {σ τ α β : Type}

/-- The conditions that an action relies on, run in a state. -/
def checks (act : Act σ α) (s : σ) : List Check := Emission.checks (act.run s).emitted

theorem checks_bind (x : Act σ α) (f : α → Act σ β) (s : σ) :
    (x >>= f).checks s = x.checks s ++ (f (x.run s).value).checks (x.run s).state :=
  Emission.checks_append _ _

theorem checks_pure (a : α) (s : σ) : (pure a : Act σ α).checks s = [] := rfl

theorem checks_get (s : σ) : (get : Act σ σ).checks s = [] := rfl

theorem checks_note (notice : Notice) (s : σ) : (note notice).checks s = [] := rfl

/-- The action relies on no condition. -/
def Unchecked (act : Act σ α) : Prop := ∀ s, act.checks s = []

theorem Unchecked.bind {x : Act σ α} {f : α → Act σ β} (hx : x.Unchecked)
    (hf : ∀ a, (f a).Unchecked) : (x >>= f).Unchecked := by
  intro s
  rw [checks_bind, hx, hf, List.append_nil]

theorem unchecked_pure (a : α) : (pure a : Act σ α).Unchecked := checks_pure a

theorem unchecked_get : (get : Act σ σ).Unchecked := checks_get

theorem unchecked_modify (f : σ → σ) : (modify f).Unchecked := fun _ => rfl

theorem unchecked_note (notice : Notice) : (note notice : Act σ Unit).Unchecked :=
  checks_note notice

theorem unchecked_emitAll {emissions : List Emission} (h : Emission.checks emissions = []) :
    (emitAll emissions : Act σ Unit).Unchecked := fun _ => h

theorem Unchecked.on {act : Act τ α} (h : act.Unchecked) (part : σ → τ) (put : τ → σ → σ) :
    (on part put act).Unchecked := fun s => h (part s)

end Act

/-- The toolchain relies on no conditions: it neither moves a turn on nor rolls an entry back. -/
structure Toolchain.LeavesNoChecks {σ : Type} (tools : Toolchain σ) : Prop where
  compile : ∀ source, (tools.compile source).Unchecked
  evaluate : ∀ code, (tools.evaluate code).Unchecked
  reset : tools.reset.Unchecked

theorem Toolchain.leavesNoChecks_ofFunctions
    (compile : Text → Except (List Diagnostic) Compiled)
    (evaluate : Text → Except Fault (Option Text)) :
    (ofFunctions compile evaluate).LeavesNoChecks :=
  ⟨fun _ => Act.unchecked_pure _, fun _ => Act.unchecked_pure _, Act.unchecked_pure _⟩

/-- What is taken away after an entry was staged is its source. -/
theorem History.newest?_stage {entry : Entry} {part : Part} (h : entry.part? = some part)
    (history : History) : (history.stage entry).newest? entry = some entry.source := by
  unfold newest? stage
  rw [h]
  simp

namespace Engine

variable {σ : Type} {tools : Toolchain σ} {entry : Entry} {before after : Engine σ}
  {calls : List Call} {answer : Answer}

/-! ### The conditions of the steps of a turn -/

theorem checks_enter (next : Phase) (engine : Engine σ) :
    (enter next).checks engine = [.move engine.phase next] := rfl

theorem checks_stage (entry : Entry) (engine : Engine σ) : (stage entry).checks engine = [] := rfl

theorem state_stage (entry : Entry) (engine : Engine σ) :
    ((stage entry).run engine).state =
      { engine with history := engine.history.stage entry } := rfl

theorem checks_rollback (entry : Entry) (engine : Engine σ) :
    (rollback entry).checks engine =
      [.rollback (engine.history.newest? entry) entry.source] := rfl

theorem checks_onTools {α : Type} (act : Act σ α) (engine : Engine σ) :
    (onTools act).checks engine = act.checks engine.tools := rfl

theorem checks_commit (entry : Entry) (engine : Engine σ) :
    (commit entry).checks engine =
      if entry.transient then [.rollback (engine.history.newest? entry) entry.source] else [] := by
  unfold commit
  split
  · exact checks_rollback entry engine
  · rfl

theorem checks_fail (entry : Entry) (failed : Phase) (diagnostics : List Diagnostic)
    (fault : Fault) (engine : Engine σ) :
    (fail entry failed diagnostics fault).checks engine =
      [.move engine.phase failed, .rollback (engine.history.newest? entry) entry.source,
        .move failed .idle] := rfl

theorem checks_succeed (entry : Entry) (diagnostics : List Diagnostic) (value : Option Text)
    (engine : Engine σ) :
    (succeed entry diagnostics value).checks engine =
      [.move engine.phase .evalSucceeded] ++
        (if entry.transient then [.rollback (engine.history.newest? entry) entry.source] else []) ++
        [.move .evalSucceeded .idle] := by
  unfold succeed
  simp only [Act.checks_bind, checks_enter, state_enter, checks_commit, state_commit,
    Act.checks_pure, List.append_assoc]
  rfl

/-! ### The conditions of a turn -/

/-- The newest code is not found in the output for the part, or it fails. -/
def EvaluationFails (tools : Toolchain σ) (entry : Entry) (before : Engine σ) : Prop :=
  ∃ part compiled, entry.part? = some part ∧
    (compileStep tools before entry).value = .ok compiled ∧
    ((∃ fault, Delta.extract part compiled.output = .error fault) ∨
      ∃ code fault, Delta.extract part compiled.output = .ok code ∧
        ((tools.evaluate code).run (compileStep tools before entry).state).value = .error fault)

/-- The phase in which a turn comes to its end: the compiler refused the program, the newest code
was not found or failed, or it gave its result. -/
structure EndsIn (tools : Toolchain σ) (entry : Entry) (before : Engine σ) (answer : Answer)
    (ending : Phase) : Prop where
  final : ending ∈ [Phase.compileFailed, .evalFailed, .evalSucceeded]
  refused : ending = .compileFailed ↔
    ∃ refusal, (compileStep tools before entry).value = .error refusal
  failed : ending = .evalFailed ↔ EvaluationFails tools entry before
  succeeded : ending = .evalSucceeded ↔ answer.isValue = true

theorem EvaluationFails.not_refused (h : EvaluationFails tools entry before) :
    ¬ ∃ refusal, (compileStep tools before entry).value = .error refusal := by
  obtain ⟨part, compiled, _, hc, _⟩ := h
  rintro ⟨refusal, hrefusal⟩
  rw [hc] at hrefusal
  cases hrefusal

theorem not_evaluationFails {part : Part} {compiled : Compiled} {code : Text}
    {value : Option Text} (hp : entry.part? = some part)
    (hc : (compileStep tools before entry).value = .ok compiled)
    (hx : Delta.extract part compiled.output = .ok code)
    (he : ((tools.evaluate code).run (compileStep tools before entry).state).value = .ok value) :
    ¬ EvaluationFails tools entry before := by
  rintro ⟨part', compiled', hp', hc', hfails⟩
  obtain rfl : part = part' := Option.some.inj (hp.symm.trans hp')
  obtain rfl : compiled = compiled' := Except.ok.inj (hc.symm.trans hc')
  rcases hfails with ⟨fault, hlost⟩ | ⟨code', fault, hcode, hfault⟩
  · rw [hx] at hlost
    cases hlost
  · obtain rfl : code = code' := Except.ok.inj (hx.symm.trans hcode)
    rw [he] at hfault
    cases hfault

theorem endsIn_compileFailed {refusal : List Diagnostic} (hvalue : answer.isValue = false)
    (hc : (compileStep tools before entry).value = .error refusal) :
    EndsIn tools entry before answer .compileFailed where
  final := by simp
  refused := iff_of_true rfl ⟨refusal, hc⟩
  failed := iff_of_false (by simp) fun hfails => hfails.not_refused ⟨refusal, hc⟩
  succeeded := iff_of_false (by simp) (by simp [hvalue])

theorem endsIn_evalFailed (hvalue : answer.isValue = false)
    (hfails : EvaluationFails tools entry before) :
    EndsIn tools entry before answer .evalFailed where
  final := by simp
  refused := iff_of_false (by simp) hfails.not_refused
  failed := iff_of_true rfl hfails
  succeeded := iff_of_false (by simp) (by simp [hvalue])

theorem endsIn_evalSucceeded {compiled : Compiled} (hvalue : answer.isValue = true)
    (hc : (compileStep tools before entry).value = .ok compiled)
    (hfails : ¬ EvaluationFails tools entry before) :
    EndsIn tools entry before answer .evalSucceeded where
  final := by simp
  refused := iff_of_false (by simp) (by simp [hc])
  failed := iff_of_false (by simp) hfails
  succeeded := iff_of_true rfl hvalue

/-- The phases entered in a turn before the one in which it comes to its end. -/
def approach : Phase → List Phase
  | .compileFailed => [.assembling, .compiling]
  | _ => [.assembling, .compiling, .compileSucceeded, .evaluating]

/-- The phases entered in a turn, by the phase in which it comes to its end. -/
def course (ending : Phase) : List Phase := approach ending ++ [ending, .idle]

/-- The moves through phases, one after the other. -/
def moves : Phase → List Phase → List Check
  | _, [] => []
  | current, next :: rest => .move current next :: moves next rest

/-- The conditions that a turn relies on, by the phase in which it comes to its end.  Only an entry
that gave its result and is kept is not taken away again. -/
def turnChecks (entry : Entry) (ending : Phase) : List Check :=
  moves .idle (approach ending ++ [ending]) ++
    (if ending = .evalSucceeded ∧ entry.transient = false then []
      else [.rollback (some entry.source) entry.source]) ++
    [.move ending .idle]

theorem mem_turnChecks {ending : Phase} {check : Check} (h : check ∈ turnChecks entry ending) :
    check ∈ moves .idle (approach ending ++ [ending]) ++ [.move ending .idle] ∨
      check = .rollback (some entry.source) entry.source := by
  unfold turnChecks at h
  rcases List.mem_append.mp h with h | hlast
  · rcases List.mem_append.mp h with hmove | htaken
    · exact Or.inl (List.mem_append_left _ hmove)
    · split at htaken
      · cases htaken
      · exact Or.inr (List.mem_singleton.mp htaken)
  · exact Or.inl (List.mem_append_right _ hlast)

theorem holds_of_mem_turnChecks {ending : Phase}
    (hfinal : ending ∈ [Phase.compileFailed, .evalFailed, .evalSucceeded]) {check : Check}
    (h : check ∈ turnChecks entry ending) : check.holds = true := by
  have hmoves : ∀ ending ∈ [Phase.compileFailed, .evalFailed, .evalSucceeded],
      ∀ check ∈ moves .idle (approach ending ++ [ending]) ++ [.move ending .idle],
        check.holds = true := by decide
  rcases mem_turnChecks h with hmove | rfl
  · exact hmoves ending hfinal check hmove
  · simp [Check.holds]

theorem rollback_not_mem_moves (taken : Option Text) (source : Text) (current : Phase)
    (phases : List Phase) : Check.rollback taken source ∉ moves current phases := by
  induction phases generalizing current with
  | nil => exact List.not_mem_nil
  | cons next rest ih =>
      intro hmem
      rcases List.mem_cons.mp hmem with hhead | hrest
      · cases hhead
      · exact ih next hrest

/-- What a turn takes away is the source of its entry. -/
theorem eq_of_rollback_mem_turnChecks {ending : Phase} {taken : Option Text} {source : Text}
    (h : Check.rollback taken source ∈ turnChecks entry ending) :
    taken = some entry.source ∧ source = entry.source := by
  rcases mem_turnChecks h with hmove | hrollback
  · rcases List.mem_append.mp hmove with hmove | hlast
    · exact absurd hmove (rollback_not_mem_moves taken source _ _)
    · cases List.mem_singleton.mp hlast
  · cases hrollback
    exact ⟨rfl, rfl⟩

theorem not_kept_of_rollback_mem_turnChecks {ending : Phase} {taken : Option Text} {source : Text}
    (h : Check.rollback taken source ∈ turnChecks entry ending) :
    ¬ (ending = .evalSucceeded ∧ entry.transient = false) := by
  intro hkept
  unfold turnChecks at h
  rw [if_pos hkept, List.append_nil] at h
  rcases List.mem_append.mp h with hmove | hlast
  · exact rollback_not_mem_moves taken source _ _ hmove
  · cases List.mem_singleton.mp hlast

/-- When something is taken away in a turn, the history is again what it was before the turn. -/
theorem TurnsTo.history_of_rollback {ending : Phase} {taken : Option Text} {source : Text}
    (hturn : TurnsTo tools entry before calls answer after)
    (hends : EndsIn tools entry before answer ending)
    (h : Check.rollback taken source ∈ turnChecks entry ending) :
    after.history = before.history := by
  rw [hturn.history]
  split
  · rename_i hvalue
    have htransient : entry.transient = true := by
      by_contra hne
      exact not_kept_of_rollback_mem_turnChecks h
        ⟨hends.succeeded.mpr hvalue, eq_false_of_ne_true hne⟩
    rw [History.keep, if_pos htransient]
  · rfl

theorem checks_submit {input : Text} {part : Part} (hquiet : tools.LeavesNoChecks)
    (hpart : (Entry.read input).part? = some part) (before : Engine σ) :
    (submit tools input).checks before =
      [.move before.phase .assembling, .move .assembling .compiling] ++
        Act.checks (match (compileStep tools before (Entry.read input)).value with
          | .error refusal =>
            fail (Entry.read input) .compileFailed (before.shown refusal) .compilationFailed
          | .ok compiled => evaluate tools (Entry.read input) part compiled)
          { before with
            history := before.history.stage (Entry.read input)
            phase := .compiling
            tools := (compileStep tools before (Entry.read input)).state } := by
  have hcompile : ∀ source s, ((tools.compile source).checks s) = [] := hquiet.compile
  unfold submit perform
  simp only [hpart, Act.checks_bind, Act.checks_note, Act.checks_get, checks_enter, checks_stage,
    checks_onTools, hcompile, state_stage, state_enter, run_onTools, Act.run_note, Act.run_get]
  unfold compileStep program
  cases ((tools.compile _).run before.tools).value with
  | error refusal => rfl
  | ok compiled => rfl

theorem checks_evaluate (tools : Toolchain σ) (entry : Entry) (part : Part) (compiled : Compiled)
    (engine : Engine σ) :
    (evaluate tools entry part compiled).checks engine =
      [.move engine.phase .compileSucceeded, .move .compileSucceeded .evaluating] ++
        Act.checks (match Delta.extract part compiled.output with
          | .error fault => fail entry .evalFailed (engine.shown compiled.diagnostics) fault
          | .ok code => do
            match ← onTools (tools.evaluate code) with
            | .error fault => fail entry .evalFailed (engine.shown compiled.diagnostics) fault
            | .ok value => succeed entry (engine.shown compiled.diagnostics) value)
          { engine with phase := .evaluating } := by
  unfold evaluate
  simp only [Act.checks_bind, checks_enter, state_enter, Act.checks_get, Act.run_get]
  rfl

/-- A turn with a part comes to its end in one of three phases, and relies on the conditions listed
for it. -/
theorem TurnsTo.checks {input : Text} {part : Part} (hquiet : tools.LeavesNoChecks)
    (hidle : before.phase = .idle) (hpart : (Entry.read input).part? = some part)
    (h : TurnsTo tools (Entry.read input) before calls answer after) :
    ∃ ending, EndsIn tools (Entry.read input) before answer ending ∧
      (submit tools input).checks before = turnChecks (Entry.read input) ending := by
  have hevaluate : ∀ code s, ((tools.evaluate code).checks s) = [] := hquiet.evaluate
  have hnewest := History.newest?_stage hpart before.history
  cases h with
  | skip hp hk =>
      rw [hpart] at hp
      cases hp
  | list hp hk =>
      rw [hpart] at hp
      cases hp
  | refuse hp hc =>
      refine ⟨.compileFailed, endsIn_compileFailed rfl hc, ?_⟩
      simp only [checks_submit hquiet hp, hc, checks_fail, hnewest, hidle]
      rfl
  | lose hp hc hx =>
      refine ⟨.evalFailed, endsIn_evalFailed rfl ⟨_, _, hp, hc, Or.inl ⟨_, hx⟩⟩, ?_⟩
      simp only [checks_submit hquiet hp, hc, checks_evaluate, hx, checks_fail, hnewest, hidle]
      rfl
  | fail hp hc hx he =>
      refine ⟨.evalFailed, endsIn_evalFailed rfl ⟨_, _, hp, hc, Or.inr ⟨_, _, hx, he⟩⟩, ?_⟩
      simp only [checks_submit hquiet hp, hc, checks_evaluate, hx, Act.checks_bind,
        checks_onTools, hevaluate, run_onTools, he, checks_fail, hnewest, hidle]
      rfl
  | succeed hp hc hx he =>
      refine ⟨.evalSucceeded,
        endsIn_evalSucceeded rfl hc (not_evaluationFails hp hc hx he), ?_⟩
      simp only [checks_submit hquiet hp, hc, checks_evaluate, hx, Act.checks_bind,
        checks_onTools, hevaluate, run_onTools, he, checks_succeed, hnewest, hidle]
      unfold turnChecks
      cases (Entry.read input).transient <;> rfl

theorem checks_submit_of_part?_eq_none {input : Text} (tools : Toolchain σ)
    (hpart : (Entry.read input).part? = none) (before : Engine σ) :
    (submit tools input).checks before = [] := by
  unfold submit
  simp only [hpart, Act.checks_bind, Act.checks_note]
  split <;> rfl

/-! ### The phases of a turn -/

theorem TurnsTo.idle (hidle : before.phase = .idle)
    (h : TurnsTo tools entry before calls answer after) : after.phase = .idle := by
  cases h with
  | skip => exact hidle
  | list => exact hidle
  | refuse | lose | fail | succeed => rfl

end Engine

namespace Check

def entered? : Check → Option Phase
  | .move _ after => some after
  | .rollback _ _ => none

/-- The phases that are entered, in order. -/
def entered (checks : List Check) : List Phase := checks.filterMap entered?

theorem entered_moves (current : Phase) (phases : List Phase) :
    entered (Engine.moves current phases) = phases := by
  induction phases generalizing current with
  | nil => rfl
  | cons next rest ih =>
      show next :: entered (Engine.moves next rest) = next :: rest
      rw [ih]

/-- The phases entered in a turn are those of its course. -/
theorem entered_turnChecks (entry : Entry) (ending : Phase) :
    entered (Engine.turnChecks entry ending) = Engine.course ending := by
  have hmoves := entered_moves .idle (Engine.approach ending ++ [ending])
  unfold Engine.turnChecks Engine.course
  unfold entered at hmoves ⊢
  rw [List.filterMap_append, List.filterMap_append, hmoves]
  split <;> simp [entered?]

end Check

end HaxePrompt

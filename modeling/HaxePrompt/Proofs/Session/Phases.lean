import HaxePrompt.Proofs.Session.Requests
import HaxePrompt.Proofs.Session.Residue
import HaxePrompt.Proofs.Turn.Checks

/-! # The phases of a session

Between two requests the engine is idle, and all conditions that it relies on hold: each move is
one that `Phase.leadsTo` allows, and each rollback takes away the source of the entry whose turn it
is, so that the history is again what it was before that turn (`checks_hold_between_turns`).  Every
turn enters the phases of one of three courses, by the way it comes to its end.

That the engine is idle is kept by every request (`idle_serve`), and a request to an idle engine
relies on conditions that hold (`holds_serve`). -/

namespace HaxePrompt.Engine

variable {σ : Type} {tools : Toolchain σ} {before : Engine σ}

theorem holds_submit (hquiet : tools.LeavesNoChecks) (hidle : before.phase = .idle)
    (input : Text) : ∀ check ∈ (submit tools input).checks before, check.holds = true := by
  obtain ⟨calls, hturn⟩ := turnsTo_submit tools input before
  cases hpart : (Entry.read input).part? with
  | none =>
      rw [checks_submit_of_part?_eq_none tools hpart]
      exact List.forall_mem_nil _
  | some part =>
      obtain ⟨ending, hends, hchecks⟩ := hturn.checks hquiet hidle hpart
      rw [hchecks]
      exact fun check hcheck => holds_of_mem_turnChecks hends.final hcheck

/-- One request to an idle engine relies on conditions that hold. -/
theorem holds_serve (hquiet : tools.LeavesNoChecks) (hidle : before.phase = .idle)
    (request : Request) : ∀ check ∈ (serve tools request).checks before, check.holds = true := by
  cases request with
  | submit input =>
      have hserve : (serve tools (.submit input)).checks before =
          (submit tools input).checks before := by
        unfold serve
        rw [Act.checks_bind, Act.checks_pure, List.append_nil]
      rw [hserve]
      exact holds_submit hquiet hidle input
  | clear =>
      have hclear : (clear tools).Unchecked := by
        unfold clear
        exact (Act.unchecked_note _).bind fun _ => (Act.unchecked_modify _).bind fun _ =>
          hquiet.reset.on _ _
      have hserve : (serve tools .clear).checks before = [] := by
        unfold serve
        rw [Act.checks_bind, hclear, Act.checks_pure, List.append_nil]
      rw [hserve]
      exact List.forall_mem_nil _

theorem idle_serve (hidle : before.phase = .idle) (request : Request) :
    ((serve tools request).run before).state.phase = .idle := by
  cases request with
  | submit input =>
      obtain ⟨calls, hturn⟩ := turnsTo_submit tools input before
      exact hturn.idle hidle
  | clear => exact hidle

/-- Requests served one after the other leave it idle, and rely on conditions that hold. -/
theorem idle_serveAll (hquiet : tools.LeavesNoChecks) (hidle : before.phase = .idle)
    (requests : List Request) :
    (∀ check ∈ (serveAll tools requests).checks before, check.holds = true) ∧
      ((serveAll tools requests).run before).state.phase = .idle := by
  induction requests generalizing before with
  | nil => exact ⟨List.forall_mem_nil _, hidle⟩
  | cons request rest ih =>
      obtain ⟨hrest, hphase⟩ := ih (idle_serve hidle request)
      have hchecks : (serveAll tools (request :: rest)).checks before =
          (serve tools request).checks before ++
            (serveAll tools rest).checks ((serve tools request).run before).state := by
        rw [serveAll, Act.checks_bind, Act.checks_bind, Act.checks_pure, List.append_nil]
      refine ⟨?_, hphase⟩
      intro check hcheck
      rw [hchecks] at hcheck
      rcases List.mem_append.mp hcheck with hcheck | hcheck
      · exact holds_serve hquiet hidle request check hcheck
      · exact hrest check hcheck

/-- **No condition fails, and the engine is idle between turns.**  Whatever the compiler and the
evaluator answer, after any requests to a fresh engine all conditions that it has relied on hold,
and it is idle.  So it is after one more input, whose turn takes nothing away but the source of its
entry, after which the history is what it was before the turn, and enters no phases if the entry has
no part.  Otherwise it enters those of a course whose
last phase before the idle one tells how the turn came to its end: the compiler refused the
program, the newest code was not found or failed, or it gave its result. -/
theorem checks_hold_between_turns (hquiet : tools.LeavesNoChecks) (showWarnings : Bool) (s : σ)
    (requests : List Request) :
    let session := (serveAll tools requests).run (fresh showWarnings s)
    (∀ check ∈ Emission.checks session.emitted, check.holds = true) ∧
      session.state.phase = .idle ∧
      ∀ input,
        let entry := Entry.read input
        let turn := (submit tools input).run session.state
        let checks := Emission.checks turn.emitted
        (∀ check ∈ checks, check.holds = true) ∧ turn.state.phase = .idle ∧
          (∀ taken source, .rollback taken source ∈ checks →
            taken = some entry.source ∧ source = entry.source ∧
              turn.state.history = session.state.history) ∧
          (entry.part? = none → Check.entered checks = []) ∧
          ∀ part, entry.part? = some part →
            ∃ ending, EndsIn tools entry session.state turn.value ending ∧
              Check.entered checks = course ending := by
  intro session
  have hfresh : (fresh showWarnings s).phase = .idle := rfl
  obtain ⟨hholds, hidle⟩ := idle_serveAll hquiet hfresh requests
  refine ⟨hholds, hidle, ?_⟩
  intro input entry turn checks
  obtain ⟨calls, hturn⟩ := turnsTo_submit tools input session.state
  refine ⟨holds_submit hquiet hidle input, hturn.idle hidle, ?_, ?_, ?_⟩
  · intro taken source hmem
    cases hpart : (Entry.read input).part? with
    | none =>
        have hchecks : checks = [] := checks_submit_of_part?_eq_none tools hpart session.state
        rw [hchecks] at hmem
        cases hmem
    | some part =>
        obtain ⟨ending, hends, hchecks⟩ := hturn.checks hquiet hidle hpart
        have hmem' : .rollback taken source ∈ turnChecks entry ending := hchecks ▸ hmem
        obtain ⟨htaken, hsource⟩ := eq_of_rollback_mem_turnChecks hmem'
        exact ⟨htaken, hsource, hturn.history_of_rollback hends hmem'⟩
  · intro hpart
    have hchecks : checks = [] := checks_submit_of_part?_eq_none tools hpart session.state
    rw [hchecks]
    rfl
  · intro part hpart
    obtain ⟨ending, hends, hchecks⟩ := hturn.checks hquiet hidle hpart
    refine ⟨ending, hends, ?_⟩
    have hentered : Check.entered checks = Check.entered (turnChecks entry ending) :=
      congrArg Check.entered hchecks
    rw [hentered, Check.entered_turnChecks]

/-- A session with a declaration, a refused import, a question for a type and a fresh start, in
which a thrown name then fails. -/
theorem checks_hold_between_turns_thrown :
    let tools := Toolchain.ofFunctions picky brittle
    let session := (serveAll tools
      [.submit "var a = 1", .submit "import bad.B", .submit "$type(a)", .clear, .submit "a"]).run
        (fresh true ())
    let turn := (submit tools "throw a").run session.state
    (∀ check ∈ Emission.checks session.emitted, check.holds = true) ∧
      session.state.phase = .idle ∧
      Check.entered (Emission.checks turn.emitted) =
        [.assembling, .compiling, .compileSucceeded, .evaluating, .evalFailed, .idle] := by
  intro tools session turn
  have hquiet : tools.LeavesNoChecks := Toolchain.leavesNoChecks_ofFunctions picky brittle
  obtain ⟨hholds, hidle, hnext⟩ := checks_hold_between_turns hquiet true ()
    [.submit "var a = 1", .submit "import bad.B", .submit "$type(a)", .clear, .submit "a"]
  obtain ⟨_, _, _, _, hcourse⟩ := hnext "throw a"
  obtain ⟨ending, hends, hentered⟩ := hcourse .statements (by decide +kernel)
  refine ⟨hholds, hidle, ?_⟩
  have hcompiled : (compileStep tools session.state (Entry.read "throw a")).value.isOk = true := by
    decide +kernel
  have hfailed : turn.value.isValue = false := by decide +kernel
  have hending : ending = .evalFailed := by
    have hfinal := hends.final
    simp only [List.mem_cons, List.not_mem_nil, or_false] at hfinal
    rcases hfinal with hrefused | hevalFailed | hsucceeded
    · obtain ⟨refusal, hrefusal⟩ := hends.refused.mp hrefused
      rw [hrefusal] at hcompiled
      cases hcompiled
    · exact hevalFailed
    · have hvalue := hends.succeeded.mp hsucceeded
      rw [hfailed] at hvalue
      cases hvalue
  rw [hentered, hending]
  rfl

end HaxePrompt.Engine

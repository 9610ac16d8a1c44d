import HaxePrompt.Proofs.Tool.Visits

/-! # What a sandbox holds

Between two calls a sandbox holds either nothing, and then no process is running, or the only
process that is running, whose reports it has taken one by one (`Sandbox.Holds`).  What a call does
follows from what is held before it, and what is held after it from what the call has done
(`Sandbox.Steps`).  So it is for each call, whatever the processes do (`Sandbox.steps_call`): a
request either finds a report, and the process is kept (`asks_of_report`), or it finds none, and the
process is ended (`asks_of_none`). -/

namespace HaxePrompt

open Report (reportsIn)
open Dealing

/-- The runner is the process started at a place of the record.  It is the only one that is running,
and of its reports each request has taken one. -/
structure Runner.StandsAt (runner : Runner) (record : List Dealing) (origin : Nat) : Prop where
  origin_eq : origin? runner.process record = some origin
  running : Dealing.running record = [runner.process]
  unfinished : runner.unfinished = (received (answers runner.process record)).1
  reports : runner.reports =
    (received (answers runner.process record)).2.drop (answers runner.process record).length
  taken : (answers runner.process record).length ≤
    (received (answers runner.process record)).2.length

/-- What a sandbox holds between two calls, by the place of its start. -/
structure Sandbox.Holds (sandbox : Sandbox) (record : List Dealing) (held? : Option Nat) :
    Prop where
  /-- No two processes have been running at a time. -/
  single : Single record
  nothing : sandbox.runner = none → held? = none ∧ running record = []
  something : ∀ runner, sandbox.runner = some runner →
    ∃ origin, held? = some origin ∧ runner.StandsAt record origin

/-! ### The reports of a runner -/

namespace Runner.StandsAt

variable {runner : Runner} {record : List Dealing} {origin : Nat} {reaction : Reaction}

theorem started (process : Nat) (hidle : Dealing.running record = []) :
    ({ process } : Runner).StandsAt (.started process :: record) record.length := by
  have hanswers : answers process (.started process :: record) = [] := by simp [answers]
  refine ⟨by simp [origin?], by rw [Dealing.running, hidle], ?_, ?_, ?_⟩ <;>
    simp [hanswers, received]

theorem running_stopped (h : runner.StandsAt record origin) :
    Dealing.running (.stopped runner.process :: record) = [] := by
  rw [Dealing.running, h.running, List.erase_cons_head]

/-- The reports that a request finds are those that no request has taken, and what it brings. -/
theorem drop_received (h : runner.StandsAt record origin) :
    (takeIn (received (answers runner.process record)) (.ok reaction)).2.drop
        (answers runner.process record).length =
      runner.reports ++ reportsIn (Sandbox.receive runner.unfinished reaction).1 := by
  rw [h.reports, h.unfinished]
  exact List.drop_append_of_le_length h.taken

theorem report?_handed (h : runner.StandsAt record origin) (line : Bytes) (reaction : Reaction) :
    report? runner.process (.handed runner.process line (.ok reaction) :: record) =
      (runner.reports ++ reportsIn (Sandbox.receive runner.unfinished reaction).1).head? := by
  unfold report?
  rw [answers_handed, List.getLast?_concat, received_concat, ← h.drop_received, List.head?_drop]
  simp

theorem handed (h : runner.StandsAt record origin) (line : Bytes) {report : Report}
    {reports : List Report}
    (hreports : runner.reports ++ reportsIn (Sandbox.receive runner.unfinished reaction).1 =
      report :: reports) :
    ({ runner with
        unfinished := (Sandbox.receive runner.unfinished reaction).2, reports } : Runner).StandsAt
      (.handed runner.process line (.ok reaction) :: record) origin := by
  have hdrop := h.drop_received.trans hreports
  refine ⟨h.origin_eq, h.running, ?_, ?_, ?_⟩
  · rw [answers_handed, received_concat, h.unfinished]
    rfl
  · rw [answers_handed, received_concat, List.length_append, List.length_singleton,
      ← List.tail_drop, hdrop, List.tail_cons]
  · rw [answers_handed, received_concat, List.length_append, List.length_singleton]
    refine Nat.lt_of_sub_pos ?_
    rw [← List.length_drop, hdrop]
    exact Nat.succ_pos _

end Runner.StandsAt

/-! ### Asking -/

namespace Sandbox

/-- What has come of a request to the process of a runner: the record after it, the sandbox and the
result. -/
structure Asks (runner : Runner) (origin : Nat) (code : Text) (before after : List Dealing)
    (sandbox : Sandbox) (result : Except Fault (Option Text)) : Prop where
  record : ∃ later answer,
    after = later ++ .handed runner.process (Utf8.encode (request code)) answer :: before ∧
      later ⊆ [.stopped runner.process]
  origin_eq : origin? runner.process after = some origin
  holds : sandbox.Holds after ((report? runner.process after).map fun _ => origin)
  reported : ∀ report, report? runner.process after = some report → result = report.result
  failed : report? runner.process after = none → ∃ fault, result = .error fault ∧ fault.kind = .eval

section

variable {runner : Runner} {origin : Nat} {code : Text} {before : List Dealing}
  {sandbox : Sandbox}

theorem single_handed (h : runner.StandsAt before origin) (hsingle : Single before) (line : Bytes)
    (answer : Except IoError Reaction) :
    Single (.handed runner.process line answer :: before) := by
  refine hsingle.cons ?_
  rw [running, h.running]
  exact Nat.le_refl 1

/-- A request that finds a report takes it, and the process is kept. -/
theorem asks_of_report (h : runner.StandsAt before origin) (hsingle : Single before)
    {reaction : Reaction} {report : Report} {reports : List Report}
    (hreports : runner.reports ++ reportsIn (receive runner.unfinished reaction).1 =
      report :: reports) :
    Asks runner origin code before
      (.handed runner.process (Utf8.encode (request code)) (.ok reaction) :: before)
      { sandbox with
        runner := some
          { runner with unfinished := (receive runner.unfinished reaction).2, reports } }
      report.result := by
  have hobtained := h.report?_handed (Utf8.encode (request code)) reaction
  rw [hreports, List.head?_cons] at hobtained
  refine ⟨⟨[], _, rfl, List.nil_subset _⟩, h.origin_eq, ?_, ?_, ?_⟩
  · rw [hobtained]
    refine ⟨single_handed h hsingle _ _, nofun, ?_⟩
    rintro runner' ⟨⟩
    exact ⟨origin, rfl, h.handed _ hreports⟩
  · rw [hobtained]
    rintro _ ⟨⟩
    rfl
  · rw [hobtained]
    nofun

/-- A request that obtains no report fails, and the process is ended. -/
theorem asks_of_none (h : runner.StandsAt before origin) (hsingle : Single before)
    {answer : Except IoError Reaction} {fault : Fault} (hkind : fault.kind = .eval)
    (hnone : report? runner.process
      (.handed runner.process (Utf8.encode (request code)) answer :: before) = none) :
    Asks runner origin code before
      (.stopped runner.process ::
        .handed runner.process (Utf8.encode (request code)) answer :: before)
      { sandbox with runner := none } (.error fault) := by
  have hobtained : report? runner.process (.stopped runner.process ::
      .handed runner.process (Utf8.encode (request code)) answer :: before) = none := hnone
  have hrunning : running (.stopped runner.process ::
      .handed runner.process (Utf8.encode (request code)) answer :: before) = [] :=
    h.running_stopped
  refine ⟨⟨[.stopped runner.process], _, rfl, List.Subset.refl _⟩, h.origin_eq, ?_, ?_, ?_⟩
  · rw [hobtained]
    refine ⟨(single_handed h hsingle _ _).cons ?_, fun _ => ⟨rfl, hrunning⟩, ?_⟩
    · rw [hrunning]
      exact Nat.zero_le 1
    · rintro runner' ⟨⟩
  · rw [hobtained]
    nofun
  · exact fun _ => ⟨fault, rfl, hkind⟩

variable {π : Type} [Programs π] {machine : Machine (Recorded π)}

theorem asks_ask (h : runner.StandsAt machine.record origin) (hsingle : Single machine.record)
    (sandbox : Sandbox) (code : Text) :
    Asks runner origin code machine.record ((sandbox.ask runner code).run machine).state.record
      ((sandbox.ask runner code).run machine).value.1
      ((sandbox.ask runner code).run machine).value.2 := by
  have hhanded := Machine.record_deliver runner.process (Utf8.encode (request code)) machine
  rcases ask_cases sandbox runner code machine with
    ⟨reaction, report, reports, hok, hreports, hvalue, hstate⟩ |
    ⟨hnone, ⟨fault, hvalue, hkind⟩, hstate⟩
  · rw [hvalue, hstate, hhanded, hok]
    exact asks_of_report h hsingle hreports
  · rw [hvalue, hstate, Machine.record_stop, hhanded]
    refine asks_of_none h hsingle hkind ?_
    cases hanswer : ((Machine.deliver runner.process (Utf8.encode (request code))).run
        machine).value with
    | error error =>
        unfold report?
        rw [answers_handed, List.getLast?_concat]
    | ok reaction => rw [h.report?_handed, hnone reaction hanswer, List.head?_nil]

end

/-! ### A call -/

/-- What a visit is in which a process was asked, which had been started before it or at its
beginning. -/
theorem Asks.visit {runner : Runner} {origin : Nat} {code : Text} {begun : List Dealing}
    {visit : Visit} {sandbox : Sandbox} {result : Except Fault (Option Text)}
    (h : Asks runner origin code (begun ++ visit.before) visit.after sandbox result)
    (hdemand : visit.demand = .evaluate code) :
    visit.process? = some origin ∧ visit.report? = report? runner.process visit.after ∧
      visit.dealings ≠ [] ∧ visit.dealings.any isStart = begun.any isStart := by
  obtain ⟨later, answer, hafter, hlater⟩ := h.record
  have hdealings : visit.dealings =
      later ++ .handed runner.process (Utf8.encode (request code)) answer :: begun :=
    Visit.dealings_eq (by rw [hafter]; simp)
  have hnumber : visit.number? = some runner.process := by
    unfold Visit.number?
    rw [hdemand]
    change visit.dealings.findSome? _ = _
    rw [hdealings, List.findSome?_append, List.findSome?_eq_none_iff.mpr]
    · simp [handedTo?]
    · intro dealing hdealing
      obtain rfl := List.mem_singleton.mp (hlater hdealing)
      rfl
  have hstart : later.any isStart = false := by
    rw [List.any_eq_false]
    intro dealing hdealing
    obtain rfl := List.mem_singleton.mp (hlater hdealing)
    simp [isStart]
  refine ⟨?_, ?_, ?_, ?_⟩
  · rw [Visit.process?, hnumber]
    exact h.origin_eq
  · rw [Visit.report?, hnumber]
    rfl
  · rw [hdealings]
    exact List.append_ne_nil_of_right_ne_nil _ (List.cons_ne_nil _ _)
  · rw [hdealings, List.any_append, hstart, List.any_cons]
    rfl

theorem Asks.follows {runner : Runner} {origin : Nat} {code : Text} {begun : List Dealing}
    {visit : Visit} {sandbox : Sandbox} {result : Except Fault (Option Text)} {held? : Option Nat}
    (h : Asks runner origin code (begun ++ visit.before) visit.after sandbox result)
    (hdemand : visit.demand = .evaluate code) (hresult : visit.result? = some result)
    (hheld : held? = some origin ∧ begun.any isStart = false ∨
      held? = none ∧ begun.any isStart = true ∧ visit.before.length ≤ origin) (program : Text) :
    visit.Follows program held? := by
  obtain ⟨hprocess, hreport, hne, hstart⟩ := h.visit hdemand
  refine ⟨?_, ?_, ?_, ?_⟩
  · rintro origin' rfl
    rcases hheld with ⟨hheld, hbegun⟩ | ⟨hheld, -⟩
    · cases hheld
      refine ⟨hprocess, ?_⟩
      rintro (htries | ⟨hnil, -⟩)
      · rw [hstart, hbegun] at htries
        cases htries
      · exact hne hnil
    · cases hheld
  · rintro rfl
    rcases hheld with ⟨hheld, -⟩ | ⟨-, hbegun, hle⟩
    · cases hheld
    · refine ⟨Or.inl (hstart.trans hbegun), fun origin' horigin' => ?_⟩
      rw [hprocess] at horigin'
      cases horigin'
      exact hle
  · intro report hobtained
    rw [hreport] at hobtained
    exact ⟨by rw [hprocess]; rfl, by rw [hresult, h.reported report hobtained]⟩
  · intro hnone
    rw [hreport] at hnone
    obtain ⟨fault, hfault, hkind⟩ := h.failed hnone
    exact ⟨fault, by rw [hresult, hfault], hkind⟩

theorem Asks.left?_eq {runner : Runner} {origin : Nat} {code : Text} {begun : List Dealing}
    {visit : Visit} {sandbox : Sandbox} {result : Except Fault (Option Text)}
    (h : Asks runner origin code (begun ++ visit.before) visit.after sandbox result)
    (hdemand : visit.demand = .evaluate code) :
    visit.left? = (report? runner.process visit.after).map fun _ => origin := by
  obtain ⟨hprocess, hreport, -, -⟩ := h.visit hdemand
  rw [Visit.left?, hreport, hprocess]
  cases report? runner.process visit.after <;> rfl

variable {π : Type} [Programs π] {sandbox : Sandbox} {machine : Machine (Recorded π)}
  {held? : Option Nat}

/-- The step of a sandbox: what a call does follows from what is held before it, and what is held
after it is what the call leaves behind. -/
structure Steps (sandbox sandbox' : Sandbox) (held? : Option Nat) (visit : Visit) : Prop where
  holds : sandbox'.Holds visit.after visit.left?
  program_eq : sandbox'.program = sandbox.program
  le : visit.before.length ≤ visit.after.length
  follows : visit.Evaluates → visit.Follows sandbox.program held?

theorem program_ask (sandbox : Sandbox) (runner : Runner) (code : Text) (machine : Machine π) :
    ((sandbox.ask runner code).run machine).value.1.program = sandbox.program := by
  rcases ask_cases sandbox runner code machine with
    ⟨_, _, _, _, _, hvalue, _⟩ | ⟨_, ⟨_, hvalue, _⟩, _⟩ <;> rw [hvalue]

theorem steps_reset (h : sandbox.Holds machine.record held?) :
    sandbox.Steps ((sandbox.call .reset).run machine).value.1 held?
      (sandbox.visit machine .reset) := by
  have hleft : (sandbox.visit machine .reset).left? = none := Visit.left?_of_reset rfl
  have hvalue : ((sandbox.call .reset).run machine).value.1 = { sandbox with runner := none } := by
    unfold call reset drop
    cases sandbox.runner <;> rfl
  suffices hafter : Single (sandbox.visit machine .reset).after ∧
      running (sandbox.visit machine .reset).after = [] ∧
      machine.record.length ≤ (sandbox.visit machine .reset).after.length by
    refine ⟨?_, by rw [hvalue], hafter.2.2,
      fun hvisit => absurd hvisit (Visit.not_evaluates_iff.mpr rfl)⟩
    rw [hvalue, hleft]
    exact ⟨hafter.1, fun _ => ⟨rfl, hafter.2.1⟩, nofun⟩
  cases hrunner : sandbox.runner with
  | none =>
      have hrecord : (sandbox.visit machine .reset).after = machine.record := by
        unfold visit call reset drop
        rw [hrunner]
        rfl
      rw [hrecord]
      exact ⟨h.single, (h.nothing hrunner).2, Nat.le_refl _⟩
  | some runner =>
      obtain ⟨origin, -, hstands⟩ := h.something runner hrunner
      have hrecord : (sandbox.visit machine .reset).after =
          .stopped runner.process :: machine.record := by
        unfold visit call reset drop
        rw [hrunner]
        rfl
      have hrunning := hstands.running_stopped
      rw [hrecord]
      exact ⟨h.single.cons (by rw [hrunning]; exact Nat.zero_le 1), hrunning, Nat.le_succ _⟩

/-- An evaluation that comes to asking a runner, before which a new one may have been started. -/
theorem steps_of_asks {runner : Runner} {origin : Nat} {code : Text} (begun : List Dealing)
    (hprogram : ((sandbox.evaluate code).run machine).value.1.program = sandbox.program)
    (h : Asks runner origin code (begun ++ machine.record)
      ((sandbox.evaluate code).run machine).state.record
      ((sandbox.evaluate code).run machine).value.1 ((sandbox.evaluate code).run machine).value.2)
    (hheld : held? = some origin ∧ begun.any isStart = false ∨
      held? = none ∧ begun.any isStart = true ∧ machine.record.length ≤ origin) :
    sandbox.Steps ((sandbox.call (.evaluate code)).run machine).value.1 held?
      (sandbox.visit machine (.evaluate code)) := by
  have hvisit : Asks runner origin code (begun ++ (sandbox.visit machine (.evaluate code)).before)
    (sandbox.visit machine (.evaluate code)).after _ _ := h
  refine ⟨?_, hprogram, ?_, fun _ => hvisit.follows rfl rfl hheld _⟩
  · rw [hvisit.left?_eq rfl]
    exact h.holds
  · obtain ⟨later, answer, hafter, -⟩ := hvisit.record
    rw [hafter, List.length_append, List.length_cons, List.length_append]
    omega

theorem steps_of_unable {code : Text} {error : IoError}
    (hvalue : ((sandbox.evaluate code).run machine).value =
      ({ sandbox with runner := none },
        .error (.of .eval (Fault.cannotRun sandbox.program error))))
    (hrecord : ((sandbox.evaluate code).run machine).state.record = machine.record)
    (hsingle : Single machine.record) (hidle : running machine.record = []) :
    sandbox.Steps ((sandbox.call (.evaluate code)).run machine).value.1 none
      (sandbox.visit machine (.evaluate code)) := by
  have hsandbox : ((sandbox.call (.evaluate code)).run machine).value.1 =
      { sandbox with runner := none } := congrArg Prod.fst hvalue
  have hresult : (sandbox.visit machine (.evaluate code)).result? =
      some (.error (.of .eval (Fault.cannotRun sandbox.program error))) :=
    congrArg (fun value : Sandbox × Except Fault (Option Text) => some value.2) hvalue
  have hafter : (sandbox.visit machine (.evaluate code)).after = machine.record := hrecord
  have hdealings : (sandbox.visit machine (.evaluate code)).dealings = [] :=
    Visit.dealings_eq hafter
  have hnumber : (sandbox.visit machine (.evaluate code)).number? = none := by
    unfold Visit.number?
    rw [hdealings]
    rfl
  have hprocess : (sandbox.visit machine (.evaluate code)).process? = none := by
    rw [Visit.process?, hnumber, Option.bind_none]
  have hreport : (sandbox.visit machine (.evaluate code)).report? = none := by
    rw [Visit.report?, hnumber, Option.bind_none]
  refine ⟨?_, by rw [hsandbox], hafter.symm ▸ Nat.le_refl _, fun _ => ⟨nofun, ?_, ?_, ?_⟩⟩
  · rw [hsandbox, hafter, Visit.left?, hreport, Option.bind_none]
    exact ⟨hsingle, fun _ => ⟨rfl, hidle⟩, nofun⟩
  · rw [hprocess]
    exact fun _ => ⟨Or.inr ⟨hdealings, error, hresult⟩, nofun⟩
  · rw [hreport]
    nofun
  · exact fun _ => ⟨_, hresult, rfl⟩

/-- **The step.**  Whatever the processes do, a call goes on from what the sandbox holds, and leaves
held the process that was asked if it sent a report, and else nothing. -/
theorem steps_call (h : sandbox.Holds machine.record held?) (demand : Demand) :
    sandbox.Steps ((sandbox.call demand).run machine).value.1 held?
      (sandbox.visit machine demand) := by
  cases demand with
  | reset => exact steps_reset h
  | evaluate code =>
      cases hrunner : sandbox.runner with
      | some runner =>
          obtain ⟨origin, rfl, hstands⟩ := h.something runner hrunner
          apply steps_of_asks []
          · rw [run_evaluate_of_runner hrunner, program_ask]
          · rw [run_evaluate_of_runner hrunner]
            exact asks_ask hstands h.single sandbox code
          · exact Or.inl ⟨rfl, rfl⟩
      | none =>
          obtain ⟨rfl, hidle⟩ := h.nothing hrunner
          rcases Machine.record_start sandbox.invocation machine with
            ⟨error, hstart, hrecord⟩ | ⟨process, hstart, hrecord⟩
          · obtain ⟨hvalue, hstate⟩ := evaluate_of_start_error code hrunner hstart
            exact steps_of_unable hvalue (by rw [hstate, hrecord]) h.single hidle
          · obtain ⟨hvalue, hstate⟩ := evaluate_of_start_ok code hrunner hstart
            have hsingle : Single (.started process :: machine.record) :=
              h.single.cons (by rw [running, hidle]; exact Nat.le_refl 1)
            have hstands := Runner.StandsAt.started process hidle
            rw [← hrecord] at hsingle hstands
            -- The request is made on the record with the start, which is the visit's beginning.
            have hasks := asks_ask hstands hsingle sandbox code
            rw [hrecord] at hasks
            apply steps_of_asks [.started process]
            · rw [hvalue, program_ask]
            · rw [hvalue, hstate]
              exact hasks
            · exact Or.inr ⟨rfl, rfl, Nat.le_refl _⟩

end Sandbox

end HaxePrompt

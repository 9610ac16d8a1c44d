import HaxePrompt.Proofs.Tool.Demultiplex
import HaxePrompt.Tool.Sandbox

/-! # Asking a runner

Asking a runner gives the next of its reports, and the runner is held, or there is none, and the
runner is ended (`ask_cases`).  So a runner that answers a request by a reply is held as it was
before, the report of the reply is the result, and its output is shown (`ask_of_reply`).  One that
ends over the request is dropped, and its output is shown as well (`ask_of_end`).

An evaluation asks the runner that is held, or one that it starts.  Its faults are all of one kind
(`kind_of_evaluate`). -/

namespace HaxePrompt

namespace Sandbox

open Report (reportsIn outputIn)

variable {π : Type} {sandbox : Sandbox} {runner : Runner} {code : Text} {machine : Machine π}
  {reaction : Reaction} {programs : π}

theorem shown_raw (display : Display) (lines : List Bytes) :
    Emission.shown display .output ((lines.map Report.ofLine).map fun (output, _) =>
      Emission.raw .output output) = Utf8.encode (outputIn lines) := by
  induction lines with
  | nil => rfl
  | cons line lines ih =>
      have hone : outputIn (line :: lines) = (Report.ofLine line).1 ++ outputIn lines := rfl
      unfold Emission.shown at ih ⊢
      rw [List.map_cons, List.map_cons, List.flatMap_cons, ih, hone, Utf8.encode_append]
      congr 1
      simp [Emission.raw, Emission.shownOne, Fragment.renderAll, Fragment.render]

theorem run_attend (machine : Machine π) {lines : List Bytes} {unfinished : Bytes}
    (h : receive runner.unfinished reaction = (lines, unfinished)) :
    ((attend runner reaction).run machine).value =
        { runner with unfinished, reports := runner.reports ++ reportsIn lines } ∧
      ((attend runner reaction).run machine).state = machine ∧
      ∀ display, Emission.shown display .output ((attend runner reaction).run machine).emitted =
        Utf8.encode (outputIn lines) := by
  unfold attend
  simp only [h]
  refine ⟨?_, rfl, ?_⟩
  · simp [reportsIn, List.filterMap_map, Function.comp_def]
  · intro display
    have hraw := shown_raw display lines
    unfold Emission.shown at hraw ⊢
    simp only [Act.run_bind, Act.run_emit, Act.run_emitAll, Act.run_pure, List.flatMap_append,
      List.append_nil, hraw]
    simp [Emission.shownOne]

theorem receive_of_ended {unfinished : Bytes} {status : ExitStatus}
    (h : reaction.ended = some status) :
    receive unfinished reaction = (Report.pieces (unfinished ++ reaction.output), []) := by
  unfold receive Report.pieces
  rw [h]
  by_cases hrest : (Report.complete (unfinished ++ reaction.output)).2 = [] <;> simp [hrest]

theorem receive_of_not_ended {unfinished : Bytes} (h : reaction.ended = none) :
    receive unfinished reaction = Report.complete (unfinished ++ reaction.output) := by
  unfold receive
  rw [h]
  rfl

/-- What is received of a reply are its lines, whether the runner ends behind it or not. -/
theorem receive_reply {reply : Reply} (houtput : reaction.output = reply.bytes) :
    ∃ lines, receive [] reaction = (lines, []) ∧ reportsIn lines = [reply.report] ∧
      outputIn lines = reply.shown := by
  obtain ⟨lines, hbytes, hlines, hreports, hshown, -⟩ := Reply.exists_lines_flatMap [reply]
  have hcomplete : Report.complete ([] ++ reaction.output) = (lines, []) := by
    have hnil : (10 : UInt8) ∉ ([] : Bytes) := List.not_mem_nil
    have hcut := Report.complete_of_lines hlines hnil
    rw [List.append_nil, ← hbytes] at hcut
    simpa [houtput] using hcut
  refine ⟨lines, ?_, by simpa using hreports, by simpa using hshown⟩
  unfold receive
  rw [hcomplete]
  simp

variable [Programs π]

/-- What asking a runner comes to.  If there is a report, it is the result and the runner is held;
otherwise the evaluation fails and the runner is ended. -/
theorem ask_cases (sandbox : Sandbox) (runner : Runner) (code : Text) (machine : Machine π) :
    let handed := (Machine.deliver runner.process (Utf8.encode (request code))).run machine
    let asked := (sandbox.ask runner code).run machine
    (∃ reaction report reports, handed.value = .ok reaction ∧
      runner.reports ++ reportsIn (receive runner.unfinished reaction).1 = report :: reports ∧
      asked.value =
        ({ sandbox with
            runner := some
              { runner with unfinished := (receive runner.unfinished reaction).2, reports } },
          report.result) ∧
      asked.state = handed.state) ∨
    ((∀ reaction, handed.value = .ok reaction →
        runner.reports ++ reportsIn (receive runner.unfinished reaction).1 = []) ∧
      (∃ fault, asked.value = ({ sandbox with runner := none }, .error fault) ∧
        fault.kind = .eval) ∧
      asked.state = ((Machine.stop runner.process).run handed.state).state) := by
  intro handed asked
  have hasked : asked = (sandbox.ask runner code).run machine := rfl
  unfold ask drop at hasked
  cases hhanded : handed.value with
  | error error =>
      simp only [Act.run_bind, Act.run_note] at hasked
      rw [show ((Machine.deliver runner.process (Utf8.encode (request code))).run machine).value =
        .error error from hhanded] at hasked
      exact Or.inr ⟨by rintro _ ⟨⟩, ⟨gone error, by rw [hasked]; rfl, rfl⟩, by rw [hasked]; rfl⟩
  | ok reaction =>
      obtain ⟨lines, unfinished, hreceive⟩ : ∃ lines unfinished,
          receive runner.unfinished reaction = (lines, unfinished) := ⟨_, _, rfl⟩
      obtain ⟨hvalue, hstate, -⟩ := run_attend handed.state hreceive
      simp only [Act.run_bind, Act.run_note] at hasked
      rw [show ((Machine.deliver runner.process (Utf8.encode (request code))).run machine) =
        handed from rfl, hhanded] at hasked
      simp only [Act.run_bind, hvalue, hstate] at hasked
      cases hreports : runner.reports ++ reportsIn lines with
      | cons report reports =>
          rw [hreports] at hasked
          refine Or.inl ⟨reaction, report, reports, rfl, ?_, ?_, ?_⟩
          · rw [hreceive, hreports]
          · rw [hreceive, hasked]
            rfl
          · rw [hasked]
            rfl
      | nil =>
          rw [hreports] at hasked
          refine Or.inr ⟨by rintro _ ⟨⟩; rw [hreceive, hreports], ?_⟩
          cases hended : reaction.ended with
          | some status =>
              rw [hended] at hasked
              exact ⟨⟨exited status, by rw [hasked]; rfl, rfl⟩, by rw [hasked]; rfl⟩
          | none =>
              rw [hended] at hasked
              exact ⟨⟨silent, by rw [hasked]; rfl, rfl⟩, by rw [hasked]; rfl⟩

/-- **A runner that replies gives the report of its reply.**  Its output is shown, and it is held
as it was. -/
theorem ask_of_reply {reply : Reply} (hunfinished : runner.unfinished = [])
    (hreports : runner.reports = [])
    (hdeliver : Programs.deliver runner.process (Utf8.encode (request code)) machine.programs =
      (.ok reaction, programs))
    (houtput : reaction.output = reply.bytes) :
    ((sandbox.ask runner code).run machine).value =
        ({ sandbox with runner := some runner }, reply.report.result) ∧
      ∀ display, Emission.shown display .output ((sandbox.ask runner code).run machine).emitted =
        Utf8.encode reply.shown := by
  obtain ⟨lines, hreceive, hreport, hshown⟩ := receive_reply houtput
  rw [← hunfinished] at hreceive
  obtain ⟨hvalue, -, hemitted⟩ := run_attend { machine with programs } hreceive
  rw [hreports, hreport, List.nil_append] at hvalue
  have hheld : { runner with unfinished := [], reports := [] } = runner := by
    rw [← hunfinished, ← hreports]
  unfold ask Machine.deliver
  simp only [Act.run_bind, Act.run_note, Act.run_get, Act.run_modify, Act.run_pure, hdeliver,
    hvalue]
  refine ⟨by rw [← hheld], ?_⟩
  intro display
  have hall := hemitted display
  unfold Emission.shown at hall ⊢
  simp only [List.flatMap_append, hall, hshown]
  simp [Emission.shownOne]

/-- **A runner that ends over a request is dropped.**  The evaluation fails with how it ended, and
its output is shown. -/
theorem ask_of_end {status : ExitStatus} (hunfinished : runner.unfinished = [])
    (hreports : runner.reports = [])
    (hdeliver : Programs.deliver runner.process (Utf8.encode (request code)) machine.programs =
      (.ok reaction, programs))
    (hended : reaction.ended = some status) (hfree : Report.TagFree reaction.output) :
    ((sandbox.ask runner code).run machine).value =
        ({ sandbox with runner := none }, .error (exited status)) ∧
      ∀ display, Emission.shown display .output ((sandbox.ask runner code).run machine).emitted =
        Utf8.encode (Utf8.decodeLossy reaction.output) := by
  obtain ⟨hnone, hshown⟩ := Report.read_pieces_of_tagFree hfree
  have hreceive : receive runner.unfinished reaction = (Report.pieces reaction.output, []) := by
    rw [receive_of_ended hended, hunfinished, List.nil_append]
  obtain ⟨hvalue, -, hemitted⟩ := run_attend { machine with programs } hreceive
  rw [hreports, hnone, List.nil_append] at hvalue
  unfold ask Machine.deliver drop
  simp only [Act.run_bind, Act.run_note, Act.run_get, Act.run_modify, Act.run_pure, hdeliver,
    hvalue, hended]
  refine ⟨trivial, ?_⟩
  intro display
  have hall := hemitted display
  unfold Emission.shown at hall ⊢
  simp only [List.flatMap_append, hall, hshown]
  simp [Emission.shownOne, Machine.stop]

/-! ### Evaluating -/

theorem run_evaluate_of_runner (h : sandbox.runner = some runner) :
    (sandbox.evaluate code).run machine = (sandbox.ask runner code).run machine := by
  unfold evaluate take
  rw [h]
  rfl

theorem evaluate_of_start_error {error : IoError} (code : Text) (h : sandbox.runner = none)
    (hstart : ((Machine.start sandbox.invocation).run machine).value = .error error) :
    ((sandbox.evaluate code).run machine).value =
        ({ sandbox with runner := none },
          .error (.of .eval (Fault.cannotRun sandbox.program error))) ∧
      ((sandbox.evaluate code).run machine).state =
        ((Machine.start sandbox.invocation).run machine).state := by
  unfold evaluate take spawn
  rw [h]
  simp only [Act.run_bind, hstart]
  exact ⟨rfl, rfl⟩

theorem evaluate_of_start_ok {process : Nat} (code : Text) (h : sandbox.runner = none)
    (hstart : ((Machine.start sandbox.invocation).run machine).value = .ok process) :
    let asked := (sandbox.ask { process } code).run
      ((Machine.start sandbox.invocation).run machine).state
    ((sandbox.evaluate code).run machine).value = asked.value ∧
      ((sandbox.evaluate code).run machine).state = asked.state := by
  unfold evaluate take spawn
  rw [h]
  simp only [Act.run_bind, hstart]
  exact ⟨rfl, rfl⟩

theorem kind_of_ask {fault : Fault}
    (h : ((sandbox.ask runner code).run machine).value.2 = .error fault) : fault.kind = .eval := by
  rcases ask_cases sandbox runner code machine with
    ⟨_, report, _, _, _, hvalue, _⟩ | ⟨_, ⟨_, hvalue, hkind⟩, _⟩ <;> rw [hvalue] at h
  · simp only [Report.result] at h
    split at h <;> cases h
    rfl
  · cases h
    exact hkind

/-- The faults of an evaluation, of whatever it comes to, are those of an evaluator. -/
theorem kind_of_evaluate {fault : Fault}
    (h : ((sandbox.evaluate code).run machine).value.2 = .error fault) : fault.kind = .eval := by
  cases hrunner : sandbox.runner with
  | some runner =>
      rw [run_evaluate_of_runner hrunner] at h
      exact kind_of_ask h
  | none =>
      cases hstart : ((Machine.start sandbox.invocation).run machine).value with
      | error error =>
          rw [(evaluate_of_start_error code hrunner hstart).1] at h
          cases h
          rfl
      | ok process =>
          rw [(evaluate_of_start_ok code hrunner hstart).1] at h
          exact kind_of_ask h

end Sandbox

end HaxePrompt

import HaxePrompt.Proofs.Tool.Holding

/-! # How long a process is kept

The visits of a run of calls are linked: each goes on from what the one before it left behind
(`Visit.Linked`).  So two evaluations reach the same process if and only if each from the one to the
other obtained a report and nothing was reset in between, and a new process is asked for exactly
when there is none to go on with (`lifetimes`).  This holds whatever the processes do.  A process is
named by the place of its start in the record, so two processes are not taken for one that were
given the same number. -/

namespace HaxePrompt

namespace Visit

/-- The visits follow one from the other, the first from what is held at some length of the
record. -/
inductive Linked (program : Text) : Option Nat → Nat → List Visit → Prop where
  | nil {held? : Option Nat} {moment : Nat} : Linked program held? moment []
  | cons {held? : Option Nat} {visit : Visit} {visits : List Visit}
      (hle : visit.before.length ≤ visit.after.length)
      (hsingle : Dealing.Single visit.after)
      (hfollows : visit.Evaluates → visit.Follows program held?)
      (hrest : Linked program visit.left? visit.after.length visits) :
      Linked program held? visit.before.length (visit :: visits)

/-- What is held after some visits. -/
def leftBy (held? : Option Nat) (visits : List Visit) : Option Nat :=
  visits.foldl (fun _ visit => visit.left?) held?

variable {program : Text} {held? : Option Nat} {moment origin : Nat} {visit one two : Visit}
  {visits earlier between later : List Visit}

theorem leftBy_concat (held? : Option Nat) (visits : List Visit) (visit : Visit) :
    leftBy held? (visits ++ [visit]) = visit.left? := by
  simp [leftBy]

theorem evaluates_of_process? (h : visit.process? = some origin) : visit.Evaluates := by
  by_contra hevaluates
  rw [process?_of_reset (not_evaluates_iff.mp hevaluates)] at h
  cases h

theorem left?_eq_some_iff :
    visit.left? = some origin ↔ visit.report?.isSome ∧ visit.process? = some origin := by
  unfold left?
  cases visit.report? <;> simp

theorem Linked.append_right (h : Linked program held? moment (earlier ++ later)) :
    ∃ moment', Linked program (leftBy held? earlier) moment' later := by
  induction earlier generalizing held? moment with
  | nil => exact ⟨moment, h⟩
  | cons visit earlier ih =>
      cases h with
      | cons _ _ _ hrest => exact ih hrest

/-- A process that was started before the visits and is asked in one of them was held. -/
theorem Linked.held_of_process (h : Linked program held? moment (visit :: later))
    (hprocess : visit.process? = some origin) (hlt : origin < moment) : held? = some origin := by
  cases h with
  | cons _ _ hfollows _ =>
      have hfollow := hfollows (evaluates_of_process? hprocess)
      cases held? with
      | none => exact absurd hlt (Nat.not_lt.mpr ((hfollow.fresh rfl).2 origin hprocess))
      | some held =>
          rw [(hfollow.kept held rfl).1] at hprocess
          exact hprocess

/-- So it was left behind by each visit before. -/
theorem Linked.left_of_process (h : Linked program held? moment (between ++ two :: later))
    (hprocess : two.process? = some origin) (hlt : origin < moment) :
    held? = some origin ∧ ∀ visit ∈ between, visit.left? = some origin := by
  induction between generalizing held? moment with
  | nil => exact ⟨h.held_of_process hprocess hlt, nofun⟩
  | cons visit between ih =>
      cases id h with
      | cons hle _ _ hrest =>
          obtain ⟨hleft, hbetween⟩ := ih hrest (Nat.lt_of_lt_of_le hlt hle)
          refine ⟨h.held_of_process (left?_eq_some_iff.mp hleft).2 hlt, ?_⟩
          exact List.forall_mem_cons.mpr ⟨hleft, hbetween⟩

/-- A process that is held is held after visits that all evaluated and obtained a report. -/
theorem Linked.leftBy_of_reports (h : Linked program (some origin) moment (between ++ later))
    (hbetween : ∀ visit ∈ between, visit.Evaluates ∧ visit.report?.isSome) :
    leftBy (some origin) between = some origin := by
  induction between generalizing moment with
  | nil => rfl
  | cons visit between ih =>
      obtain ⟨⟨hevaluates, hreport⟩, hbetween⟩ := List.forall_mem_cons.mp hbetween
      cases h with
      | cons _ _ hfollows hrest =>
          have hleft : visit.left? = some origin :=
            left?_eq_some_iff.mpr ⟨hreport, ((hfollows hevaluates).kept origin rfl).1⟩
          rw [hleft] at hrest
          exact (congrArg (leftBy · between) hleft).trans (ih hrest hbetween)

/-- **Two evaluations reach the same process if and only if all from the first up to the second
obtained a report and nothing was reset between them.** -/
theorem Linked.same_process_iff (h : Linked program held? moment (one :: (between ++ two :: later)))
    (hone : one.Evaluates) (htwo : two.Evaluates) :
    (∃ origin, one.process? = some origin ∧ two.process? = some origin) ↔
      (∀ visit ∈ one :: between, visit.Evaluates → visit.report?.isSome) ∧
        ∀ visit ∈ between, visit.demand ≠ .reset := by
  cases h with
  | cons hle _ hfollows hrest =>
  constructor
  · rintro ⟨origin, hprocess, hprocess'⟩
    obtain ⟨hleft, hbetween⟩ := hrest.left_of_process hprocess' (process?_lt hprocess)
    have hall : ∀ visit ∈ one :: between, visit.left? = some origin :=
      List.forall_mem_cons.mpr ⟨hleft, hbetween⟩
    refine ⟨fun visit hvisit _ => (left?_eq_some_iff.mp (hall visit hvisit)).1, ?_⟩
    intro visit hvisit hreset
    have hkept := hbetween visit hvisit
    rw [left?_of_reset hreset] at hkept
    cases hkept
  · rintro ⟨hreports, hresets⟩
    obtain ⟨report, hreport⟩ := Option.isSome_iff_exists.mp (hreports one List.mem_cons_self hone)
    obtain ⟨origin, hprocess⟩ :=
      Option.isSome_iff_exists.mp ((hfollows hone).asked report hreport).1
    have hleft : one.left? = some origin :=
      left?_eq_some_iff.mpr ⟨by rw [hreport]; rfl, hprocess⟩
    rw [hleft] at hrest
    have hbetween : ∀ visit ∈ between, visit.Evaluates ∧ visit.report?.isSome := by
      intro visit hvisit
      have hevaluates : visit.Evaluates := by
        by_contra hnot
        exact hresets visit hvisit (not_evaluates_iff.mp hnot)
      exact ⟨hevaluates, hreports visit (List.mem_cons_of_mem _ hvisit) hevaluates⟩
    obtain ⟨moment', hlinked⟩ := hrest.append_right
    rw [hrest.leftBy_of_reports hbetween] at hlinked
    cases hlinked with
    | cons _ _ hfollows' _ => exact ⟨origin, hprocess, ((hfollows' htwo).kept origin rfl).1⟩

theorem leftBy_of_resets (hne : between ≠ []) (hbetween : ∀ visit ∈ between, ¬ visit.Evaluates)
    (held? : Option Nat) (visits : List Visit) : leftBy held? (visits ++ between) = none := by
  rw [← List.dropLast_append_getLast hne, ← List.append_assoc, leftBy_concat]
  exact left?_of_reset (not_evaluates_iff.mp (hbetween _ (List.getLast_mem hne)))

theorem exists_last_evaluates (visits : List Visit) :
    (∀ visit ∈ visits, ¬ visit.Evaluates) ∨
      ∃ (before : List Visit) (last : Visit) (between : List Visit),
        visits = before ++ last :: between ∧ last.Evaluates ∧
          ∀ visit ∈ between, ¬ visit.Evaluates := by
  induction visits with
  | nil => exact Or.inl nofun
  | cons visit visits ih =>
      obtain hnone | ⟨before, last, between, rfl, hlast⟩ := ih
      · by_cases hvisit : visit.Evaluates
        · exact Or.inr ⟨[], visit, visits, rfl, hvisit, hnone⟩
        · exact Or.inl (List.forall_mem_cons.mpr ⟨hvisit, hnone⟩)
      · exact Or.inr ⟨visit :: before, last, between, rfl, hlast⟩

/-- Nothing is held after some visits if and only if none of them evaluated, or the last one that
did obtained no report, or a reset came after it. -/
theorem Linked.leftBy_eq_none_iff (h : Linked program none moment (earlier ++ later)) :
    leftBy none earlier = none ↔
      (∀ visit ∈ earlier, ¬ visit.Evaluates) ∨
        ∃ (before : List Visit) (last : Visit) (between : List Visit),
          earlier = before ++ last :: between ∧ last.Evaluates ∧
            (∀ visit ∈ between, ¬ visit.Evaluates) ∧
            (last.report? = none ∨ ∃ visit ∈ between, visit.demand = .reset) := by
  constructor
  · intro hnone
    obtain hnever | ⟨before, last, between, rfl, hlast, hbetween⟩ := exists_last_evaluates earlier
    · exact Or.inl hnever
    refine Or.inr ⟨before, last, between, rfl, hlast, hbetween, ?_⟩
    cases between with
    | cons visit between =>
        have hvisit := hbetween visit List.mem_cons_self
        exact Or.inr ⟨visit, List.mem_cons_self, not_evaluates_iff.mp hvisit⟩
    | nil =>
        rw [leftBy_concat] at hnone
        rw [List.append_assoc] at h
        obtain ⟨moment', hlinked⟩ := h.append_right
        cases hlinked with
        | cons _ _ hfollows _ =>
            refine Or.inl (Option.eq_none_iff_forall_ne_some.mpr fun report hreport => ?_)
            obtain ⟨origin, hprocess⟩ :=
              Option.isSome_iff_exists.mp ((hfollows hlast).asked report hreport).1
            rw [left?_eq_some_iff.mpr ⟨by rw [hreport]; rfl, hprocess⟩] at hnone
            cases hnone
  · rintro (hnever | ⟨before, last, between, rfl, -, hbetween, hend⟩)
    · by_cases hnil : earlier = []
      · rw [hnil]
        rfl
      · exact leftBy_of_resets hnil hnever none []
    · by_cases hnil : between = []
      · subst hnil
        obtain hreport | ⟨_, hmem, _⟩ := hend
        · rw [leftBy_concat, left?, hreport, Option.bind_none]
        · cases hmem
      · rw [List.append_cons]
        exact leftBy_of_resets hnil hbetween none _

/-- **An evaluation asks for a new process if and only if there is none to go on with.** -/
theorem Linked.tries_iff (h : Linked program none moment (earlier ++ two :: later))
    (htwo : two.Evaluates) : two.Tries program ↔ leftBy none earlier = none := by
  obtain ⟨moment', hlinked⟩ := h.append_right
  generalize leftBy none earlier = held? at hlinked
  cases hlinked with
  | cons _ _ hfollows _ =>
      have hfollow := hfollows htwo
      cases held? with
      | none => exact iff_of_true (hfollow.fresh rfl).1 rfl
      | some origin => exact iff_of_false (hfollow.kept origin rfl).2 nofun

theorem Linked.of_mem (h : Linked program held? moment visits) (hvisit : visit ∈ visits) :
    Dealing.Single visit.after ∧ ∃ held?, visit.Evaluates → visit.Follows program held? := by
  induction h with
  | nil => cases hvisit
  | cons _ hsingle hfollows _ ih =>
      obtain rfl | hvisit := List.mem_cons.mp hvisit
      · exact ⟨hsingle, _, hfollows⟩
      · exact ih hvisit

end Visit

namespace Sandbox

open Visit

/-- What is true of the processes over a run of calls. -/
structure KeepsProcesses (program : Text) (visits : List Visit) : Prop where
  /-- Two evaluations are sent to the same process if and only if every evaluation from the first up
  to the second obtained a report and no reset came between the two. -/
  same_process : ∀ (earlier : List Visit) (one : Visit) (between : List Visit) (two : Visit)
      (later : List Visit),
    visits = earlier ++ one :: (between ++ two :: later) → one.Evaluates → two.Evaluates →
      ((∃ origin, one.process? = some origin ∧ two.process? = some origin) ↔
        (∀ visit ∈ one :: between, visit.Evaluates → visit.report?.isSome) ∧
          ∀ visit ∈ between, visit.demand ≠ .reset)
  /-- An evaluation tries to start a new process if and only if there was none before it, or the
  last one before it obtained no report, or a reset came between the two. -/
  new_process : ∀ (earlier : List Visit) (two : Visit) (later : List Visit),
    visits = earlier ++ two :: later → two.Evaluates →
    (two.Tries program ↔
      (∀ visit ∈ earlier, ¬ visit.Evaluates) ∨
        ∃ (before : List Visit) (last : Visit) (between : List Visit),
          earlier = before ++ last :: between ∧ last.Evaluates ∧
            (∀ visit ∈ between, ¬ visit.Evaluates) ∧
            (last.report? = none ∨ ∃ visit ∈ between, visit.demand = .reset))
  single : ∀ visit ∈ visits, Dealing.Single visit.after
  /-- The report that an evaluation obtained, be it of a value or of what was thrown, is its
  result. -/
  reported : ∀ visit ∈ visits, visit.Evaluates → ∀ report, visit.report? = some report →
    visit.result? = some report.result
  failed : ∀ visit ∈ visits, visit.Evaluates → visit.report? = none →
    ∃ fault, visit.result? = some (.error fault) ∧ fault.kind = .eval

variable {π : Type} [Programs π] {sandbox : Sandbox} {machine : Machine (Recorded π)}
  {held? : Option Nat}

/-- A run of calls is a chain of visits. -/
theorem linked_visits (h : sandbox.Holds machine.record held?) (demands : List Demand) :
    Linked sandbox.program held? machine.record.length (sandbox.visits machine demands) := by
  induction demands generalizing sandbox machine held? with
  | nil => exact .nil
  | cons demand demands ih =>
      have hstep := steps_call h demand
      have hrest := ih hstep.holds
      rw [hstep.program_eq] at hrest
      exact .cons hstep.le hstep.holds.single hstep.follows hrest

theorem keepsProcesses_of_linked {program : Text} {moment : Nat} {visits : List Visit}
    (h : Linked program none moment visits) : KeepsProcesses program visits where
  same_process := by
    rintro earlier one between two later rfl hone htwo
    obtain ⟨moment', hlinked⟩ := h.append_right
    exact hlinked.same_process_iff hone htwo
  new_process := by
    rintro earlier two later rfl htwo
    exact (h.tries_iff htwo).trans h.leftBy_eq_none_iff
  single visit hvisit := (h.of_mem hvisit).1
  reported visit hvisit hevaluates report hreport := by
    obtain ⟨-, held?, hfollows⟩ := h.of_mem hvisit
    exact ((hfollows hevaluates).asked report hreport).2
  failed visit hvisit hevaluates hreport := by
    obtain ⟨-, held?, hfollows⟩ := h.of_mem hvisit
    exact (hfollows hevaluates).failed hreport

/-- **What was defined lives as long as its process, and that is as long as it should.**  A new
sandbox is called any number of times to evaluate or to reset, and the processes do as they like.
The visits give the calls and the results as they are without the record. -/
theorem lifetimes (program workingDirectory directory : Text) (colours : Bool)
    (machine : Machine π) (demands : List Demand) :
    let sandbox : Sandbox := { program, workingDirectory, directory, colours }
    let visits := sandbox.visits machine.recording demands
    visits.map (·.demand) = demands ∧
      visits.map (·.result?) = ((sandbox.callAll demands).run machine).value.2 ∧
      KeepsProcesses program visits := by
  intro sandbox visits
  obtain ⟨hdemands, hresults⟩ := visits_results demands sandbox machine.recording
  rw [Machine.forget_recording] at hresults
  have hholds : sandbox.Holds machine.recording.record none := by
    rw [Machine.record_recording]
    exact ⟨Dealing.single_nil, fun _ => ⟨rfl, rfl⟩, nofun⟩
  exact ⟨hdemands, hresults, keepsProcesses_of_linked (linked_visits hholds demands)⟩

/-- Processes that answer as it is written down.  Each goes by the number 0. -/
instance answering : Programs (List (Except IoError Reaction)) where
  run _ _ _ _ script := ({}, script)
  start _ _ _ _ script := (0, script)
  deliver
    | _, _, [] => (.error .brokenPipe, [])
    | _, _, answer :: script => (answer, script)
  stop _ script := script

def trial : Sandbox := { program := "/node", workingDirectory := "/", directory := "/w" }

/-- A report of what was thrown. -/
def thrownReport : Report := { ok := false, message := some "boom" }

def thrownAnswer : Reaction :=
  { output := Utf8.encode (Report.tag ++ thrownReport.write ++ Text.newline) }

/-- The files of a machine that has its program. -/
def trialFiles : FileTree := { nodes := [(["node"], .program "node")] }

/-- A machine whose processes answer once by the report, and then by ending. -/
def trialMachine : Machine (List (Except IoError Reaction)) where
  files := trialFiles
  programs := [.ok thrownAnswer, .ok { ended := some (.exited 3) }]

/-- The machine after the first of two evaluations. -/
def trialMachineAfter (code : Text) : Machine (Recorded (List (Except IoError Reaction))) where
  files := trialMachine.files
  programs :=
    { memory := trialMachine.programs.tail
      record := [.handed 0 (Utf8.encode (request code)) (.ok thrownAnswer), .started 0] }

theorem resolve_trialFiles :
    trialFiles.resolveWhole false [] "/" = .ok (.occupied [] .directory) ∧
      trialFiles.resolveWhole false [] "/node" = .ok (.occupied ["node"] (.program "node")) := by
  have hroot : trialFiles.get? [] = some .directory := by decide +kernel
  have hnode : trialFiles.get? (([] : Location) ++ [("node" : Text)]) = some (.program "node") := by
    decide +kernel
  have hlength : ¬ FileTree.maxName < (Utf8.encode "node").length := by decide +kernel
  constructor
  · have hsplit : Text.split FileTree.separator "/" = [[], []] := by decide +kernel
    rw [FileTree.resolveWhole, if_neg (by decide +kernel), FileTree.resolve,
      if_neg (by decide +kernel), if_neg (by decide +kernel), if_pos (by decide +kernel), hsplit]
    simp only [FileTree.walk, hroot, ne_eq, not_true, if_false, true_or, if_true]
  · have hsplit : Text.split FileTree.separator "/node" = [[], "node"] := by decide +kernel
    rw [FileTree.resolveWhole, if_neg (by decide +kernel), FileTree.resolve,
      if_neg (by decide +kernel), if_neg (by decide +kernel), if_pos (by decide +kernel), hsplit]
    simp only [FileTree.walk, hroot, hnode, hlength, ne_eq, not_true, if_false, true_or, if_true]
    decide +kernel

theorem run_start_trial : (Machine.start trial.invocation).run trialMachine.recording =
    ⟨.ok 0, { trialMachine.recording with
      programs := { memory := trialMachine.programs, record := [.started 0] } }, []⟩ := by
  have henter : trialFiles.enter [] "/" = .ok [] := by
    rw [FileTree.enter, resolve_trialFiles.1]
  have hprogram : trialFiles.programAt [] "/node" = .ok "node" := by
    rw [FileTree.programAt, resolve_trialFiles.2]
  have hprepare : trialMachine.recording.prepare trial.invocation = .ok ("node", []) := by
    unfold Machine.prepare
    change (do
      let directory ← trialFiles.enter [] "/"
      let name ← trialFiles.programAt directory "/node"
      return (name, directory)) = _
    rw [henter]
    change (do
      let name ← trialFiles.programAt [] "/node"
      return (name, _)) = _
    rw [hprogram]
    rfl
  unfold Machine.start
  simp only [Act.run_bind, Act.run_get, hprepare]
  rfl

theorem call_trial :
    let called := (trial.call (.evaluate "throw 'boom';")).run trialMachine.recording
    called.value.1 = { trial with runner := some { process := 0 } } ∧
      called.state = trialMachineAfter "throw 'boom';" := by
  obtain ⟨hvalue, hstate⟩ := evaluate_of_start_ok "throw 'boom';" (show trial.runner = none from rfl)
    (congrArg Step.value run_start_trial)
  rw [run_start_trial] at hvalue hstate
  refine ⟨(congrArg Prod.fst hvalue).trans ?_, hstate.trans rfl⟩
  decide +kernel

/-- Code that throws keeps its process, code that ends it does not. -/
theorem lifetimes_thrown :
    ∃ thrown ending last : Visit,
      trial.visits trialMachine.recording
        [.evaluate "throw 'boom';", .evaluate "process.exit(3);", .evaluate "2;"] =
          [thrown, ending, last] ∧
      thrown.result? = some (.error (.of .eval "boom")) ∧
      (∃ origin, thrown.process? = some origin ∧ ending.process? = some origin) ∧
      (¬ ∃ origin, ending.process? = some origin ∧ last.process? = some origin) ∧
      last.Tries "/node" := by
  have hkeeps : KeepsProcesses "/node" (trial.visits trialMachine.recording
      [.evaluate "throw 'boom';", .evaluate "process.exit(3);", .evaluate "2;"]) :=
    (lifetimes "/node" "/" "/w" false trialMachine _).2.2
  obtain ⟨hvalue, hstate⟩ := call_trial
  have hboom : (trial.visit trialMachine.recording (.evaluate "throw 'boom';")).report? =
      some thrownReport := by
    unfold visit Visit.report? Visit.number? Visit.dealings
    rw [hstate]
    decide +kernel
  have hnone : (Visit.report? <| visit
      ((trial.call (.evaluate "throw 'boom';")).run trialMachine.recording).value.1
      ((trial.call (.evaluate "throw 'boom';")).run trialMachine.recording).state
      (.evaluate "process.exit(3);")) = none := by
    rw [hvalue, hstate]
    decide +kernel
  refine ⟨_, _, _, rfl, ?_, ?_, ?_, ?_⟩
  · exact hkeeps.reported _ List.mem_cons_self ⟨_, rfl⟩ _ hboom
  · refine (hkeeps.same_process [] _ [] _ [_] rfl ⟨_, rfl⟩ ⟨_, rfl⟩).mpr ⟨?_, nofun⟩
    intro visit hvisit _
    rw [List.mem_singleton.mp hvisit, hboom]
    rfl
  · intro hsame
    have hall := (hkeeps.same_process [_] _ [] _ [] rfl ⟨_, rfl⟩ ⟨_, rfl⟩).mp hsame
    have hreport := hall.1 _ List.mem_cons_self ⟨_, rfl⟩
    rw [hnone] at hreport
    cases hreport
  · exact (hkeeps.new_process [_, _] _ [] rfl ⟨_, rfl⟩).mpr
      (Or.inr ⟨[_], _, [], rfl, ⟨_, rfl⟩, nofun, Or.inl hnone⟩)

end Sandbox

end HaxePrompt

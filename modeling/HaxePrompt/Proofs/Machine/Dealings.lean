import HaxePrompt.Machine.Basic

/-! # Dealings with serving processes

`Recorded π` is what programs with a memory of type `π` remember, and beside it a record of the
dealings with serving processes, newest first: which were started, what each was handed and how it
answered, and which were ended.  The programs behave as they do without it.  An action on a machine
with the record comes to the same as one without (`Act.Mirrors`) if its steps do.

A number may be given to a new process when the old one has ended.  So it stands for the process
that was last started under it: `Dealing.origin?` tells which one that is, by the place of its start
in the record, and `Dealing.answers` what it has answered since then. -/

namespace HaxePrompt

variable {π α β : Type}

/-- One dealing with a serving process. -/
inductive Dealing where
  | started (process : Nat)
  /-- It was handed a line, and answered or took none. -/
  | handed (process : Nat) (line : Bytes) (answer : Except IoError Reaction)
  | stopped (process : Nat)

namespace Dealing

/-- Where in a record the process was started that goes by a number: the count of the dealings
before its start. -/
def origin? (process : Nat) : List Dealing → Option Nat
  | [] => none
  | .started other :: earlier =>
    if other = process then some earlier.length else origin? process earlier
  | .handed .. :: earlier => origin? process earlier
  | .stopped _ :: earlier => origin? process earlier

/-- The answers, oldest first, of the process that goes by a number. -/
def answers (process : Nat) : List Dealing → List (Except IoError Reaction)
  | [] => []
  | .started other :: earlier => if other = process then [] else answers process earlier
  | .handed other _ answer :: earlier =>
    if other = process then answers process earlier ++ [answer] else answers process earlier
  | .stopped _ :: earlier => answers process earlier

/-- The numbers of the processes that were started and not ended. -/
def running : List Dealing → List Nat
  | [] => []
  | .started process :: earlier => process :: running earlier
  | .handed .. :: earlier => running earlier
  | .stopped process :: earlier => (running earlier).erase process

/-- The number of the process that was handed a line. -/
def handedTo? (line : Bytes) : Dealing → Option Nat
  | .handed process other _ => if other = line then some process else none
  | _ => none

def isStart : Dealing → Bool
  | .started _ => true
  | _ => false

/-- At no time were two processes running. -/
def Single (record : List Dealing) : Prop :=
  ∀ past, past <:+ record → (running past).length ≤ 1

theorem single_nil : Single [] := by
  intro past hpast
  rw [List.suffix_nil.mp hpast]
  exact Nat.zero_le 1

theorem Single.cons {dealing : Dealing} {record : List Dealing} (h : Single record)
    (hrunning : (running (dealing :: record)).length ≤ 1) : Single (dealing :: record) := by
  intro past hpast
  obtain rfl | hpast := List.suffix_cons_iff.mp hpast
  · exact hrunning
  · exact h past hpast

theorem origin?_lt {process origin : Nat} :
    ∀ {record : List Dealing}, origin? process record = some origin → origin < record.length
  | .started other :: earlier, h => by
      by_cases hother : other = process
      · simp only [origin?, if_pos hother, Option.some.injEq] at h
        simp [← h]
      · rw [origin?, if_neg hother] at h
        exact Nat.lt_succ_of_lt (origin?_lt h)
  | .handed .. :: _, h => Nat.lt_succ_of_lt (origin?_lt h)
  | .stopped _ :: _, h => Nat.lt_succ_of_lt (origin?_lt h)

end Dealing

/-! ### The record -/

/-- What programs remember, with the record of the dealings with their processes. -/
structure Recorded (π : Type) where
  memory : π
  /-- The record, newest dealing first. -/
  record : List Dealing := []

instance [Programs π] : Programs (Recorded π) where
  run name directory arguments files recorded :=
    let (completion, memory) := Programs.run name directory arguments files recorded.memory
    (completion, { recorded with memory })
  start name directory arguments files recorded :=
    let (process, memory) := Programs.start name directory arguments files recorded.memory
    (process, { memory, record := .started process :: recorded.record })
  deliver process line recorded :=
    let (answer, memory) := Programs.deliver process line recorded.memory
    (answer, { memory, record := .handed process line answer :: recorded.record })
  stop process recorded :=
    { memory := Programs.stop process recorded.memory
      record := .stopped process :: recorded.record }

namespace Machine

/-- The machine with an empty record. -/
def recording (machine : Machine π) : Machine (Recorded π) where
  files := machine.files
  directory := machine.directory
  temporary := machine.temporary
  searchPath := machine.searchPath
  programs := { memory := machine.programs }

def forget (machine : Machine (Recorded π)) : Machine π where
  files := machine.files
  directory := machine.directory
  temporary := machine.temporary
  searchPath := machine.searchPath
  programs := machine.programs.memory

def record (machine : Machine (Recorded π)) : List Dealing := machine.programs.record

@[simp] theorem forget_recording (machine : Machine π) : machine.recording.forget = machine := rfl

@[simp] theorem record_recording (machine : Machine π) : machine.recording.record = [] := rfl

theorem prepare_forget (machine : Machine (Recorded π)) (invocation : Invocation) :
    machine.forget.prepare invocation = machine.prepare invocation := rfl

end Machine

/-! ### The record changes nothing -/

/-- An action on a machine with a record comes to the same as one on the machine without. -/
structure Act.Mirrors (act : Act (Machine (Recorded π)) α) (plain : Act (Machine π) α) : Prop where
  value : ∀ machine, (act.run machine).value = (plain.run machine.forget).value
  state : ∀ machine, (act.run machine).state.forget = (plain.run machine.forget).state
  emitted : ∀ machine, (act.run machine).emitted = (plain.run machine.forget).emitted

namespace Act

theorem mirrors_pure (a : α) : (pure a : Act (Machine (Recorded π)) α).Mirrors (pure a) :=
  ⟨fun _ => rfl, fun _ => rfl, fun _ => rfl⟩

theorem mirrors_emitAll (emissions : List Emission) :
    (emitAll emissions : Act (Machine (Recorded π)) Unit).Mirrors (emitAll emissions) :=
  ⟨fun _ => rfl, fun _ => rfl, fun _ => rfl⟩

theorem mirrors_emit (emission : Emission) :
    (emit emission : Act (Machine (Recorded π)) Unit).Mirrors (emit emission) :=
  mirrors_emitAll [emission]

theorem mirrors_note (notice : Notice) :
    (note notice : Act (Machine (Recorded π)) Unit).Mirrors (note notice) :=
  mirrors_emit (.note notice)

theorem Mirrors.bind {act : Act (Machine (Recorded π)) α} {plain : Act (Machine π) α}
    {next : α → Act (Machine (Recorded π)) β} {next' : α → Act (Machine π) β}
    (h : act.Mirrors plain) (hnext : ∀ a, (next a).Mirrors (next' a)) :
    (act >>= next).Mirrors (plain >>= next') where
  value machine := by
    simp only [run_bind]
    rw [(hnext _).value, h.value, h.state]
  state machine := by
    simp only [run_bind]
    rw [(hnext _).state, h.value, h.state]
  emitted machine := by
    simp only [run_bind]
    rw [(hnext _).emitted, h.emitted, h.value, h.state]

end Act

namespace Machine

variable [Programs π]

theorem mirrors_start (invocation : Invocation) :
    (start invocation : Act (Machine (Recorded π)) _).Mirrors (start invocation) := by
  refine ⟨fun machine => ?_, fun machine => ?_, fun machine => ?_⟩ <;>
  · unfold start
    simp only [Act.run_bind, Act.run_get]
    rw [prepare_forget]
    cases machine.prepare invocation <;> rfl

theorem mirrors_deliver (process : Nat) (line : Bytes) :
    (deliver process line : Act (Machine (Recorded π)) _).Mirrors (deliver process line) :=
  ⟨fun _ => rfl, fun _ => rfl, fun _ => rfl⟩

theorem mirrors_stop (process : Nat) :
    (stop process : Act (Machine (Recorded π)) Unit).Mirrors (stop process) :=
  ⟨fun _ => rfl, fun _ => rfl, fun _ => rfl⟩

/-! ### What is written down -/

theorem record_deliver (process : Nat) (line : Bytes) (machine : Machine (Recorded π)) :
    ((deliver process line).run machine).state.record =
      .handed process line ((deliver process line).run machine).value :: machine.record := rfl

theorem record_stop (process : Nat) (machine : Machine (Recorded π)) :
    ((stop process).run machine).state.record = .stopped process :: machine.record := rfl

/-- A program that cannot be run leaves no trace. -/
theorem record_start (invocation : Invocation) (machine : Machine (Recorded π)) :
    (∃ error, ((start invocation).run machine).value = .error error ∧
      ((start invocation).run machine).state.record = machine.record) ∨
    ∃ process, ((start invocation).run machine).value = .ok process ∧
      ((start invocation).run machine).state.record = .started process :: machine.record := by
  unfold start
  simp only [Act.run_bind, Act.run_get]
  cases machine.prepare invocation with
  | error error => exact Or.inl ⟨error, rfl, rfl⟩
  | ok prepared => exact Or.inr ⟨_, rfl, rfl⟩

end Machine

end HaxePrompt

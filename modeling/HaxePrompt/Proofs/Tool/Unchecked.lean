import HaxePrompt.Proofs.Turn.Checks
import HaxePrompt.Tool.Workshop

/-! # The tools rely on no conditions

The compiler and the sandbox show what programs print and write to the log, but they neither move
a turn on nor roll an entry back.  So the toolchain of a workshop leaves no conditions
(`Workshop.leavesNoChecks_toolchain`), whatever the installed programs do.  Each action of the
machine, the compiler and the sandbox is put together of ones that leave none. -/

namespace HaxePrompt

variable {π : Type}

/-! ### The machine -/

namespace Machine

theorem unchecked_read (path : Text) : (read path : Act (Machine π) _).Unchecked :=
  Act.unchecked_get.bind fun _ => Act.unchecked_pure _

theorem unchecked_write (path : Text) (contents : Bytes) :
    (write path contents : Act (Machine π) _).Unchecked := by
  refine Act.unchecked_get.bind fun machine => ?_
  split
  · exact Act.unchecked_pure _
  · exact (Act.unchecked_modify _).bind fun _ => Act.unchecked_pure _

variable [Programs π]

theorem unchecked_run (invocation : Invocation) :
    (run invocation : Act (Machine π) _).Unchecked := by
  refine Act.unchecked_get.bind fun machine => ?_
  split
  · exact Act.unchecked_pure _
  · exact (Act.unchecked_modify _).bind fun _ => Act.unchecked_pure _

theorem unchecked_start (invocation : Invocation) :
    (start invocation : Act (Machine π) _).Unchecked := by
  refine Act.unchecked_get.bind fun machine => ?_
  split
  · exact Act.unchecked_pure _
  · exact (Act.unchecked_modify _).bind fun _ => Act.unchecked_pure _

theorem unchecked_deliver (process : Nat) (line : Bytes) :
    (deliver process line : Act (Machine π) _).Unchecked :=
  Act.unchecked_get.bind fun _ => (Act.unchecked_modify _).bind fun _ => Act.unchecked_pure _

theorem unchecked_stop (process : Nat) : (stop process : Act (Machine π) Unit).Unchecked :=
  Act.unchecked_modify _

end Machine

/-! ### The compiler -/

namespace Compiler

theorem unchecked_readOutput (compiler : Compiler) (diagnostics : List Diagnostic) :
    (compiler.readOutput diagnostics : Act (Machine π) _).Unchecked := by
  refine (Machine.unchecked_read _).bind fun contents => ?_
  split
  · exact Act.unchecked_pure _
  · split <;> exact Act.unchecked_pure _

theorem unchecked_noteDiagnostics (diagnostics : List Diagnostic) :
    (noteDiagnostics diagnostics : Act (Machine π) Unit).Unchecked := by
  apply Act.unchecked_emitAll
  unfold Emission.checks
  rw [List.filterMap_filterMap, List.filterMap_eq_nil_iff]
  intro diagnostic _
  cases diagnostic.line? <;> rfl

variable [Programs π]

theorem unchecked_compile (compiler : Compiler) (source : Text) :
    (compiler.compile source : Act (Machine π) _).Unchecked := by
  refine (Machine.unchecked_write _ _).bind fun written => ?_
  split
  · exact Act.unchecked_pure _
  · refine (Act.unchecked_note _).bind fun _ => (Machine.unchecked_run _).bind fun completed => ?_
    split
    · exact Act.unchecked_pure _
    · refine (unchecked_noteDiagnostics _).bind fun _ => ?_
      split
      · exact unchecked_readOutput compiler _
      · exact (Act.unchecked_note _).bind fun _ => Act.unchecked_pure _

end Compiler

/-! ### The sandbox -/

namespace Sandbox

theorem unchecked_attend (runner : Runner) (reaction : Reaction) :
    (attend runner reaction : Act (Machine π) Runner).Unchecked := by
  refine Act.Unchecked.bind (fun _ => rfl) fun _ =>
    Act.Unchecked.bind (Act.unchecked_emitAll ?_) fun _ => Act.unchecked_pure _
  unfold Emission.checks
  rw [List.filterMap_map, List.filterMap_eq_nil_iff]
  exact fun _ _ => rfl

variable [Programs π]

theorem unchecked_drop (sandbox : Sandbox) :
    (sandbox.drop : Act (Machine π) Sandbox).Unchecked := by
  unfold drop
  split
  · exact (Machine.unchecked_stop _).bind fun _ => Act.unchecked_pure _
  · exact (Act.unchecked_pure _).bind fun _ => Act.unchecked_pure _

theorem unchecked_take (sandbox : Sandbox) :
    (sandbox.take : Act (Machine π) _).Unchecked := by
  unfold take
  split
  · exact Act.unchecked_pure _
  · refine (Machine.unchecked_start _).bind fun started => ?_
    split
    · exact Act.unchecked_pure _
    · exact (Act.unchecked_note _).bind fun _ => Act.unchecked_pure _

theorem unchecked_ask (sandbox : Sandbox) (runner : Runner) (code : Text) :
    (sandbox.ask runner code : Act (Machine π) _).Unchecked := by
  refine (Act.unchecked_note _).bind fun _ => (Machine.unchecked_deliver _ _).bind fun answer => ?_
  split
  · exact (unchecked_drop _).bind fun _ => Act.unchecked_pure _
  · refine (unchecked_attend _ _).bind fun runner => ?_
    split
    · exact Act.unchecked_pure _
    · exact (Act.unchecked_note _).bind fun _ => (unchecked_drop _).bind fun _ =>
        Act.unchecked_pure _
    · exact (unchecked_drop _).bind fun _ => Act.unchecked_pure _

theorem unchecked_evaluate (sandbox : Sandbox) (code : Text) :
    (sandbox.evaluate code : Act (Machine π) _).Unchecked := by
  refine (unchecked_take sandbox).bind fun taken => ?_
  split
  · exact Act.unchecked_pure _
  · exact unchecked_ask sandbox _ code

theorem unchecked_reset (sandbox : Sandbox) :
    (sandbox.reset : Act (Machine π) Sandbox).Unchecked :=
  (Act.unchecked_note _).bind fun _ => unchecked_drop sandbox

end Sandbox

/-! ### The workshop -/

namespace Workshop

/-- **The toolchain of a workshop relies on no conditions**, whatever the installed programs do. -/
theorem leavesNoChecks_toolchain [Programs π] :
    (toolchain : Toolchain (Workshop π)).LeavesNoChecks where
  compile source :=
    Act.unchecked_get.bind fun workshop =>
      (workshop.compiler.unchecked_compile source).on _ _
  evaluate code :=
    Act.unchecked_get.bind fun workshop =>
      ((workshop.sandbox.unchecked_evaluate code).on _ _).bind fun _ =>
        (Act.unchecked_modify _).bind fun _ => Act.unchecked_pure _
  reset :=
    Act.unchecked_get.bind fun workshop =>
      (workshop.sandbox.unchecked_reset.on _ _).bind fun _ => Act.unchecked_modify _

end Workshop

end HaxePrompt

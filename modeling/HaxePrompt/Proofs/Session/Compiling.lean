import HaxePrompt.Proofs.Assembly.LineCompiler
import HaxePrompt.Proofs.Session.Accepted

/-! # The session compiles between two turns

`History.lastKept?` reads off the events of a session which entry was kept last since the session
was forgotten.  As long as there is none the history is empty; once there is one, the compiler
accepts the program of the history with the escapes of that entry, and the newest code is found in
its output (`compiles_between_turns`).

The turn that kept the entry is the witness: what it had compiled is the program of the history
it left (`Engine.TurnsTo.compiles`).  Any other turn leaves the history as it was, so `Settled` is
an invariant of every run. -/

namespace HaxePrompt

/-- The input of a turn after which its entry is in the history. -/
def Event.kept? : Event → Option Text
  | .answered input answer =>
    if answer.isValue ∧ (Entry.read input).kind ∈ [.importing, .binding, .expression] then
      some input
    else none
  | .cleared => none

theorem Event.kept?_eq_some_iff {input kept : Text} {answer : Answer} :
    Event.kept? (.answered input answer) = some kept ↔ (answer.isValue = true ∧
      (Entry.read input).kind ∈ [.importing, .binding, .expression]) ∧ input = kept := by
  rw [Event.kept?, Option.ite_none_right_eq_some, Option.some_inj]

namespace History

/-- The input whose entry was kept last since the session was forgotten. -/
def lastKept? (events : List Event) : Option Text :=
  ((sinceClear events).filterMap Event.kept?).getLast?

/-- The compiler accepts the program of the history with the escapes of an entry, and the newest
code is found in its output. -/
def Compiles (compile : Text → Except (List Diagnostic) Compiled) (history : History)
    (entry : Entry) : Prop :=
  ∃ part compiled code, entry.part? = some part ∧
    compile (Program.assemble history.imports history.statements entry) = .ok compiled ∧
    Delta.extract part compiled.output = .ok code

/-- What holds of the history after the events: it is empty with nothing kept, or it compiles
with the entry kept last. -/
def Settled (compile : Text → Except (List Diagnostic) Compiled) (events : List Event)
    (history : History) : Prop :=
  (lastKept? events = none ∧ history = {}) ∨
    ∃ input, lastKept? events = some input ∧ history.Compiles compile (Entry.read input)

/-! ### The entry kept last -/

theorem lastKept?_concat_cleared (events : List Event) :
    lastKept? (events ++ [.cleared]) = none := by
  unfold lastKept?
  rw [sinceClear_concat_cleared]
  rfl

theorem lastKept?_concat_answered (events : List Event) (input : Text) (answer : Answer) :
    lastKept? (events ++ [.answered input answer]) =
      (Event.kept? (.answered input answer)).or (lastKept? events) := by
  unfold lastKept?
  rw [sinceClear_concat_answered, List.filterMap_append, List.getLast?_append]
  congr 1
  cases hkept : Event.kept? (.answered input answer) with
  | none => rw [List.filterMap_cons_none hkept]; rfl
  | some kept => rw [List.filterMap_cons_some hkept]; rfl

theorem after_of_kept?_eq_none {input : Text} {answer : Answer}
    (h : Event.kept? (.answered input answer) = none) (history : History) :
    history.after (.answered input answer) = history := by
  rw [after]
  split
  · rename_i hvalue
    apply keep_eq_self
    intro part hkind
    have hkind' : (Entry.read input).kind ∈ [.importing, .binding, .expression] := by
      cases part <;> simp_all [keptKinds]
    rw [Event.kept?_eq_some_iff.mpr ⟨⟨hvalue, hkind'⟩, rfl⟩] at h
    cases h
  · rfl

end History

namespace Engine

variable {σ : Type} {tools : Toolchain σ} {before after : Engine σ} {calls : List Call}
  {answer : Answer} {compile : Text → Except (List Diagnostic) Compiled}

/-- The turn that kept an entry has had the program of its history compiled. -/
theorem TurnsTo.compiles {input kept : Text} (hcompile : tools.CompilesAs compile)
    (h : TurnsTo tools (Entry.read input) before calls answer after)
    (hkept : Event.kept? (.answered input answer) = some kept) :
    input = kept ∧ after.history.Compiles compile (Entry.read input) := by
  obtain ⟨⟨hvalue, hkind⟩, rfl⟩ := Event.kept?_eq_some_iff.mp hkept
  refine ⟨rfl, ?_⟩
  have htransient : (Entry.read input).transient = false := by
    rw [Bool.eq_false_iff, ne_eq, Entry.transient_read_iff]
    intro hquery
    rw [hquery] at hkind
    simp at hkind
  cases h with
  | skip | list | refuse | lose | fail => cases hvalue
  | @succeed part compiled code _ hp hc hx he =>
      refine ⟨part, compiled, code, hp, ?_, hx⟩
      -- what was compiled is the program of the staged history, and that is the history now
      unfold compileStep at hc
      rw [hcompile] at hc
      rw [settled_history, History.keep, if_neg (by simp [htransient])]
      exact hc

/-- One request keeps the history settled. -/
theorem settled_serve (hcompile : tools.CompilesAs compile) {events : List Event}
    (h : before.history.Settled compile events) (request : Request) :
    ((serve tools request).run before).state.history.Settled compile
      (events ++ [((serve tools request).run before).value]) := by
  cases request with
  | clear =>
      left
      exact ⟨History.lastKept?_concat_cleared events, rfl⟩
  | submit input =>
      obtain ⟨calls, hturn⟩ := turnsTo_submit tools input before
      have hhistory := History.history_serve tools (.submit input) before
      rw [value_serve_submit] at hhistory ⊢
      unfold History.Settled
      rw [History.lastKept?_concat_answered]
      cases hkept : Event.kept? (.answered input ((submit tools input).run before).value) with
      | some kept =>
          obtain ⟨rfl, hcompiles⟩ := hturn.compiles hcompile hkept
          exact Or.inr ⟨input, rfl, hcompiles⟩
      | none =>
          rw [hhistory, History.after_of_kept?_eq_none hkept, Option.none_or]
          exact h

theorem settled_serveAll (hcompile : tools.CompilesAs compile) (requests : List Request)
    {events : List Event} (h : before.history.Settled compile events) :
    ((serveAll tools requests).run before).state.history.Settled compile
      (events ++ ((serveAll tools requests).run before).value) := by
  induction requests generalizing before events with
  | nil =>
      change before.history.Settled compile (events ++ [])
      rw [List.append_nil]
      exact h
  | cons request rest ih =>
      have hstep := ih (settled_serve hcompile h request)
      rw [List.append_assoc, List.singleton_append] at hstep
      rw [state_serveAll_cons, value_serveAll_cons]
      exact hstep

/-- **The session compiles between two turns.**  Where the compiler goes by the program alone,
after any requests to a fresh engine either no entry was kept since the session was last forgotten
and the history is empty, or the compiler accepts the program of the history with the escapes of
the entry kept last, with an output in which the newest code is found. -/
theorem compiles_between_turns (hcompile : tools.CompilesAs compile) (showWarnings : Bool) (s : σ)
    (requests : List Request) :
    let session := (serveAll tools requests).run (fresh showWarnings s)
    session.value.map Event.request = requests ∧
      ((History.lastKept? session.value = none ∧ session.state.history = {}) ∨
        ∃ input, History.lastKept? session.value = some input ∧
          session.state.history.Compiles compile (Entry.read input)) := by
  intro session
  have hfresh : (fresh showWarnings s).history.Settled compile [] := Or.inl ⟨rfl, rfl⟩
  refine ⟨requests_serveAll tools requests _, ?_⟩
  exact settled_serveAll hcompile requests hfresh

/-- A session that is forgotten once, then keeps a declaration over two lines and an import, and
in the end fails to keep an expression and asks for a type. -/
def resumed : List Request :=
  [.submit "a", .clear, .submit "var a = [1,\n2]", .submit "import c.D", .submit "throw a",
    .submit "$type(a)"]

theorem compiles_between_turns_resumed :
    let compile := LineCompiler.compile "Repl;\n" "ready;\n"
    let evaluate : Text → Except Fault (Option Text) := fun code =>
      if Text.occursIn "throw" code then .error (.of .eval "thrown") else .ok none
    let session := (serveAll (Toolchain.ofFunctions compile evaluate) resumed).run (fresh false ())
    session.state.history = { imports := ["import c.D;"], statements := ["var a = [1,\n2];"] } ∧
      session.state.history.Compiles compile (Entry.read "import c.D") := by
  intro compile evaluate session
  have hrun : History.lastKept? session.value = some "import c.D".toList ∧
      session.state.history =
        { imports := ["import c.D;"], statements := ["var a = [1,\n2];"] } := by decide +kernel
  obtain ⟨hlast, hhistory⟩ := hrun
  refine ⟨hhistory, ?_⟩
  rcases (compiles_between_turns (Toolchain.compilesAs_ofFunctions compile evaluate) false ()
    resumed).2 with ⟨hnone, _⟩ | ⟨input, hinput, hcompiles⟩
  · rw [hlast] at hnone
    cases hnone
  · rw [hlast] at hinput
    cases hinput
    exact hcompiles

end Engine

end HaxePrompt

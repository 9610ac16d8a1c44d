import HaxePrompt.Proofs.Assembly.LineCompiler
import HaxePrompt.Proofs.Turn.Record

/-! # The code of an entry stands alone

With the compiler that goes by lines, the evaluator is given the prologue, the epilogue, the
statement without a value and the entry's own source with its escapes (`isolated`), and nothing
of the entries before it, as long as no input holds the text of the marker
(`evaluated_eq_isolated`).

The invariant is that no source of the history holds the text of the marker (`Unmarked`).  It
makes the output fall apart at the tokens exactly where the program was put together
(`extract_program`). -/

namespace HaxePrompt

/-- The code that a call hands to the evaluator. -/
def Call.code? : Call → Option Text
  | .evaluate code => some code
  | .compile _ | .reset => none

/-- The code that a turn hands to the evaluator, in order. -/
def Turn.evaluated (turn : Turn) : List Text := turn.calls.filterMap Call.code?

namespace LineCompiler

/-- What is handed to the evaluator for an entry, whatever was entered before it. -/
def isolated (prologue epilogue : Text) (entry : Entry) : List Text :=
  match entry.kind with
  | .empty | .listing => []
  | .importing => [prologue ++ epilogue ++ Delta.noValue]
  | .binding | .typeQuery | .expression =>
    [prologue ++ epilogue ++ Delta.noValue ++
      (entry.source ++ Program.escapes entry ++ Text.newline)]

theorem isolated_eq (prologue epilogue : Text) (entry : Entry) :
    isolated prologue epilogue entry =
      match entry.part? with
      | none => []
      | some .imports => [prologue ++ epilogue ++ Delta.noValue]
      | some .statements =>
        [prologue ++ epilogue ++ Delta.noValue ++
          (entry.source ++ Program.escapes entry ++ Text.newline)] := by
  unfold isolated Entry.part?
  cases entry.kind <;> rfl

/-- The sources of the history do not hold the text of the marker. -/
def Unmarked (history : History) : Prop := history.All fun _ source => Marker.Absent source

variable {σ : Type} {tools : Toolchain σ} {prologue epilogue input : Text}
  {before after : Engine σ} {calls : List Call} {answer : Answer}

/-- The code found in the output for a turn is that of its entry alone. -/
theorem extract_program (hp : ¬ Marker.token <:+: prologue) (he : ¬ Marker.token <:+: epilogue)
    (hinput : Marker.Absent input) (hbefore : Unmarked before.history) {part : Part}
    (hpart : (Entry.read input).part? = some part) :
    ∃ code, isolated prologue epilogue (Entry.read input) = [code] ∧
      Delta.extract part (output prologue epilogue (before.program (Entry.read input))) =
        .ok code := by
  have himports : ∀ s ∈ before.history.imports, Marker.Absent s := hbefore .imports
  have hstatements : ∀ s ∈ before.history.statements, Marker.Absent s := hbefore .statements
  rw [isolated_eq, hpart]
  unfold Delta.extract Engine.program History.stage
  rw [hpart]
  cases part with
  | imports =>
      refine ⟨_, rfl, ?_⟩
      simp only [History.set, History.get]
      rw [split_output_assemble hp he]
      · exact Delta.ofPieces_imports prologue epilogue _
      · intro s hs
        rcases List.mem_append.mp hs with hs | hs
        · exact himports s hs
        · rw [List.mem_singleton.mp hs]
          exact Program.absent_source hinput hpart
      · rw [Program.escapes_of_imports hpart, Program.extendLast_nil]
        exact hstatements
  | statements =>
      refine ⟨_, rfl, ?_⟩
      simp only [History.set, History.get]
      rw [split_output_assemble hp he himports]
      · rw [Program.extendLast_concat, Program.blocks_concat, List.map_append, List.map_singleton]
        exact Delta.ofPieces_statements prologue _ epilogue _
      · rw [Program.extendLast_concat]
        intro s hs
        rcases List.mem_append.mp hs with hs | hs
        · exact hstatements s hs
        · rw [List.mem_singleton.mp hs]
          exact Program.absent_extended hinput hpart

theorem evaluated_of_turnsTo (hcompile : tools.CompilesAs (compile prologue epilogue))
    (hp : ¬ Marker.token <:+: prologue) (he : ¬ Marker.token <:+: epilogue)
    (hinput : Marker.Absent input) (hbefore : Unmarked before.history)
    (h : Engine.TurnsTo tools (Entry.read input) before calls answer after) :
    calls.filterMap Call.code? = isolated prologue epilogue (Entry.read input) := by
  have hstep : (Engine.compileStep tools before (Entry.read input)).value =
      .ok { output := output prologue epilogue (before.program (Entry.read input)) } :=
    hcompile _ _
  -- whatever code is found in the compiled output, it is that of the entry alone
  have hfound : ∀ {part : Part} {compiled : Compiled} {found : Except Fault Text},
      (Entry.read input).part? = some part →
      (Engine.compileStep tools before (Entry.read input)).value = .ok compiled →
      Delta.extract part compiled.output = found →
      ∃ code, isolated prologue epilogue (Entry.read input) = [code] ∧ found = .ok code := by
    intro part compiled found hpart hc hx
    obtain ⟨code, hisolated, hcode⟩ := extract_program hp he hinput hbefore hpart
    rw [hstep] at hc
    cases hc
    exact ⟨code, hisolated, hx.symm.trans hcode⟩
  cases h with
  | skip hpart hk =>
      rw [isolated_eq, hpart]
      rfl
  | list hpart hk =>
      rw [isolated_eq, hpart]
      rfl
  | refuse hpart hc =>
      rw [hstep] at hc
      cases hc
  | lose hpart hc hx =>
      obtain ⟨code, _, hcode⟩ := hfound hpart hc hx
      cases hcode
  | fail hpart hc hx hrun =>
      obtain ⟨code, hisolated, hcode⟩ := hfound hpart hc hx
      cases hcode
      exact hisolated.symm
  | succeed hpart hc hx hrun =>
      obtain ⟨code, hisolated, hcode⟩ := hfound hpart hc hx
      cases hcode
      exact hisolated.symm

/-- Turns without the marker in their inputs hand the code of their entries alone to the
evaluator. -/
theorem evaluated_observeAll (hcompile : tools.CompilesAs (compile prologue epilogue))
    (hp : ¬ Marker.token <:+: prologue) (he : ¬ Marker.token <:+: epilogue) (inputs : List Text)
    (hinputs : ∀ input ∈ inputs, Marker.Absent input) (before : Engine σ)
    (hbefore : Unmarked before.history) :
    ∀ turn ∈ ((Engine.observeAll tools inputs).run before).value,
      turn.evaluated = isolated prologue epilogue (Entry.read turn.input) := by
  induction inputs generalizing before with
  | nil =>
      intro turn hturn
      cases hturn
  | cons input rest ih =>
      have hinput : Marker.Absent input := hinputs input List.mem_cons_self
      have h := Engine.turnsTo_observe tools input before
      intro turn hturn
      rw [Engine.value_observeAll_cons] at hturn
      rcases List.mem_cons.mp hturn with rfl | hturn
      · exact evaluated_of_turnsTo hcompile hp he hinput hbefore h
      · apply ih _ _ _ turn hturn
        · exact fun i hi => hinputs i (List.mem_cons_of_mem input hi)
        · exact h.all (fun part hpart _ => Program.absent_source hinput hpart) hbefore

/-- **The code of an entry stands alone.**  In a session with the compiler that goes by lines,
whose inputs are all without the text of the marker, every turn hands the evaluator what
`isolated` says of its entry.  The entries before it have no part in it, and neither has what the
evaluator answered. -/
theorem evaluated_eq_isolated (hcompile : tools.CompilesAs (compile prologue epilogue))
    (hp : ¬ Marker.token <:+: prologue) (he : ¬ Marker.token <:+: epilogue)
    (showWarnings : Bool) (s : σ) (inputs : List Text)
    (hinputs : ∀ input ∈ inputs, Marker.Absent input) :
    ((Engine.observeAll tools inputs).run (.fresh showWarnings s)).value.map Turn.input = inputs ∧
      ∀ turn ∈ ((Engine.observeAll tools inputs).run (.fresh showWarnings s)).value,
        turn.evaluated = isolated prologue epilogue (Entry.read turn.input) := by
  refine ⟨Engine.inputs_observeAll tools inputs _, ?_⟩
  exact evaluated_observeAll hcompile hp he inputs hinputs _ (History.all_empty _)

/-- An import first, an array over two lines, a question about its type, and its name. -/
theorem evaluated_eq_isolated_array :
    ((Engine.observeAll
        (Toolchain.ofFunctions (compile "Repl;\n" "ready;\n") fun _ => .ok none)
        ["import haxe.Json", "var a = [1,\n<2]", "$type(a)", "a"]).run
      (.fresh false ())).value.map Turn.evaluated =
    ([["Repl;\nready;\nundefined;\n"],
      [("Repl;\nready;\nundefined;\n" : Text) ++ "var a = [1,\n<2];" ++
        Program.valueEscape "a" ++ Program.silentEscape ++ "\n"],
      ["Repl;\nready;\nundefined;\n$type(a);\n"],
      [("Repl;\nready;\nundefined;\na;" : Text) ++ Program.valueEscape "a" ++ "\n"]] :
      List (List Text)) := by
  have habsent : ∀ input ∈ (["import haxe.Json", "var a = [1,\n<2]", "$type(a)", "a"] : List Text),
      Marker.Absent input := by
    unfold Marker.Absent
    decide +kernel
  obtain ⟨hinputs, hturns⟩ := evaluated_eq_isolated
    (Toolchain.compilesAs_ofFunctions (compile "Repl;\n" "ready;\n") fun _ => .ok none)
    (Marker.absent_of_not_mem (by decide)).no_token
    (Marker.absent_of_not_mem (by decide)).no_token false () _ habsent
  rw [List.map_congr_left hturns]
  change List.map ((fun input => isolated "Repl;\n" "ready;\n" (Entry.read input)) ∘ Turn.input)
    _ = _
  rw [← List.map_map, hinputs]
  decide +kernel

end LineCompiler

end HaxePrompt

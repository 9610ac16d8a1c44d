import HaxePrompt.Proofs.Entry.Division
import HaxePrompt.Proofs.Shell.Stopping
import HaxePrompt.Shell.Loop

/-! # The inputs of a move

To carry out a move is to take some inputs through turns, one after the other (`inputsOf`), and to
show other things before and after (`takesTurns_carryOut`).  An input that the dialogue evaluates is
the only one of its move.  A file that is loaded gives those of its blocks up to the first that
fails; of these only the last block of the file may have something open in it
(`isLast_of_isUnclosed`), which makes it an input as well.

Every turn tells the log of its input, so that an input that was taken through one is found there
(`classified_mem_submitAll`). -/

namespace HaxePrompt

/-- No turn is told of among the emissions. -/
def Emission.TellsNoTurn (emissions : List Emission) : Prop :=
  ∀ raw kind, .note (.classified raw kind) ∉ emissions

/-- Only the last block of a script may have something open in it. -/
theorem Script.isLast_of_isUnclosed {script : Text} {block : Script.Block}
    (hblock : block ∈ blocks script) (hopen : Delimiters.isUnclosed block.text = true) :
    (blocks script).getLast? = some block := by
  obtain ⟨ranges, hdivides, hblocks⟩ :=
    areBlocksOf_blocksFrom none 1 (Text.lines script) 1 [] rfl rfl
  have hall : blocks script = ranges.map (LineRange.block 1 (Text.lines script)) := hblocks
  rw [hall] at hblock ⊢
  obtain ⟨range, hrange, rfl⟩ := List.mem_map.mp hblock
  rw [List.getLast?_map, (hdivides.ends range hrange hopen).2]
  rfl

namespace Shell

section Turns

variable {σ : Type} {tools : Toolchain σ} {input : Text}

theorem classified_mem_submitShown (tools : Toolchain σ) (input : Text) (engine : Engine σ) :
    .note (.classified (Entry.read input).raw (Entry.read input).kind) ∈
      ((submitShown tools input).run engine).emitted :=
  List.mem_append_left _ (List.mem_append_left _ List.mem_cons_self)

theorem classified_mem_submitAll {inputs : List Text} (h : input ∈ inputs) (engine : Engine σ) :
    .note (.classified (Entry.read input).raw (Entry.read input).kind) ∈
      ((submitAll tools inputs).run engine).emitted := by
  induction inputs generalizing engine with
  | nil => cases h
  | cons first rest ih =>
      rw [run_submitAll_cons]
      rcases List.mem_cons.mp h with rfl | h
      · exact List.mem_append_left _ (classified_mem_submitShown tools input engine)
      · exact List.mem_append_right _ (ih h _)

/-- The inputs of a file that are taken through turns when it is loaded. -/
def inputsLoaded (tools : Toolchain σ) (contents : Except IoError Bytes) (engine : Engine σ) :
    List Text :=
  match textOf contents with
  | .error _ => []
  | .ok script =>
    let inputs := (Script.blocks script).map Script.Block.text
    inputs.take (firstFailure tools inputs engine + 1)

/-- To load a file is to take these through turns. -/
theorem run_load (tools : Toolchain σ) (path : Text) (contents : Except IoError Bytes)
    (engine : Engine σ) :
    let ran := (submitAll tools (inputsLoaded tools contents engine)).run engine
    (load tools path contents).run engine =
      ⟨((load tools path contents).run engine).value, ran.state, ran.emitted⟩ := by
  unfold inputsLoaded
  cases h : textOf contents with
  | error error =>
      rw [run_load_of_error h]
      rfl
  | ok script => rw [run_load_of_ok h, run_submitBlocks]

theorem getLast?_of_mem_inputsLoaded {contents : Except IoError Bytes} {engine : Engine σ}
    (h : input ∈ inputsLoaded tools contents engine)
    (hopen : Delimiters.isUnclosed input = true) :
    ∃ script block, contents = .ok (Utf8.encode script) ∧
      (Script.blocks script).getLast? = some block ∧ block.text = input := by
  unfold inputsLoaded at h
  cases hscript : textOf contents with
  | error error =>
      rw [hscript] at h
      cases h
  | ok script =>
      rw [hscript] at h
      obtain ⟨block, hblock, rfl⟩ := List.mem_map.mp (List.mem_of_mem_take h)
      exact ⟨script, block, eq_encode_of_textOf hscript,
        Script.isLast_of_isUnclosed hblock hopen, rfl⟩

end Turns

variable {π : Type} [Programs π]

/-- The inputs that are taken through turns when a move is carried out on an engine. -/
def inputsOf (move : Move) (engine : Engine (Workshop π)) : List Text :=
  match move with
  | .evaluate input => [input]
  | .perform (.load path) =>
    inputsLoaded Workshop.toolchain ((Machine.read path).run engine.tools.machine).value engine
  | _ => []

/-- To carry out a move on an engine is to take the inputs through turns, and no others; if there
are any, the engine is left as they leave it. -/
structure TakesTurns (prompts : Bool) (move : Move) (engine : Engine (Workshop π))
    (inputs : List Text) : Prop where
  /-- What the turns show is shown, and nothing else tells of a turn. -/
  emitted : ∃ before after, ((carryOut prompts move).run engine).emitted =
      before ++ ((submitAll Workshop.toolchain inputs).run engine).emitted ++ after ∧
    Emission.TellsNoTurn (before ++ after)
  state : inputs ≠ [] → ((carryOut prompts move).run engine).state =
    ((submitAll Workshop.toolchain inputs).run engine).state

/-- The input is the last block of a file that the move loads. -/
def EndsFile (move : Move) (engine : Engine (Workshop π)) (input : Text) : Prop :=
  ∃ path script block, move = .perform (.load path) ∧
    ((Machine.read path).run engine.tools.machine).value = .ok (Utf8.encode script) ∧
    (Script.blocks script).getLast? = some block ∧ block.text = input

omit [Programs π] in
theorem tellsNoTurn_showFault {σ : Type} (result : Except Fault Unit) (engine : Engine σ) :
    Emission.TellsNoTurn ((showFault result).run engine).emitted := by
  intro raw kind hmem
  cases result with
  | ok => cases hmem
  | error fault =>
      obtain ⟨_, -, hline⟩ := List.mem_map.mp hmem
      cases hline

omit [Programs π] in
theorem state_showFault {σ : Type} (result : Except Fault Unit) (engine : Engine σ) :
    ((showFault result).run engine).state = engine := by
  cases result <;> rfl

omit [Programs π] in
theorem emitted_save (history : History) (path : Text) (machine : Machine π) :
    ((save history path).run machine).emitted = [] := by
  simp only [save, Machine.write, Act.run_bind, Act.run_get]
  cases machine.files.write machine.directory path (Utf8.encode history.toScript) <;> rfl

theorem emitted_drop (sandbox : Sandbox) (machine : Machine π) :
    ((sandbox.drop).run machine).emitted = [] := by
  unfold Sandbox.drop
  cases sandbox.runner <;> rfl

/-- A command that loads nothing takes no turn. -/
theorem tellsNoTurn_perform {command : Command} (h : ∀ path, command ≠ .load path)
    (engine : Engine (Workshop π)) :
    Emission.TellsNoTurn ((perform command).run engine).emitted := by
  intro raw kind
  cases command with
  | load path => exact absurd rfl (h path)
  | help | exit | «break» => simp [perform, Emission.say, Emission.line]
  | clear =>
      simp [perform, Engine.clear, Engine.onTools, Workshop.toolchain, Workshop.reset,
        Workshop.onMachine, Sandbox.reset, emitted_drop]
  | save path =>
      simp only [perform, onMachine, Engine.onTools, Workshop.onMachine, Act.run_bind,
        Act.run_note, Act.run_get, Act.run_on, emitted_save]
      cases ((save engine.history path).run engine.tools.machine).value with
      | ok => simp [Emission.say, Emission.line]
      | error fault => simpa using tellsNoTurn_showFault (.error fault) _ raw kind

theorem takesTurns_nil {prompts : Bool} {move : Move} {engine : Engine (Workshop π)}
    (h : Emission.TellsNoTurn ((carryOut prompts move).run engine).emitted) :
    TakesTurns prompts move engine [] where
  emitted := ⟨((carryOut prompts move).run engine).emitted, [], by simp [submitAll],
    by rwa [List.append_nil]⟩
  state hne := absurd rfl hne

theorem run_perform_load {path : Text} {engine after : Engine (Workshop π)}
    {result : Except Fault Unit} {shown : List Emission}
    (h : (load Workshop.toolchain path ((Machine.read path).run engine.tools.machine).value).run
      engine = ⟨result, after, shown⟩) :
    (perform (.load path)).run engine =
      ⟨(), after, [.note (.performing (.load path))] ++ shown ++
        ((showFault result).run after).emitted⟩ := by
  have hread : (onMachine (Machine.read path)).run engine =
      ⟨((Machine.read path).run engine.tools.machine).value, engine, []⟩ := rfl
  simp only [perform, Act.run_bind, Act.run_note, hread, h, List.nil_append, List.append_assoc]
  exact congrArg (Step.mk () · _) (state_showFault result after)

theorem takesTurns_load (prompts : Bool) (path : Text) (engine : Engine (Workshop π)) :
    TakesTurns prompts (.perform (.load path)) engine
      (inputsOf (.perform (.load path)) engine) := by
  let ran := (submitAll Workshop.toolchain (inputsOf (.perform (.load path)) engine)).run engine
  obtain ⟨later, hlater, hperform⟩ : ∃ later, Emission.TellsNoTurn later ∧
      (perform (.load path)).run engine =
        ⟨(), ran.state, [Emission.note (.performing (.load path))] ++ ran.emitted ++ later⟩ :=
    ⟨_, tellsNoTurn_showFault _ _, run_perform_load (run_load Workshop.toolchain path _ engine)⟩
  constructor
  · refine ⟨[.note (.performing (.load path))], later, ?_, ?_⟩
    · simp only [carryOut, Act.run_bind, Act.run_pure, hperform, List.append_nil, ran]
    · intro raw kind hmem
      rcases List.mem_append.mp hmem with hmem | hmem
      · simp at hmem
      · exact hlater raw kind hmem
  · intro _
    simp only [carryOut, Act.run_bind, Act.run_pure, hperform, ran]

/-- **To carry out a move is to take its inputs through turns.** -/
theorem takesTurns_carryOut (prompts : Bool) (move : Move) (engine : Engine (Workshop π)) :
    TakesTurns prompts move engine (inputsOf move engine) := by
  cases move with
  | prompt fresh =>
      apply takesTurns_nil
      intro raw kind
      cases prompts <;> simp [carryOut]
  | evaluate input =>
      refine ⟨⟨[], [], ?_, fun _ _ => List.not_mem_nil⟩, fun _ => ?_⟩
      · simp [carryOut, inputsOf, submitAll]
      · simp [carryOut, inputsOf, submitAll]
  | reject fault =>
      apply takesTurns_nil
      simpa [carryOut] using tellsNoTurn_showFault (.error fault) engine
  | abort error =>
      apply takesTurns_nil
      exact fun _ _ => List.not_mem_nil
  | perform command =>
      by_cases hload : ∃ path, command = .load path
      · obtain ⟨path, rfl⟩ := hload
        exact takesTurns_load prompts path engine
      · have hother : ∀ path, command ≠ .load path := fun path h => hload ⟨path, h⟩
        have hnone : inputsOf (.perform command) engine = [] := by
          cases command with
          | load path => exact absurd rfl (hother path)
          | help | exit | «break» | clear | save => rfl
        rw [hnone]
        apply takesTurns_nil
        simpa [carryOut] using tellsNoTurn_perform hother engine

/-- An input of a move that has something open in it ends a file that the move loads, unless the
dialogue evaluates it. -/
theorem endsFile_of_isUnclosed {move : Move} {engine : Engine (Workshop π)} {input : Text}
    (h : input ∈ inputsOf move engine) (hclosed : move ≠ .evaluate input)
    (hopen : Delimiters.isUnclosed input = true) : EndsFile move engine input := by
  cases move with
  | prompt | reject | abort => cases h
  | evaluate evaluated =>
      obtain rfl := List.mem_singleton.mp h
      exact absurd rfl hclosed
  | perform command =>
      cases command with
      | help | exit | «break» | clear | save => cases h
      | load path =>
          obtain ⟨script, block, hread, hlast, htext⟩ := getLast?_of_mem_inputsLoaded h hopen
          exact ⟨path, script, block, rfl, hread, hlast, htext⟩

end Shell

end HaxePrompt

import HaxePrompt.Proofs.Text.Strict
import HaxePrompt.Proofs.Turn.Record
import HaxePrompt.Shell.Load

/-! # Where loading stops

Loading a script takes its inputs through their turns up to the first that fails
(`firstFailure`).  What it does is what these turns do, one after the other (`submitAll`): the
engine is left as they leave it, nothing else is shown, and the toolchain is called by no other
input (`load_stops`).  A file that cannot be read, or is no text, changes nothing. -/

namespace HaxePrompt.Shell

variable {σ : Type}

/-- Takes inputs through turns, one after the other, and shows each answer. -/
def submitAll (tools : Toolchain σ) : List Text → Act (Engine σ) (List Answer)
  | [] => return []
  | input :: rest => do
    let answer ← submitShown tools input
    let answers ← submitAll tools rest
    return answer :: answers

/-- The index of the first input that fails, or their number if none does. -/
def firstFailure (tools : Toolchain σ) (inputs : List Text) (engine : Engine σ) : Nat :=
  ((submitAll tools inputs).run engine).value.findIdx Answer.isFailure

section

variable {tools : Toolchain σ} {input : Text} {engine : Engine σ}

/-! ### One input -/

theorem run_submitAll_cons (tools : Toolchain σ) (input : Text) (rest : List Text)
    (engine : Engine σ) :
    (submitAll tools (input :: rest)).run engine =
      let shown := (submitShown tools input).run engine
      let more := (submitAll tools rest).run shown.state
      ⟨shown.value :: more.value, more.state, shown.emitted ++ more.emitted⟩ := by
  simp [submitAll]

theorem length_submitAll (tools : Toolchain σ) (inputs : List Text) (engine : Engine σ) :
    ((submitAll tools inputs).run engine).value.length = inputs.length := by
  induction inputs generalizing engine with
  | nil => rfl
  | cons input rest ih =>
      rw [run_submitAll_cons, List.length_cons, List.length_cons, ih]

theorem run_submitBlocks_cons_of_isFailure {block : Script.Block}
    (h : ((submitShown tools block.text).run engine).value.isFailure = true)
    (rest : List Script.Block) :
    (submitBlocks tools (block :: rest)).run engine =
      let shown := (submitShown tools block.text).run engine
      ⟨some block, shown.state, shown.emitted⟩ := by
  simp [submitBlocks, h]

theorem run_submitBlocks_cons_of_not_isFailure {block : Script.Block}
    (h : ((submitShown tools block.text).run engine).value.isFailure = false)
    (rest : List Script.Block) :
    (submitBlocks tools (block :: rest)).run engine =
      let shown := (submitShown tools block.text).run engine
      let more := (submitBlocks tools rest).run shown.state
      ⟨more.value, more.state, shown.emitted ++ more.emitted⟩ := by
  simp [submitBlocks, h]

theorem firstFailure_cons_of_isFailure
    (h : ((submitShown tools input).run engine).value.isFailure = true) (rest : List Text) :
    firstFailure tools (input :: rest) engine = 0 := by
  rw [firstFailure, run_submitAll_cons]
  simp only [List.findIdx_cons, h, cond_true]

theorem firstFailure_cons_of_not_isFailure
    (h : ((submitShown tools input).run engine).value.isFailure = false) (rest : List Text) :
    firstFailure tools (input :: rest) engine =
      firstFailure tools rest ((submitShown tools input).run engine).state + 1 := by
  rw [firstFailure, run_submitAll_cons]
  simp only [List.findIdx_cons, h, cond_false]
  rfl

theorem turnsTo_submitShown (tools : Toolchain σ) (input : Text) (engine : Engine σ) :
    ∃ calls, Engine.TurnsTo tools (Entry.read input) engine calls
      ((submitShown tools input).run engine).value
      ((submitShown tools input).run engine).state :=
  Engine.turnsTo_submit tools input engine

theorem history_submitShown (h : ((submitShown tools input).run engine).value.isFailure = true) :
    ((submitShown tools input).run engine).state.history = engine.history := by
  obtain ⟨calls, hturn⟩ := turnsTo_submitShown tools input engine
  have hvalue : ((submitShown tools input).run engine).value.isValue = false := by
    rw [Bool.eq_false_iff]
    intro hvalue
    rw [Answer.isFailure_of_isValue hvalue] at h
    cases h
  rw [hturn.history, hvalue]
  rfl

/-- A recorded input does what it does otherwise, and its calls are written down. -/
theorem submitShown_recorded (tools : Toolchain σ) (input : Text) (engine : Engine σ)
    (earlier : List Call) :
    ((submitShown tools.recorded input).run (engine.withRecord earlier)).value =
        ((submitShown tools input).run engine).value ∧
      ((submitShown tools.recorded input).run (engine.withRecord earlier)).state =
        ((submitShown tools input).run engine).state.withRecord
          (earlier ++ ((Engine.observe tools input).run engine).value.calls) := by
  have hturn := Engine.turnsTo_observe tools input engine
  rw [Engine.answer_observe, Engine.state_observe] at hturn
  exact (hturn.recorded earlier).run_submit

end

/-! ### Inputs up to the first that fails -/

/-- The blocks do what their texts do up to the first that fails. -/
theorem run_submitBlocks (tools : Toolchain σ) (blocks : List Script.Block)
    (engine : Engine σ) :
    (submitBlocks tools blocks).run engine =
      let inputs := blocks.map Script.Block.text
      let k := firstFailure tools inputs engine
      let ran := (submitAll tools (inputs.take (k + 1))).run engine
      ⟨blocks[k]?, ran.state, ran.emitted⟩ := by
  induction blocks generalizing engine with
  | nil => rfl
  | cons block rest ih =>
      simp only [List.map_cons]
      cases h : ((submitShown tools block.text).run engine).value.isFailure with
      | true =>
          rw [run_submitBlocks_cons_of_isFailure h, firstFailure_cons_of_isFailure h,
            List.take_succ_cons, run_submitAll_cons]
          simp [submitAll]
      | false =>
          rw [run_submitBlocks_cons_of_not_isFailure h, firstFailure_cons_of_not_isFailure h,
            List.take_succ_cons, run_submitAll_cons]
          simp only [ih, List.getElem?_cons_succ]

/-- The input that fails adds nothing to the history. -/
theorem history_submitAll_take (tools : Toolchain σ) (inputs : List Text) (engine : Engine σ) :
    let k := firstFailure tools inputs engine
    ((submitAll tools (inputs.take (k + 1))).run engine).state.history =
      ((submitAll tools (inputs.take k)).run engine).state.history := by
  induction inputs generalizing engine with
  | nil => rfl
  | cons input rest ih =>
      simp only
      cases h : ((submitShown tools input).run engine).value.isFailure with
      | true =>
          rw [firstFailure_cons_of_isFailure h, List.take_succ_cons, run_submitAll_cons]
          exact history_submitShown h
      | false =>
          rw [firstFailure_cons_of_not_isFailure h, List.take_succ_cons, List.take_succ_cons,
            run_submitAll_cons, run_submitAll_cons]
          exact ih _

/-- The calls to the toolchain are those of the turns up to the first that fails. -/
theorem submitBlocks_recorded (tools : Toolchain σ) (blocks : List Script.Block)
    (engine : Engine σ) (earlier : List Call) :
    let inputs := blocks.map Script.Block.text
    let turns := ((Engine.observeAll tools inputs).run engine).value
    ((submitBlocks tools.recorded blocks).run (engine.withRecord earlier)).state =
      ((submitBlocks tools blocks).run engine).state.withRecord
        (earlier ++
          (turns.take (firstFailure tools inputs engine + 1)).flatMap Turn.calls) := by
  induction blocks generalizing engine earlier with
  | nil =>
      simp [submitBlocks, Engine.observeAll]
  | cons block rest ih =>
      obtain ⟨hvalue, hstate⟩ := submitShown_recorded tools block.text engine earlier
      simp only [List.map_cons, Engine.value_observeAll_cons, List.take_succ_cons,
        List.flatMap_cons]
      cases h : ((submitShown tools block.text).run engine).value.isFailure with
      | true =>
          rw [run_submitBlocks_cons_of_isFailure h, firstFailure_cons_of_isFailure h,
            run_submitBlocks_cons_of_isFailure (by rw [hvalue, h])]
          simp [hstate]
      | false =>
          rw [run_submitBlocks_cons_of_not_isFailure h, firstFailure_cons_of_not_isFailure h,
            run_submitBlocks_cons_of_not_isFailure (by rw [hvalue, h])]
          simp only [hstate, Engine.state_observe]
          rw [ih, List.append_assoc]
          rfl

/-! ### Loading -/

theorem textOf_encode (script : Text) : textOf (.ok (Utf8.encode script)) = .ok script := by
  simp only [textOf, bind, Except.bind, Utf8.decodeStrict_encode]
  rfl

theorem eq_encode_of_textOf {contents : Except IoError Bytes} {script : Text}
    (h : textOf contents = .ok script) : contents = .ok (Utf8.encode script) := by
  cases contents with
  | error error => cases h
  | ok bytes =>
      simp only [textOf, bind, Except.bind] at h
      split at h
      · rename_i text hdecode
        cases h
        rw [Utf8.decodeStrict_eq_some_iff.mp hdecode]
      · cases h

theorem textOf_of_not_wellFormed {bytes : Bytes} (h : ¬ Utf8.WellFormed bytes) :
    textOf (.ok bytes) = .error .invalidUtf8 := by
  simp only [textOf, bind, Except.bind, Utf8.decodeStrict_eq_none_iff.mpr h]
  rfl

theorem run_load_of_error {contents : Except IoError Bytes} {error : IoError}
    (h : textOf contents = .error error) (tools : Toolchain σ) (path : Text)
    (engine : Engine σ) :
    (load tools path contents).run engine = ⟨.error (.cannotRead path error), engine, []⟩ := by
  simp only [load, h]
  rfl

theorem run_load_of_ok {contents : Except IoError Bytes} {script : Text}
    (h : textOf contents = .ok script) (tools : Toolchain σ) (path : Text) (engine : Engine σ) :
    (load tools path contents).run engine =
      let step := (submitBlocks tools (Script.blocks script)).run engine
      ⟨match step.value with
        | some block => .error (.stoppedLoading path block.line)
        | none => .ok (), step.state, step.emitted⟩ := by
  simp only [load, h, Act.run_bind]
  cases ((submitBlocks tools (Script.blocks script)).run engine).value <;> simp

theorem run_load_encode (tools : Toolchain σ) (path script : Text) (engine : Engine σ) :
    (load tools path (.ok (Utf8.encode script))).run engine =
      let blocks := Script.blocks script
      let inputs := blocks.map Script.Block.text
      let k := firstFailure tools inputs engine
      let ran := (submitAll tools (inputs.take (k + 1))).run engine
      ⟨match blocks[k]? with
        | some block => .error (.stoppedLoading path block.line)
        | none => .ok (), ran.state, ran.emitted⟩ := by
  rw [run_load_of_ok (textOf_encode script), run_submitBlocks]

theorem calls_load_encode (tools : Toolchain σ) (path script : Text) (engine : Engine σ) :
    let inputs := (Script.blocks script).map Script.Block.text
    let turns := ((Engine.observeAll tools inputs).run engine).value
    ((load tools.recorded path (.ok (Utf8.encode script))).run
        (engine.withRecord [])).state.tools.2 =
      (turns.take (firstFailure tools inputs engine + 1)).flatMap Turn.calls := by
  intro inputs turns
  rw [run_load_of_ok (textOf_encode script)]
  simp only
  rw [submitBlocks_recorded]
  rfl

theorem firstFailure_eq_length_iff (tools : Toolchain σ) (inputs : List Text)
    (engine : Engine σ) :
    firstFailure tools inputs engine = inputs.length ↔
      ∀ answer ∈ ((submitAll tools inputs).run engine).value, answer.isFailure = false := by
  rw [firstFailure, ← length_submitAll tools inputs engine, List.findIdx_eq_length]

theorem firstFailure_le_length (tools : Toolchain σ) (inputs : List Text) (engine : Engine σ) :
    firstFailure tools inputs engine ≤ inputs.length := by
  rw [firstFailure, ← length_submitAll tools inputs engine]
  exact List.findIdx_le_length

theorem load_of_error {contents : Except IoError Bytes} {error : IoError}
    (h : textOf contents = .error error) (tools : Toolchain σ) (path : Text)
    (engine : Engine σ) :
    ((load tools.recorded path contents).run (engine.withRecord [])).state.tools.2 = [] ∧
      (load tools path contents).run engine = ⟨.error (.cannotRead path error), engine, []⟩ := by
  rw [run_load_of_error h, run_load_of_error h]
  exact ⟨rfl, rfl⟩

/-- **Loading stops at the first input that fails.**  A file that cannot be read, or is not the
bytes of a text, gives a fault, and nothing else happens.  Otherwise the inputs of the script up to
the first that fails are taken through their turns: the engine after them, what they show and
their calls to the toolchain are all that loading leaves.  It succeeds if none of them fails, and
else names the line of the one that does, which adds nothing to the history. -/
theorem load_stops (tools : Toolchain σ) (path : Text) (contents : Except IoError Bytes)
    (before : Engine σ) :
    let loaded := (load tools path contents).run before
    let calls := ((load tools.recorded path contents).run (before.withRecord [])).state.tools.2
    (∀ error, contents = .error error → calls = [] ∧
      loaded = ⟨.error (.of .io ("cannot read " ++ Fault.ticked path ++ ": " ++ error.describe)),
        before, []⟩) ∧
    (∀ bytes, contents = .ok bytes → ¬ Utf8.WellFormed bytes → calls = [] ∧
      loaded = ⟨.error (.of .io ("cannot read " ++ Fault.ticked path ++ ": " ++
        IoError.invalidUtf8.describe)), before, []⟩) ∧
    ∀ script, contents = .ok (Utf8.encode script) →
      let blocks := Script.blocks script
      let inputs := blocks.map Script.Block.text
      let answers := ((submitAll tools inputs).run before).value
      let turns := ((Engine.observeAll tools inputs).run before).value
      let k := answers.findIdx Answer.isFailure
      let ran := (submitAll tools (inputs.take (k + 1))).run before
      loaded.state = ran.state ∧ loaded.emitted = ran.emitted ∧
        calls = (turns.take (k + 1)).flatMap Turn.calls ∧
        (loaded.value = .ok () ↔ ∀ answer ∈ answers, answer.isFailure = false) ∧
        (∀ block, blocks[k]? = some block → loaded.value = .error (.of .hint
          ("stopped loading " ++ Fault.ticked path ++ " at line " ++ Text.decimal block.line))) ∧
        loaded.state.history = ((submitAll tools (inputs.take k)).run before).state.history := by
  intro loaded calls
  refine ⟨?_, ?_, ?_⟩
  · rintro error rfl
    exact load_of_error rfl tools path before
  · rintro bytes rfl hbytes
    exact load_of_error (textOf_of_not_wellFormed hbytes) tools path before
  · rintro script rfl blocks inputs answers turns k ran
    have hloaded := run_load_encode tools path script before
    have hlength : inputs.length = blocks.length := List.length_map _
    refine ⟨congrArg Step.state hloaded, congrArg Step.emitted hloaded,
      calls_load_encode tools path script before, ?_, ?_, ?_⟩
    · rw [← firstFailure_eq_length_iff, hlength]
      simp only [loaded, hloaded]
      cases hblock : blocks[firstFailure tools inputs before]? with
      | none =>
          have hle : blocks.length ≤ firstFailure tools inputs before :=
            List.getElem?_eq_none_iff.mp hblock
          have hge := firstFailure_le_length tools inputs before
          exact iff_of_true rfl (by omega)
      | some block =>
          obtain ⟨hlt, _⟩ := List.getElem?_eq_some_iff.mp hblock
          exact iff_of_false (fun h => by cases h) (Nat.ne_of_lt hlt)
    · intro block hblock
      have hfirst : blocks[firstFailure tools inputs before]? = some block := hblock
      simp only [loaded, hloaded, blocks, inputs] at hfirst ⊢
      rw [hfirst]
      rfl
    · rw [congrArg Step.state hloaded]
      exact history_submitAll_take tools inputs before

/-- A toolchain that counts the programs and refuses the second one. -/
def refusing : Toolchain Nat where
  compile _ := fun count =>
    ⟨if count = 1 then .error [] else .ok { output := Marker.token ++ Marker.token }, count + 1, []⟩
  evaluate _ := return .ok none
  reset := return ()

theorem load_stops_refusing :
    let contents : Except IoError Bytes := .ok (Utf8.encode "a\n\n// a\n b\nc\n")
    let loaded := (load refusing "s" contents).run (.fresh true 0)
    let recorded := (load refusing.recorded "s" contents).run ((Engine.fresh true 0).withRecord [])
    loaded.value = .error (.of .hint
        ("stopped loading " ++ Fault.ticked "s" ++ " at line " ++ Text.decimal 4)) ∧
      loaded.state.history = { statements := ["a;"] } ∧ recorded.state.tools.2.length = 3 := by
  intro contents loaded recorded
  obtain ⟨_, _, hstops⟩ := load_stops refusing "s" contents (.fresh true 0)
  obtain ⟨_, _, hcalls, _, hvalue, hhistory⟩ := hstops "a\n\n// a\n b\nc\n" rfl
  refine ⟨hvalue ⟨4, " b"⟩ (by decide +kernel), hhistory.trans (by decide +kernel), ?_⟩
  rw [hcalls]
  decide +kernel

end HaxePrompt.Shell

import HaxePrompt.Proofs.Assembly.LineCompiler
import HaxePrompt.Proofs.Machine.FileTree
import HaxePrompt.Proofs.Session.Replay
import HaxePrompt.Proofs.Shell.Stopping
import HaxePrompt.Proofs.Text.Utf8
import HaxePrompt.Shell.Loop

/-! # A saved session is loaded again

A session that was made by loading files (`loadAll`) is saved as a script of its sources.  Loaded
from that file into a fresh session, with a toolchain that accepts everything, the script gives
the same history (`load_saved`).

The invariant is that all sources of the history replay (`replayable_loadAll`).  The file holds
what was written (`read_save`), and its inputs are the sources (`blocks_toScript`). -/

namespace HaxePrompt

/-- A script that can be taken apart and put together again: it has no carriage returns, and
nothing is open at the end of its last input. -/
structure Script.IsPlain (script : Text) : Prop where
  noReturn : '\r' ∉ script
  closed : ∀ block ∈ (Script.blocks script).getLast?, Delimiters.isUnclosed block.text = false

namespace Shell

variable {σ : Type} {tools : Toolchain σ}

/-- Loads files one after the other, and gives what became of each. -/
def loadAll (tools : Toolchain σ) :
    List (Text × Except IoError Bytes) → Act (Engine σ) (List (Except Fault Unit))
  | [] => return []
  | (path, contents) :: rest => do
    let result ← load tools path contents
    let results ← loadAll tools rest
    return result :: results

/-! ### Loading -/

/-- Blocks keep a history replayable, also when they stop at a failure. -/
theorem replayable_submitBlocks (tools : Toolchain σ) {blocks : List Script.Block}
    (hblocks : ∀ block ∈ blocks, Script.IsBlock block.text) {engine : Engine σ}
    (h : engine.history.Replayable) :
    ((submitBlocks tools blocks).run engine).state.history.Replayable := by
  induction blocks generalizing engine with
  | nil => exact h
  | cons block rest ih =>
      obtain ⟨calls, hturn⟩ := turnsTo_submitShown tools block.text engine
      have hnext := hturn.replayable (hblocks block List.mem_cons_self) h
      cases hfailure : ((submitShown tools block.text).run engine).value.isFailure with
      | true =>
          rw [run_submitBlocks_cons_of_isFailure hfailure]
          exact hnext
      | false =>
          rw [run_submitBlocks_cons_of_not_isFailure hfailure]
          exact ih (fun b hb => hblocks b (List.mem_cons_of_mem block hb)) hnext

theorem replayable_load (tools : Toolchain σ) (path : Text) {contents : Except IoError Bytes}
    (hscript : ∀ script, textOf contents = .ok script → Script.IsPlain script)
    {engine : Engine σ} (h : engine.history.Replayable) :
    ((load tools path contents).run engine).state.history.Replayable := by
  cases htext : textOf contents with
  | error error =>
      rw [run_load_of_error htext]
      exact h
  | ok script =>
      obtain ⟨hr, hlast⟩ := hscript script htext
      rw [run_load_of_ok htext]
      exact replayable_submitBlocks tools (Script.isBlock_of_mem_blocks hr hlast) h

theorem replayable_loadAll (tools : Toolchain σ) {files : List (Text × Except IoError Bytes)}
    (hfiles : ∀ file ∈ files, ∀ script, textOf file.2 = .ok script → Script.IsPlain script)
    {engine : Engine σ} (h : engine.history.Replayable) :
    ((loadAll tools files).run engine).state.history.Replayable := by
  induction files generalizing engine with
  | nil => exact h
  | cons file rest ih =>
      obtain ⟨path, contents⟩ := file
      have hnext := replayable_load tools path (hfiles (path, contents) List.mem_cons_self) h
      exact ih (fun f hf => hfiles f (List.mem_cons_of_mem _ hf)) hnext

/-! ### Loading again -/

/-- Sources that replay are all accepted and staged. -/
theorem submitBlocks_replay (haccepts : tools.Accepts) {blocks : List Script.Block}
    (hblocks : ∀ block ∈ blocks, ∃ part, Replays part block.text) (engine : Engine σ) :
    ((submitBlocks tools blocks).run engine).value = none ∧
      ((submitBlocks tools blocks).run engine).state.history =
        (blocks.map Script.Block.text).foldl
          (fun history source => history.stage (Entry.read source)) engine.history := by
  induction blocks generalizing engine with
  | nil => exact ⟨rfl, rfl⟩
  | cons block rest ih =>
      obtain ⟨calls, hturn⟩ := turnsTo_submitShown tools block.text engine
      obtain ⟨part, hreplays⟩ := hblocks block List.mem_cons_self
      obtain ⟨hvalue, hhistory⟩ := hturn.replay haccepts hreplays
      rw [run_submitBlocks_cons_of_not_isFailure (Answer.isFailure_of_isValue hvalue),
        List.map_cons, List.foldl_cons, ← hhistory]
      exact ih (fun b hb => hblocks b (List.mem_cons_of_mem block hb)) _

theorem blocks_toScript {history : History} (h : history.Replayable) :
    (Script.blocks history.toScript).map Script.Block.text = history.sources := by
  apply Script.blocks_unlines
  intro source hsource
  rcases List.mem_append.mp hsource with hsource | hsource
  · exact (h .imports source hsource).block
  · exact (h .statements source hsource).block

/-- The saved script, loaded into a fresh session, gives the history again. -/
theorem load_toScript (haccepts : tools.Accepts) {history : History} (h : history.Replayable)
    (path : Text) (showWarnings : Bool) (s : σ) :
    ((load tools path (.ok (Utf8.encode history.toScript))).run
        (.fresh showWarnings s)).value = .ok () ∧
      ((load tools path (.ok (Utf8.encode history.toScript))).run
        (.fresh showWarnings s)).state.history = history := by
  have hblocks : ∀ block ∈ Script.blocks history.toScript, ∃ part, Replays part block.text := by
    intro block hblock
    have hsource : block.text ∈ history.sources := by
      rw [← blocks_toScript h]
      exact List.mem_map_of_mem hblock
    rcases List.mem_append.mp hsource with hsource | hsource
    · exact ⟨.imports, h .imports _ hsource⟩
    · exact ⟨.statements, h .statements _ hsource⟩
  obtain ⟨hvalue, hhistory⟩ := submitBlocks_replay haccepts hblocks (.fresh showWarnings s)
  rw [blocks_toScript h] at hhistory
  rw [run_load_of_ok (textOf_encode history.toScript)]
  simp only [hvalue, true_and]
  exact hhistory.trans (History.foldl_stage_sources h)

theorem run_save {π : Type} {machine : Machine π} {history : History} {path : Text}
    {files : FileTree}
    (h : machine.files.write machine.directory path (Utf8.encode history.toScript) = .ok files) :
    (save history path).run machine = ⟨.ok (), { machine with files }, []⟩ := by
  unfold save Machine.write
  simp only [Act.run_bind, Act.run_get, h, Act.run_modify, Act.run_pure]
  rfl

theorem read_save {π : Type} {machine : Machine π} {history : History} {path : Text}
    (h : ((save history path).run machine).value = .ok ()) :
    ((Machine.read path).run ((save history path).run machine).state).value =
      .ok (Utf8.encode history.toScript) := by
  cases hwrite : machine.files.write machine.directory path (Utf8.encode history.toScript) with
  | error error =>
      unfold save Machine.write at h
      simp [hwrite, Except.mapError] at h
  | ok files =>
      rw [run_save hwrite]
      exact FileTree.read_write hwrite

/-- **A saved session is loaded again.**  The session is any that comes of loading files whose
texts are plain, whatever the compiler and the evaluator answered.  Its saved script has its
sources as inputs, each in one piece; loaded into a fresh session with a toolchain that accepts
everything, it succeeds and gives the same history; and it is what a file holds to which the
session was saved. -/
theorem load_saved {σ τ π : Type} (tools : Toolchain σ) {tools' : Toolchain τ}
    (haccepts : tools'.Accepts) {files : List (Text × Except IoError Bytes)}
    (hfiles : ∀ file ∈ files, ∀ script, textOf file.2 = .ok script → Script.IsPlain script)
    (showWarnings showWarnings' : Bool) (s : σ) (s' : τ) :
    let saved := ((loadAll tools files).run (.fresh showWarnings s)).state.history
    let written := Utf8.encode saved.toScript
    (Script.blocks saved.toScript).map Script.Block.text = saved.imports ++ saved.statements ∧
      (∀ path, ((load tools' path (.ok written)).run (.fresh showWarnings' s')).value = .ok () ∧
        ((load tools' path (.ok written)).run (.fresh showWarnings' s')).state.history = saved) ∧
      ∀ (machine : Machine π) (path : Text), ((save saved path).run machine).value = .ok () →
        ((Machine.read path).run ((save saved path).run machine).state).value = .ok written := by
  intro saved written
  have hsaved : saved.Replayable := replayable_loadAll tools hfiles (History.all_empty Replays)
  refine ⟨blocks_toScript hsaved, ?_, ?_⟩
  · intro path
    exact load_toScript haccepts hsaved path showWarnings' s'
  · intro machine path hsave
    exact read_save hsave

/-- A toolchain that fails where something is thrown. -/
def throwing : Toolchain Unit :=
  .ofFunctions (LineCompiler.compile "Repl;\n" "ready;\n") fun code =>
    if Text.occursIn "throw" code then .error (.of .eval "thrown") else .ok none

/-- Files to load with it: loading the first one stops, and the second one is missing. -/
def trialFiles : List (Text × Except IoError Bytes) :=
  [("one", .ok (Utf8.encode "import a.B\n\n// a note\nvar a = [1,\n2]\nthrow a\nlater\n")),
    ("two", .error .notFound), ("three", .ok (Utf8.encode "$type(a)\na\n"))]

def permissive : Toolchain Unit :=
  .ofFunctions (fun _ => .ok { output := Marker.token ++ Marker.token }) fun _ => .ok none

theorem accepts_permissive : permissive.Accepts := by
  constructor
  · intro source s
    refine ⟨_, rfl, ?_⟩
    intro part
    cases part <;> exact ⟨_, rfl⟩
  · intro code s
    exact ⟨_, rfl⟩

theorem isPlain_trialFiles : ∀ file ∈ trialFiles, ∀ script, textOf file.2 = .ok script →
    Script.IsPlain script := by
  intro file hfile script hscript
  simp only [trialFiles, List.mem_cons, List.not_mem_nil, or_false] at hfile
  rcases hfile with rfl | rfl | rfl
  · rw [textOf_encode] at hscript
    cases hscript
    exact ⟨by decide, by decide +kernel⟩
  · cases hscript
  · rw [textOf_encode] at hscript
    cases hscript
    exact ⟨by decide, by decide +kernel⟩

theorem save_empty (history : History) :
    ((save history "s").run ({ programs := () } : Machine Unit)).value = .ok () := by
  have hwalk : FileTree.walk {} true FileTree.maxLinks [] ["s".toList] =
      .ok (.vacant ["s".toList]) := by
    rw [FileTree.walk, if_neg (by decide), if_neg (by decide), if_neg (by decide),
      if_neg (by decide), if_neg (by decide)]
    rfl
  have hresolve : FileTree.resolveWhole {} true [] "s" = .ok (.vacant ["s".toList]) := by
    unfold FileTree.resolveWhole FileTree.resolve
    rw [if_neg (by decide), if_neg (by decide), if_neg (by decide)]
    exact hwalk
  have hwrite : FileTree.write {} [] "s" (Utf8.encode history.toScript) =
      .ok (FileTree.put {} ["s".toList] (.file (Utf8.encode history.toScript))) := by
    unfold FileTree.write
    rw [hresolve]
  exact congrArg Step.value (run_save hwrite)

/-- An import, an array over two lines and a name are left, and are loaded again. -/
theorem load_saved_array :
    let saved : History :=
      { imports := ["import a.B;"], statements := ["var a = [1,\n2];", "a;"] }
    let machine : Machine Unit := { programs := () }
    ((loadAll throwing trialFiles).run (.fresh false ())).state.history = saved ∧
      ((load permissive "s" (.ok (Utf8.encode saved.toScript))).run
        (.fresh false ())).state.history = saved ∧
      ((Machine.read "s").run ((save saved "s").run machine).state).value =
        .ok (Utf8.encode saved.toScript) := by
  intro saved machine
  have hsaved : ((loadAll throwing trialFiles).run (.fresh false ())).state.history = saved := by
    decide +kernel
  obtain ⟨_, hload, hread⟩ := load_saved throwing accepts_permissive isPlain_trialFiles
    false false () ()
  rw [hsaved] at hload hread
  exact ⟨hsaved, (hload "s").2, hread machine "s" (save_empty saved)⟩

end Shell

end HaxePrompt

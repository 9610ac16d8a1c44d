import HaxePrompt.Proofs.Machine.Written
import HaxePrompt.Tool.Compiler
import Mathlib.Data.List.Permutation

/-! # Whose output is read

A compilation reads the compiled output where the compiler's program was told to put it, once the
program has succeeded.  The file is the same for the whole session and is not removed in between.
So the output is what the program wrote there in this run if it wrote there at all, and otherwise
what is left there of an earlier call (`output_written_or_left`).  A program that succeeds without
writing hands out the output of the call before (`stale_output`). -/

namespace HaxePrompt

namespace Compiler

variable {π : Type} [Programs π] {compiler : Compiler} {machine : Machine π} {source : Text}
  {location : Location} {compiled : Compiled}

/-- A run of the compiler's program: the files that it found, the directory that it worked in,
what it left and what the programs remember afterwards. -/
structure Pass (π : Type) where
  files : FileTree
  directory : Location
  completion : Completion
  programs : π

namespace Pass

/-- What the program wrote at a location last. -/
def wroteAt? (pass : Pass π) (location : Location) : Option Bytes :=
  FileTree.lastWritten? pass.directory location pass.files pass.completion.wrote

def left (pass : Pass π) : FileTree :=
  Machine.writeAll pass.files pass.directory pass.completion.wrote

end Pass

/-! ### One call -/

/-- The only file that a call writes by itself. -/
def sourceWrite (compiler : Compiler) (source : Text) : Text × Bytes :=
  (compiler.sourcePath, Utf8.encode source)

def invocation (compiler : Compiler) : Invocation :=
  { program := compiler.program, arguments := compiler.arguments,
    directory := some compiler.workingDirectory }

/-- The run of the compiler's program that a call starts, if it comes to that. -/
def pass? (compiler : Compiler) (source : Text) (machine : Machine π) : Option (Pass π) :=
  match machine.files.write machine.directory compiler.sourcePath (Utf8.encode source) with
  | .error _ => none
  | .ok files =>
    match { machine with files }.prepare compiler.invocation with
    | .error _ => none
    | .ok (name, directory) =>
      let (completion, programs) := Programs.run name (FileTree.pathOf directory)
        compiler.arguments files machine.programs
      some { files, directory, completion, programs }

theorem files_of_pass? {pass : Pass π} (h : compiler.pass? source machine = some pass) :
    pass.files = Machine.writeAll machine.files machine.directory [compiler.sourceWrite source] := by
  unfold pass? at h
  split at h
  · cases h
  rename_i files hwrite
  rw [sourceWrite, FileTree.writeAll_of_write hwrite]
  split at h
  · cases h
  cases h
  rfl

/-- A call without a run of the program fails, and has written at most the source. -/
theorem compile_of_pass?_eq_none (h : compiler.pass? source machine = none) :
    (∀ compiled, ((compiler.compile source).run machine).value ≠ .ok compiled) ∧
      ((compiler.compile source).run machine).state =
        { machine with
          files := Machine.writeAll machine.files machine.directory
            [compiler.sourceWrite source] } := by
  unfold pass? at h
  cases hwrite : machine.files.write machine.directory compiler.sourcePath
      (Utf8.encode source) with
  | error error =>
      have hstays : Machine.writeAll machine.files machine.directory
          [compiler.sourceWrite source] = machine.files := by
        simp only [Machine.writeAll, sourceWrite, List.foldl_cons, List.foldl_nil, hwrite]
      rw [hstays]
      simp [compile, Machine.write, hwrite, refusal]
  | ok files =>
      rw [sourceWrite, FileTree.writeAll_of_write hwrite]
      simp only [hwrite] at h
      split at h
      · rename_i error hprepare
        rw [invocation] at hprepare
        simp [compile, Machine.write, hwrite, Machine.run, hprepare, refusal]
      · cases h

omit [Programs π] in
theorem readOutput_eq_ok_iff {diagnostics : List Diagnostic} :
    ((compiler.readOutput diagnostics).run machine).value = .ok compiled ↔
      compiled.diagnostics = diagnostics ∧
        ∃ contents, machine.files.read machine.directory compiler.outputPath = .ok contents ∧
          Utf8.decodeStrict contents = some compiled.output := by
  unfold readOutput Machine.read
  simp only [Act.run_bind, Act.run_get, Act.run_pure]
  obtain ⟨output, diagnostics'⟩ := compiled
  cases hread : machine.files.read machine.directory compiler.outputPath with
  | error error => simp [refusal]
  | ok contents =>
      cases hdecode : Utf8.decodeStrict contents with
      | none => simp [hdecode, refusal]
      | some output' => simp [hdecode, eq_comm, and_comm]

omit [Programs π] in
theorem state_readOutput (diagnostics : List Diagnostic) :
    ((compiler.readOutput diagnostics).run machine).state = machine := by
  unfold readOutput Machine.read
  simp only [Act.run_bind, Act.run_get, Act.run_pure]
  split
  · rfl
  · split <;> rfl

/-- A call that runs the program leaves the machine as the program left it.  It gives an output
where the program has succeeded, and the output is what then stands at its path. -/
theorem compile_of_pass? {pass : Pass π} (h : compiler.pass? source machine = some pass) :
    ((compiler.compile source).run machine).state =
        { machine with files := pass.left, programs := pass.programs } ∧
      ∀ compiled, ((compiler.compile source).run machine).value = .ok compiled ↔
        pass.completion.status.isSuccess = true ∧
          compiled.diagnostics =
            Diagnostic.parse sourceFile (Utf8.decodeLossy pass.completion.errors) ∧
          ∃ contents, pass.left.read machine.directory compiler.outputPath = .ok contents ∧
            Utf8.decodeStrict contents = some compiled.output := by
  unfold pass? at h
  cases hwrite : machine.files.write machine.directory compiler.sourcePath
      (Utf8.encode source) with
  | error error =>
      rw [hwrite] at h
      cases h
  | ok files =>
      simp only [hwrite] at h
      split at h
      · cases h
      rename_i name directory hprepare
      cases h
      rw [invocation] at hprepare
      simp only [compile, Machine.write, Machine.run, hwrite, hprepare, Act.run_bind, Act.run_get,
        Act.run_modify, Act.run_note, Act.run_pure]
      by_cases hstatus : ((Programs.run name (FileTree.pathOf directory) compiler.arguments files
          machine.programs).1).status.isSuccess = true
      · simp only [hstatus, if_true, state_readOutput, readOutput_eq_ok_iff, true_and]
        exact ⟨rfl, fun _ => Iff.rfl⟩
      · simp only [hstatus]
        refine ⟨rfl, ?_⟩
        intro compiled
        constructor
        · rintro ⟨⟩
        · rintro ⟨⟨⟩, -⟩

/-! ### A sequence of calls -/

/-- What a call puts at a location last: what the program wrote there, or else the source. -/
def put? (compiler : Compiler) (location : Location) (source : Text) (machine : Machine π) :
    Option Bytes :=
  ((compiler.pass? source machine).bind (·.wroteAt? location)).or
    (FileTree.lastWritten? machine.directory location machine.files [compiler.sourceWrite source])

theorem directory_compile :
    ((compiler.compile source).run machine).state.directory = machine.directory := by
  cases h : compiler.pass? source machine with
  | none => rw [(compile_of_pass?_eq_none h).2]
  | some pass => rw [(compile_of_pass? h).1]

theorem get?_left {pass : Pass π} (h : compiler.pass? source machine = some pass) :
    pass.left.get? location =
      ((compiler.put? location source machine).map Node.file).or (machine.files.get? location) := by
  rw [Pass.left, FileTree.get?_writeAll, files_of_pass? h, FileTree.get?_writeAll, put?, h,
    ← files_of_pass? h]
  simp only [Option.bind_some, Pass.wroteAt?]
  cases FileTree.lastWritten? pass.directory location pass.files pass.completion.wrote <;> rfl

theorem get?_compile :
    ((compiler.compile source).run machine).state.files.get? location =
      ((compiler.put? location source machine).map Node.file).or (machine.files.get? location) := by
  cases h : compiler.pass? source machine with
  | none =>
      rw [(compile_of_pass?_eq_none h).2, FileTree.get?_writeAll, put?, h]
      rfl
  | some pass => rw [(compile_of_pass? h).1, get?_left h]

def after (compiler : Compiler) : Machine π → List Text → Machine π
  | machine, [] => machine
  | machine, source :: rest => compiler.after ((compiler.compile source).run machine).state rest

/-- What calls put at a location last. -/
def lastPut? (compiler : Compiler) (location : Location) :
    Machine π → List Text → Option Bytes
  | _, [] => none
  | machine, source :: rest =>
    (compiler.lastPut? location ((compiler.compile source).run machine).state rest).or
      (compiler.put? location source machine)

theorem directory_after (earlier : List Text) :
    (compiler.after machine earlier).directory = machine.directory := by
  induction earlier generalizing machine with
  | nil => rfl
  | cons source rest ih => rw [after, ih, directory_compile]

theorem get?_after (earlier : List Text) :
    (compiler.after machine earlier).files.get? location =
      ((compiler.lastPut? location machine earlier).map Node.file).or
        (machine.files.get? location) := by
  induction earlier generalizing machine with
  | nil => rfl
  | cons source rest ih =>
      rw [after, ih, get?_compile, lastPut?]
      cases compiler.lastPut? location ((compiler.compile source).run machine).state rest <;> rfl

/-- **Whose output is given.**  A call that gives an output, after any calls and whatever the
program does in each, has run the program with success, and the output is what stands at its
path.  That is what this run of the program wrote there last; if it wrote nothing there, it is
what the call itself or an earlier call had put there, or what stood there before them all. -/
theorem output_written_or_left {earlier : List Text}
    (h : ((compiler.compile source).run (compiler.after machine earlier)).value = .ok compiled) :
    let found := compiler.after machine earlier
    ∃ pass location node,
      compiler.pass? source found = some pass ∧
      pass.completion.status.isSuccess = true ∧
      pass.left.resolveWhole false machine.directory compiler.outputPath =
        .ok (.occupied location node) ∧
      Utf8.decodeStrict node.contents = some compiled.output ∧
      some node =
        ((pass.wroteAt? location).map Node.file).or
          (((FileTree.lastWritten? found.directory location found.files
            [compiler.sourceWrite source]).map Node.file).or
            (((compiler.lastPut? location machine earlier).map Node.file).or
              (machine.files.get? location))) := by
  intro found
  -- an output is read only after a run, so there is one
  cases hpass : compiler.pass? source found with
  | none => exact absurd h ((compile_of_pass?_eq_none hpass).1 compiled)
  | some pass =>
      obtain ⟨hstatus, -, contents, hread, hdecode⟩ := ((compile_of_pass? hpass).2 compiled).mp h
      rw [directory_after] at hread
      obtain ⟨location, node, hresolve, rfl⟩ := FileTree.read_eq_ok hread
      refine ⟨pass, location, node, rfl, hstatus, hresolve, hdecode, ?_⟩
      have hnode := FileTree.get?_of_resolveWhole hresolve
      rw [Pass.left, FileTree.get?_writeAll, files_of_pass? hpass, FileTree.get?_writeAll,
        get?_after] at hnode
      rw [Pass.wroteAt?, files_of_pass? hpass]
      exact hnode.symm

/-- Programs that run as it is written down, one run after the other. -/
instance scripted : Programs (List Completion) where
  run
    | _, _, _, _, [] => ({}, [])
    | _, _, _, _, completion :: script => (completion, script)
  start _ _ _ _ script := (0, script)
  deliver _ _ script := (.ok {}, script)
  stop _ script := script

/-- A compiler to try this on. -/
def trial : Compiler :=
  { program := "/haxe", extraArguments := [], workingDirectory := "/", directory := "/w" }

/-- A machine that has its program, which is going to run as it is written down. -/
def trialMachine (script : List Completion) : Machine (List Completion) where
  files := { nodes := [(["haxe"], .program "haxe"), (["w"], .directory)] }
  programs := script

def writing (output : Text) : Completion := { wrote := [("/w/out.js", Utf8.encode output)] }

/-- The files after a first call that gave an output. -/
def trialFiles : FileTree :=
  ((trialMachine []).files.put ["w", "Repl.hx"] (.file (Utf8.encode "a;"))).put ["w", "out.js"]
    (.file (Utf8.encode "first"))

theorem after_trialMachine (script : List Completion) :
    trial.after (trialMachine (writing "first" :: script)) ["a;"] =
      { trialMachine script with files := trialFiles } := by
  have hpass : trial.pass? "a;" (trialMachine (writing "first" :: script)) = some
      { files := (trialMachine []).files.put ["w", "Repl.hx"] (.file (Utf8.encode "a;")),
        directory := [], completion := writing "first", programs := script } := by cbv
  rw [after, after, (compile_of_pass? hpass).1]
  have hleft : Machine.writeAll ((trialMachine []).files.put ["w", "Repl.hx"]
      (.file (Utf8.encode "a;"))) [] (writing "first").wrote = trialFiles := by cbv
  simp only [Pass.left, hleft]
  rfl

/-- The pass of a second call. -/
def secondPass (completion : Completion) (script : List Completion) :
    Pass (List Completion) where
  files := trialFiles.put ["w", "Repl.hx"] (.file (Utf8.encode "b;"))
  directory := []
  completion := completion
  programs := script

theorem pass?_trialMachine (completion : Completion) (script : List Completion) :
    trial.pass? "b;" { trialMachine (completion :: script) with files := trialFiles } =
      some (secondPass completion script) := by cbv

/-- Two runs that write: the second output is that of the second run. -/
theorem output_written_or_left_second :
    let found := trial.after (trialMachine [writing "first", writing "second"]) ["a;"]
    ∃ pass location node,
      trial.pass? "b;" found = some pass ∧
      Utf8.decodeStrict node.contents = some "second".toList ∧
      pass.wroteAt? location = some (Utf8.encode "second") ∧
      some node = (pass.wroteAt? location).map Node.file := by
  intro found
  have hran : trial.pass? "b;" found = some (secondPass (writing "second") []) := by
    rw [show found = _ from after_trialMachine _, pass?_trialMachine]
  have hread : (secondPass (writing "second") []).left.read [] trial.outputPath =
      .ok (Utf8.encode "second") := by cbv
  have hvalue : ((trial.compile "b;").run found).value =
      .ok { output := "second" } := by
    refine ((compile_of_pass? hran).2 _).mpr ⟨rfl, by decide, Utf8.encode "second", ?_, by decide⟩
    rw [directory_after]
    exact hread
  obtain ⟨pass, location, node, hpass, -, hresolve, hdecode, hnode⟩ :=
    output_written_or_left hvalue
  rw [hran] at hpass
  cases hpass
  have hplace : (secondPass (writing "second") []).left.resolveWhole false [] trial.outputPath =
      .ok (.occupied ["w", "out.js"] (.file (Utf8.encode "second"))) := by cbv
  have hwrote : (secondPass (writing "second") []).wroteAt? ["w", "out.js"] =
      some (Utf8.encode "second") := by cbv
  have hsame := hresolve.symm.trans hplace
  simp only [Except.ok.injEq, Place.occupied.injEq] at hsame
  obtain ⟨rfl, -⟩ := hsame
  rw [hwrote, Option.map_some, Option.some_or] at hnode
  refine ⟨_, _, node, hran, hdecode, hwrote, ?_⟩
  rw [hwrote, hnode, Option.map_some]

/-- A run that succeeds without writing: the output is that of the run before. -/
theorem stale_output :
    let found := trial.after (trialMachine [writing "first", {}]) ["a;"]
    ((trial.compile "b;").run found).value = .ok { output := "first" } ∧
      ∃ pass, trial.pass? "b;" found = some pass ∧ ∀ location, pass.wroteAt? location = none := by
  intro found
  have hran : trial.pass? "b;" found = some (secondPass {} []) := by
    rw [show found = _ from after_trialMachine _, pass?_trialMachine]
  have hread : (secondPass {} []).left.read [] trial.outputPath =
      .ok (Utf8.encode "first") := by cbv
  refine ⟨?_, _, hran, fun location => rfl⟩
  refine ((compile_of_pass? hran).2 _).mpr ⟨rfl, by decide, Utf8.encode "first", ?_, by decide⟩
  rw [directory_after]
  exact hread

end Compiler

end HaxePrompt

import HaxePrompt.Tool.RunnerScript
import HaxePrompt.Tool.Workshop

/-! # Settings

The settings of a session say which programs to use, what to hand the compiler, where modules
are looked for, and what is shown.  `Settings.equip` makes the tools that they ask for. -/

namespace HaxePrompt

/-- The settings of a session. -/
structure Settings where
  compiler : Text := "haxe"
  evaluator : Text := "node"
  compilerArguments : List Text := []
  showWarnings : Bool := true
  colours : Bool := false
  /-- The directory in which modules are looked for, if not the current one. -/
  directory : Option Text := none
deriving DecidableEq, Repr

namespace Settings

variable {π : Type}

/-- The absolute path of the directory in which modules are looked for. -/
def workingDirectory (settings : Settings) : Act (Machine π) (Except Fault Text) := do
  let machine ← Act.get
  let path := settings.directory.getD (FileTree.pathOf machine.directory)
  match ← Machine.canonical path with
  | .error error => return .error (.unusableDirectory path error)
  | .ok directory => return .ok directory

/-- Makes the tools. -/
def equip (settings : Settings) : Act (Machine π) (Except Fault Equipment) := do
  match ← settings.workingDirectory with
  | .error fault => return .error fault
  | .ok directory =>
    match ← Compiler.create settings.compiler settings.compilerArguments directory with
    | .error fault => return .error fault
    | .ok compiler =>
      match ← Sandbox.create settings.evaluator directory settings.colours runnerScript with
      | .error fault =>
        compiler.dispose
        return .error fault
      | .ok sandbox => return .ok { compiler, sandbox }

end Settings

end HaxePrompt

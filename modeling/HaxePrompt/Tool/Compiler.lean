import HaxePrompt.Assembly.Program
import HaxePrompt.Machine.Basic
import HaxePrompt.Text.Blank
import HaxePrompt.Turn.Toolchain

/-! # The compiler

The Haxe compiler is run as a batch tool.  It has a temporary directory for the whole session,
in which each program is written over the one before and the compiled output is read.  Its flags
keep it from leaving out statements, even those without an effect, so that every statement has
code of its own between the markers. -/

namespace HaxePrompt

/-- The compiler of a session. -/
structure Compiler where
  program : Text
  /-- The arguments given to it before the fixed ones. -/
  extraArguments : List Text
  workingDirectory : Text
  directory : Text
deriving DecidableEq, Repr

namespace Compiler

variable {π : Type}

/-- The name of the file that holds the program. -/
def sourceFile : Text := "Repl.hx"

/-- The name of the file that holds the compiled output. -/
def outputFile : Text := "out.js"

def sourcePath (compiler : Compiler) : Text := FileTree.pathIn compiler.directory sourceFile

def outputPath (compiler : Compiler) : Text := FileTree.pathIn compiler.directory outputFile

def flags : List Text :=
  ["-D", "js-classic", "-D", "nodejs", "-lib", "hxnodejs", "--no-inline", "--no-opt", "-dce", "no"]

def arguments (compiler : Compiler) : List Text :=
  compiler.extraArguments ++ flags ++
    [("-cp" : Text), compiler.directory, "-js", compiler.outputPath, Program.className]

/-- Makes a compiler with a temporary directory of its own. -/
def create (program : Text) (extraArguments : List Text) (workingDirectory : Text) :
    Act (Machine π) (Except Fault Compiler) := do
  match ← Machine.makeTemporary "hxrepl_" with
  | .error error => return .error (.ofIoError error)
  | .ok directory =>
    Act.note (.programDirectory directory)
    return .ok { program, extraArguments, workingDirectory, directory }

/-- Removes what the compiler left, if it is still there. -/
def dispose (compiler : Compiler) : Act (Machine π) Unit := do
  let _ ← Machine.remove compiler.directory

variable [Programs π]

/-- Asks a program for its version by the given flag.  Gives what it wrote to its standard
output and to its standard error, without the blanks around it. -/
def askVersion (program flag : Text) : Act (Machine π) (Except Fault (Text × Text)) := do
  match ← Machine.run { program, arguments := [flag] } with
  | .error error => return .error (.of .toolchain (Fault.cannotRun program error))
  | .ok completion =>
    let output := Text.trim (Utf8.decodeLossy completion.output)
    let errors := Text.trim (Utf8.decodeLossy completion.errors)
    if completion.status.isSuccess then return .ok (output, errors)
    else return .error (.of .toolchain errors)

/-- The version of the compiler.  Some compilers write it to their standard error. -/
def version (compiler : Compiler) : Act (Machine π) (Except Fault Text) := do
  match ← askVersion compiler.program "-version" with
  | .error fault => return .error fault
  | .ok (output, errors) => return .ok (if output.isEmpty then errors else output)

/-- A refusal that the compiler did not utter itself. -/
def refusal (message : Text) : Except (List Diagnostic) Compiled := .error [.other message]

def readOutput (compiler : Compiler) (diagnostics : List Diagnostic) :
    Act (Machine π) (Except (List Diagnostic) Compiled) := do
  let cannotRead (error : IoError) : Except (List Diagnostic) Compiled :=
    refusal ("cannot read " ++ compiler.outputPath ++ ": " ++ error.describe)
  match ← Machine.read compiler.outputPath with
  | .error error => return cannotRead error
  | .ok bytes =>
    match Utf8.decodeStrict bytes with
    | none => return cannotRead .invalidUtf8
    | some output => return .ok { output, diagnostics }

/-- Tells the log of the diagnostics that point into the program. -/
def noteDiagnostics (diagnostics : List Diagnostic) : Act (Machine π) Unit :=
  Act.emitAll (diagnostics.filterMap fun diagnostic =>
    diagnostic.line?.map fun line => .note (.located sourceFile line diagnostic.message))

def compile (compiler : Compiler) (source : Text) :
    Act (Machine π) (Except (List Diagnostic) Compiled) := do
  match ← Machine.write compiler.sourcePath (Utf8.encode source) with
  | .error error =>
    return refusal ("cannot write " ++ compiler.sourcePath ++ ": " ++ error.describe)
  | .ok () =>
    Act.note (.invoked (compiler.program :: compiler.arguments))
    match ← Machine.run
        { program := compiler.program, arguments := compiler.arguments,
          directory := some compiler.workingDirectory } with
    | .error error => return refusal (Fault.cannotRun compiler.program error)
    | .ok completion =>
      let diagnostics := Diagnostic.parse sourceFile (Utf8.decodeLossy completion.errors)
      noteDiagnostics diagnostics
      if completion.status.isSuccess then readOutput compiler diagnostics
      else
        Act.note (.compilerExited completion.status)
        return .error diagnostics

end Compiler

end HaxePrompt

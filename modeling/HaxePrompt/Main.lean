import HaxePrompt.Shell.Startup

/-! # The program

The outermost layer: collects the arguments, the variables and the input, and writes what the
run leaves.  The machine of this program holds no files and no programs besides the directory
for temporary files; a machine with a compiler and an evaluator is made by an instance of
`Programs`. -/

namespace HaxePrompt

/-- The memory of programs that are not there. -/
structure NoPrograms where

instance : Programs NoPrograms where
  run _ _ _ _ memory := ({ status := .exited 127 }, memory)
  start _ _ _ _ memory := (0, memory)
  deliver _ _ memory := (.error .brokenPipe, memory)
  stop _ memory := memory

def bareMachine : Machine NoPrograms :=
  { files := FileTree.makeDirectories {} ["tmp"], programs := {} }

/-- The values of the variables that the program looks at. -/
def readEnvironment : IO Environment := do
  let entries ← Environment.known.mapM fun name => do
    let value ← IO.getEnv (String.ofList name)
    return value.map fun value => (name, value.toList)
  return entries.filterMap id

end HaxePrompt

open HaxePrompt in
/-- Runs the program on what is at standard input. -/
def main (arguments : List String) : IO UInt32 := do
  let input ← (← IO.getStdin).readBinToEnd
  let call : Startup.Call :=
    { arguments := arguments.map String.toList
      environment := ← readEnvironment
      input := input.toList }
  let result := (Startup.run call).run bareMachine
  let shown (channel : Channel) : ByteArray :=
    ⟨(Emission.shown call.display channel result.emitted).toArray⟩
  (← IO.getStdout).write (shown .output)
  (← IO.getStderr).write (shown .error)
  return result.value.toUInt32

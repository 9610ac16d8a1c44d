import HaxePrompt.Tool.Compiler
import HaxePrompt.Tool.Sandbox

/-! # The workshop

A workshop is a machine with a compiler and a sandbox on it.  `Workshop.toolchain` makes a
toolchain of the two. -/

namespace HaxePrompt

/-- The tools of a session. -/
structure Equipment where
  compiler : Compiler
  sandbox : Sandbox
deriving DecidableEq, Repr

/-- A machine with the tools of a session on it. -/
structure Workshop (π : Type) extends Equipment where
  machine : Machine π

namespace Workshop

variable {π α : Type}

def onMachine (act : Act (Machine π) α) : Act (Workshop π) α :=
  Act.on Workshop.machine (fun machine workshop => { workshop with machine }) act

variable [Programs π]

def compile (source : Text) : Act (Workshop π) (Except (List Diagnostic) Compiled) := do
  let workshop ← Act.get
  onMachine (workshop.compiler.compile source)

def evaluate (code : Text) : Act (Workshop π) (Except Fault (Option Text)) := do
  let workshop ← Act.get
  let (sandbox, result) ← onMachine (workshop.sandbox.evaluate code)
  Act.modify fun workshop => { workshop with sandbox }
  return result

/-- Forgets what the evaluated code has defined. -/
def reset : Act (Workshop π) Unit := do
  let workshop ← Act.get
  let sandbox ← onMachine workshop.sandbox.reset
  Act.modify fun workshop => { workshop with sandbox }

/-- The compiler and the sandbox as a toolchain. -/
def toolchain : Toolchain (Workshop π) where
  compile := compile
  evaluate := evaluate
  reset := reset

def dispose : Act (Workshop π) Unit := do
  let workshop ← Act.get
  onMachine workshop.compiler.dispose
  onMachine workshop.sandbox.dispose

end Workshop

end HaxePrompt

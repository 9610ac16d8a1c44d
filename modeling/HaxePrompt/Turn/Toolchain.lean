import HaxePrompt.Act
import HaxePrompt.Message.Diagnostic

/-! # Toolchains

A toolchain is what an entry is run with: a compiler and an evaluator, with a state that both
may change.  Nothing is assumed about either of them. -/

namespace HaxePrompt

/-- What a successful compilation gives. -/
structure Compiled where
  output : Text
  /-- The warnings, and whatever else the compiler had to say. -/
  diagnostics : List Diagnostic := []
deriving DecidableEq, Repr

/-- A compiler and an evaluator with a state of type `σ`. -/
structure Toolchain (σ : Type) where
  compile : Text → Act σ (Except (List Diagnostic) Compiled)
  /-- Runs code and gives its value as text, if it has one. -/
  evaluate : Text → Act σ (Except Fault (Option Text))
  reset : Act σ Unit

end HaxePrompt

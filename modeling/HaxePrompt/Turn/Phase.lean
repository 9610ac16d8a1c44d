import HaxePrompt.Text.Basic

/-! # Phases of a turn

A turn goes through the phases of `Phase`; `Phase.leadsTo` says which phase may follow which.
The phase between two turns is `idle`, and every turn comes back to it after a failure of the
compiler, a failure of the evaluation, or a success. -/

namespace HaxePrompt

/-- Where a turn stands. -/
inductive Phase where
  | idle
  | assembling
  | compiling
  | compileFailed
  | compileSucceeded
  | evaluating
  | evalFailed
  | evalSucceeded
deriving DecidableEq, Repr

namespace Phase

/-- All phases, in the order of a turn. -/
def all : List Phase :=
  [.idle, .assembling, .compiling, .compileFailed, .compileSucceeded, .evaluating, .evalFailed,
   .evalSucceeded]

def name : Phase → Text
  | .idle => "idle"
  | .assembling => "assembling"
  | .compiling => "compiling"
  | .compileFailed => "compile failed"
  | .compileSucceeded => "compile succeeded"
  | .evaluating => "evaluating"
  | .evalFailed => "eval failed"
  | .evalSucceeded => "eval succeeded"

/-- May the second phase follow the first? -/
def leadsTo : Phase → Phase → Bool
  | .idle, .assembling => true
  | .assembling, .compiling => true
  | .compiling, .compileFailed => true
  | .compiling, .compileSucceeded => true
  | .compileSucceeded, .evaluating => true
  | .evaluating, .evalFailed => true
  | .evaluating, .evalSucceeded => true
  | .compileFailed, .idle => true
  | .evalFailed, .idle => true
  | .evalSucceeded, .idle => true
  | _, _ => false

end Phase

end HaxePrompt

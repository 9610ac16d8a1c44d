import HaxePrompt.Machine.IoError

/-! # Processes

An `Invocation` says what program to run and how; an `ExitStatus` says how a process ended.  A
program that runs to its end leaves a `Completion`.  A program that serves requests line by line
answers each of them by a `Reaction`. -/

namespace HaxePrompt

/-- How a process ended. -/
inductive ExitStatus where
  | exited (status : Nat)
  | killed (signal : Nat)
deriving DecidableEq, Repr

namespace ExitStatus

def isSuccess : ExitStatus → Bool
  | .exited status => status == 0
  | .killed _ => false

/-- The names of the signals, in the order of their numbers from one. -/
def signalNames : List String :=
  ["SIGHUP", "SIGINT", "SIGQUIT", "SIGILL", "SIGTRAP", "SIGABRT", "SIGBUS", "SIGFPE", "SIGKILL",
   "SIGUSR1", "SIGSEGV", "SIGUSR2", "SIGPIPE", "SIGALRM", "SIGTERM", "SIGSTKFLT", "SIGCHLD",
   "SIGCONT", "SIGSTOP", "SIGTSTP", "SIGTTIN", "SIGTTOU", "SIGURG", "SIGXCPU", "SIGXFSZ",
   "SIGVTALRM", "SIGPROF", "SIGWINCH", "SIGIO", "SIGPWR", "SIGSYS"]

def describe : ExitStatus → Text
  | .exited status => "exit status: " ++ Text.decimal status
  | .killed signal =>
    "signal: " ++ Text.decimal signal ++
      match if signal = 0 then none else signalNames[signal - 1]? with
      | some name => " (" ++ (name : Text) ++ ")"
      | none => []

end ExitStatus

/-- How a program is run. -/
structure Invocation where
  program : Text
  arguments : List Text
  directory : Option Text := none
deriving DecidableEq, Repr

/-- What a program left that ran to its end. -/
structure Completion where
  output : Bytes := []
  errors : Bytes := []
  status : ExitStatus := .exited 0
  /-- The files it wrote, by path, in order. -/
  wrote : List (Text × Bytes) := []
deriving DecidableEq, Repr

/-- What a serving program did between one request and the next. -/
structure Reaction where
  output : Bytes := []
  errors : Bytes := []
  ended : Option ExitStatus := none
deriving DecidableEq, Repr

end HaxePrompt

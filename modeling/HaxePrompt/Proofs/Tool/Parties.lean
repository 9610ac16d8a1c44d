import HaxePrompt.Proofs.Tool.Demultiplex
import HaxePrompt.Tool.Sandbox
import Mathlib.Logic.Function.Basic

/-! # A sandbox, its runners and their readers

`Sandbox.ask` hands a request to a runner and gets its whole reaction back at once.  What lies
behind it are parties that run side by side: the caller, who evaluates and resets; the runners,
each a process; and for each runner a reader, a thread that shows the output of the runner and
passes its reports on.  They share only channels.  The caller writes lines to the standard input
of a runner, the runner writes bytes to its standard output, the reader puts reports into a
channel from which the caller takes them, and all readers write to one standard output that holds
bytes back until it is flushed.

A `System` is a state of all of them and `Step` is one move of one of them, so a run is any
interleaving.  A `Link` is all there is of one runner, with a record of what has happened on it
that no move depends on. -/

namespace HaxePrompt

namespace Parties

/-- A request on its way: the line that asks for the code, and the number of the call that wrote
it. -/
structure Asked where
  call : Nat
  code : Text
deriving DecidableEq

/-- What a runner does. -/
inductive Work where
  | idle
  | busy (unwritten : Bytes) (ends? : Option ExitStatus)
  | ended (status : ExitStatus)

/-- What a reader does. -/
inductive Reading where
  | reading
  | printing (output : Text) (report? : Option Report)
  | flushing (report? : Option Report)
  | sending (report : Report)
  | stopped

/-- A runner, its reader and the channels between them and the caller. -/
structure Link where
  stdin : List Asked := []
  work : Work := .idle
  stdout : Bytes := []
  received : Bytes := []
  reading : Reading := .reading
  channel : List Report := []
  /-- Does the caller hold the runner, or wait for it? -/
  attached : Bool := false
  asked : List Asked := []
  answered : List (Asked × Reply) := []
  /-- The request at which the runner ended without a report, and its output then. -/
  fatal : Option (Asked × Bytes) := none
  read : List Bytes := []
  taken : List Report := []

namespace Link

/-- The runner is dropped: it is killed, and nobody will take its reports. -/
def dropped (link : Link) : Link :=
  { link with
    attached := false
    work := match link.work with
      | .ended status => .ended status
      | _ => .ended (.killed 9) }

/-- A move of a runner or, but for printing, of its reader. -/
inductive Step : Link → Link → Prop where
  | answer {link : Link} {asked : Asked} {rest : List Asked} (reply : Reply) :
      link.work = .idle → link.stdin = asked :: rest →
      Step link
        { link with
          stdin := rest, work := .busy reply.bytes none
          answered := link.answered ++ [(asked, reply)] }
  /-- The runner reads a request and sets out to end over it, without a report. -/
  | perish {link : Link} {asked : Asked} {rest : List Asked} {output : Bytes}
      (status : ExitStatus) :
      Report.TagFree output → link.work = .idle → link.stdin = asked :: rest →
      Step link
        { link with
          stdin := rest, work := .busy output (some status), fatal := some (asked, output) }
  | write {link : Link} {chunk rest : Bytes} {ends? : Option ExitStatus} :
      link.work = .busy (chunk ++ rest) ends? →
      Step link { link with work := .busy rest ends?, stdout := link.stdout ++ chunk }
  | finish {link : Link} : link.work = .busy [] none → Step link { link with work := .idle }
  | exit {link : Link} {status : ExitStatus} :
      link.work = .busy [] (some status) → Step link { link with work := .ended status }
  /-- The runner ends by itself, or somebody ends it. -/
  | die {link : Link} (status : ExitStatus) :
      link.work = .idle → Step link { link with work := .ended status }
  | take {link : Link} {chunk rest : Bytes} :
      link.reading = .reading → link.stdout = chunk ++ rest →
      Step link { link with stdout := rest, received := link.received ++ chunk }
  | line {link : Link} {line : Bytes} {lines : List Bytes} :
      link.reading = .reading → (Report.complete link.received).1 = line :: lines →
      Step link
        { link with
          received := lines.flatten ++ (Report.complete link.received).2
          reading := .printing (Report.ofLine line).1 (Report.ofLine line).2
          read := link.read ++ [line] }
  /-- The runner has ended, and the reader has read a last line that has no end. -/
  | last {link : Link} {status : ExitStatus} :
      link.reading = .reading → link.work = .ended status → link.stdout = [] →
      (Report.complete link.received).1 = [] → link.received ≠ [] →
      Step link
        { link with
          received := []
          reading :=
            .printing (Report.ofLine link.received).1 (Report.ofLine link.received).2
          read := link.read ++ [link.received] }
  | close {link : Link} {status : ExitStatus} :
      link.reading = .reading → link.work = .ended status → link.stdout = [] →
      link.received = [] → Step link { link with reading := .stopped }
  | fail {link : Link} : link.reading = .reading → Step link { link with reading := .stopped }
  | send {link : Link} {report : Report} :
      link.reading = .sending report → link.attached = true →
      Step link { link with reading := .reading, channel := link.channel ++ [report] }
  /-- Nobody will take the report. -/
  | giveUp {link : Link} {report : Report} :
      link.reading = .sending report → link.attached = false →
      Step link { link with reading := .stopped }

end Link

/-- What the caller does. -/
inductive Caller where
  | idle (runner? : Option Nat)
  | asking (runner call : Nat) (code : Text)
  | waiting (runner call : Nat)

/-- The runner that the caller holds or waits for. -/
def Caller.runner? : Caller → Option Nat
  | idle runner? => runner?
  | asking runner _ _ | waiting runner _ => some runner

/-- A state of all parties.  Runners are numbered as they are started, and calls as they are
made. -/
structure System where
  links : Nat → Link := fun _ => {}
  started : Nat := 0
  caller : Caller := .idle none
  calls : Nat := 0
  /-- What standard output holds back, each byte with the runner whose reader printed it. -/
  buffered : List (Nat × UInt8) := []
  written : List (Nat × UInt8) := []

/-- How an evaluation ends. -/
inductive Outcome where
  | reported (runner : Nat) (report : Report)
  | unstarted (error : IoError)
  | gone (error : IoError)
  | exited (status : ExitStatus)

/-- What the evaluation gives. -/
def Outcome.result (sandbox : Sandbox) : Outcome → Except Fault (Option Text)
  | reported _ report => report.result
  | unstarted error => .error (.of .eval (Fault.cannotRun sandbox.program error))
  | gone error => .error (Sandbox.gone error)
  | exited status => .error (Sandbox.exited status)

namespace System

def withLink (s : System) (id : Nat) (link : Link) : System :=
  { s with links := Function.update s.links id link }

/-- One move of one party, with the evaluation that it ends, if it ends one. -/
inductive Step : System → Option (Nat × Outcome) → System → Prop where
  | link {s : System} {id : Nat} {link : Link} :
      id < s.started → (s.links id).Step link → Step s none (s.withLink id link)
  | print {s : System} {id : Nat} {output : Text} {report? : Option Report} :
      id < s.started → (s.links id).reading = .printing output report? →
      Step s none
        { s.withLink id { s.links id with reading := .flushing report? } with
          buffered := s.buffered ++ (Utf8.encode output).map (id, ·) }
  /-- A reader flushes what is printed, and goes on to the report of the line, if there is one. -/
  | flush {s : System} {id : Nat} {report? : Option Report} :
      id < s.started → (s.links id).reading = .flushing report? →
      Step s none
        { s.withLink id
            { s.links id with reading := (report?.map Reading.sending).getD .reading } with
          written := s.written ++ s.buffered, buffered := [] }
  /-- Standard output writes some of what it holds back. -/
  | drain {s : System} {front rest : List (Nat × UInt8)} :
      s.buffered = front ++ rest →
      Step s none { s with written := s.written ++ front, buffered := rest }
  | evaluate {s : System} {id : Nat} (code : Text) :
      s.caller = .idle (some id) →
      Step s none { s with caller := .asking id s.calls code, calls := s.calls + 1 }
  | start {s : System} (code : Text) :
      s.caller = .idle none →
      Step s none
        { s.withLink s.started { attached := true } with
          started := s.started + 1, caller := .asking s.started s.calls code
          calls := s.calls + 1 }
  | unstarted {s : System} (code : Text) (error : IoError) :
      s.caller = .idle none →
      Step s (some (s.calls, .unstarted error)) { s with calls := s.calls + 1 }
  | ask {s : System} {id call : Nat} {code : Text} :
      s.caller = .asking id call code →
      Step s none
        { s.withLink id
            { s.links id with
              stdin := (s.links id).stdin ++ [⟨call, code⟩]
              asked := (s.links id).asked ++ [⟨call, code⟩] } with
          caller := .waiting id call }
  | gone {s : System} {id call : Nat} {code : Text} (error : IoError) :
      s.caller = .asking id call code →
      Step s (some (call, .gone error))
        { s.withLink id (s.links id).dropped with caller := .idle none }
  | report {s : System} {id call : Nat} {report : Report} {rest : List Report} :
      s.caller = .waiting id call → (s.links id).channel = report :: rest →
      Step s (some (call, .reported id report))
        { s.withLink id
            { s.links id with channel := rest, taken := (s.links id).taken ++ [report] } with
          caller := .idle (some id) }
  | exited {s : System} {id call : Nat} {status : ExitStatus} :
      s.caller = .waiting id call → (s.links id).channel = [] →
      (s.links id).reading = .stopped → (s.links id).work = .ended status →
      Step s (some (call, .exited status))
        { s.withLink id (s.links id).dropped with caller := .idle none }
  | reset {s : System} {id : Nat} :
      s.caller = .idle (some id) →
      Step s none { s.withLink id (s.links id).dropped with caller := .idle none }

/-- The states that come about, whatever the interleaving. -/
inductive Reachable : System → Prop where
  | initial : Reachable {}
  | step {s s' : System} {ended? : Option (Nat × Outcome)} :
      Reachable s → Step s ended? s' → Reachable s'

end System

end Parties

end HaxePrompt

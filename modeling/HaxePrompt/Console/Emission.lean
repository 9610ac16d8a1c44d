import HaxePrompt.Console.Notice
import HaxePrompt.Text.Utf8

/-! # What a run leaves at the terminal

A run leaves a list of emissions, oldest first: what it printed, what its programs wrote, what it
told the log, and the conditions it relied on (`Check`), which are kept so that it can be stated
that they hold, and are never shown.  `Emission.shown` is the bytes that appear on a channel of
the terminal, under settings that say whether there are colours and whether the log is on. -/

namespace HaxePrompt

/-- The channels of the terminal. -/
inductive Channel where
  | output
  | error
deriving DecidableEq, Repr

/-- A condition that a run relies on. -/
inductive Check where
  | move (before after : Phase)
  | rollback (taken : Option Text) (source : Text)
deriving DecidableEq, Repr

def Check.holds : Check → Bool
  | .move before after => before.leadsTo after
  | .rollback taken source => taken = some source

/-- One thing that a run left. -/
inductive Emission where
  | print (channel : Channel) (fragments : List Fragment)
  /-- Bytes written on a channel as they are, which need not be text. -/
  | write (channel : Channel) (bytes : Bytes)
  | note (notice : Notice)
  | check (check : Check)
deriving DecidableEq, Repr

/-- How emissions are shown. -/
structure Display where
  colours : Bool := false
  log : Bool := false
deriving DecidableEq, Repr

namespace Emission

def line (channel : Channel) (fragments : List Fragment) : Emission :=
  .print channel (fragments ++ [.plain Text.newline])

/-- A line of text on standard output. -/
def say (text : Text) : Emission := line .output [.plain text]

/-- A piece of text on a channel, as it is. -/
def raw (channel : Channel) (text : Text) : Emission := .print channel [.plain text]

def fault (fault : Fault) : List Emission := fault.report.map (line .error)

/-- What appears of one emission on a channel. -/
def shownOne (display : Display) (channel : Channel) : Emission → Bytes
  | .print target fragments =>
    if target = channel then Utf8.encode (Fragment.renderAll display.colours fragments) else []
  | .write target bytes => if target = channel then bytes else []
  | .note notice =>
    if channel = .error ∧ display.log then
      Utf8.encode (Fragment.renderAll display.colours notice.report ++ Text.newline)
    else []
  | .check _ => []

/-- What appears on a channel. -/
def shown (display : Display) (channel : Channel) (emissions : List Emission) : Bytes :=
  emissions.flatMap (shownOne display channel)

end Emission

end HaxePrompt

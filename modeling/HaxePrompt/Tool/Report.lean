import HaxePrompt.Message.Fault
import HaxePrompt.Text.Blank
import HaxePrompt.Text.Utf8
import HaxePrompt.Tool.Json

/-! # Requests and reports

The evaluator reads requests, one JSON text to a line, and answers each by a report, a line that
begins with a tag.  On the same channel comes whatever the evaluated code prints, which may end
without a line feed, so a report may stand behind output on its line.  `Report.ofLine` tells the
two apart, and `Report.complete` cuts the bytes received into lines. -/

namespace HaxePrompt

/-- The line that asks for code to be run. -/
def request (code : Text) : Text :=
  "\x7b\"code\":" ++ Json.quote code ++ "\x7d" ++ Text.newline

/-- The answer to a request. -/
structure Report where
  ok : Bool
  value : Option Text := none
  message : Option Text := none
deriving DecidableEq, Repr

namespace Report

/-- What stands in front of a report. -/
def tag : Text := "\x01hxrepl-report:"

/-- The value of the code that was run, or the fault it ended with. -/
def result (report : Report) : Except Fault (Option Text) :=
  if report.ok then .ok report.value
  else .error (.of .eval (report.message.getD []))

/-- What stands for a report that cannot be read.  The program goes on, behind the colon, with what
its JSON reader says of the text; `malformed report` stands in its place and is not the wording that
is printed. -/
def unreadable : Report :=
  { ok := false, message := some "unreadable sandbox report: malformed report" }

/-! ### Reading a report -/

/-- A text that may be missing. -/
def optionalText? : Json → Option (Option Text)
  | .null => some none
  | .string (some text) => some (some text)
  | _ => none

/-- A report with one more member.  A member is given at most once; those of other names are
passed over. -/
def readMembers : Option Bool → Option (Option Text) → Option (Option Text) →
    List (Option Text × Json) → Option Report
  | ok?, value?, message?, [] => do
    return { ok := ← ok?, value := value?.getD none, message := message?.getD none }
  | ok?, value?, message?, (name?, json) :: rest => do
    let name ← name?
    if name = "ok".toList then
      match ok?, json with
      | none, .bool ok => readMembers (some ok) value? message? rest
      | _, _ => none
    else if name = "value".toList then
      if value?.isSome then none
      else readMembers ok? (some (← optionalText? json)) message? rest
    else if name = "message".toList then
      if message?.isSome then none
      else readMembers ok? value? (some (← optionalText? json)) rest
    else readMembers ok? value? message? rest

/-- The report of a JSON value: an object, or an array of its members in order. -/
def ofJson? : Json → Option Report
  | .object members => readMembers none none none members
  | .array [.bool ok] => some { ok }
  | .array [.bool ok, value] => do
    return { ok, value := ← optionalText? value }
  | .array [.bool ok, value, message] => do
    return { ok, value := ← optionalText? value, message := ← optionalText? message }
  | _ => none

/-- The report of the text behind a tag. -/
def ofText (s : Text) : Report :=
  ((Json.parse (Text.trimEnd s)).bind ofJson?).getD unreadable

/-! ### Telling reports from output -/

/-- The output on a line, and the report behind it, if there is one. -/
def ofLine (line : Bytes) : Text × Option Report :=
  let text := Utf8.decodeLossy line
  match Text.cut tag text with
  | some (output, report) => (output, some (ofText report))
  | none => (text, none)

def lineEnd : Bytes := [10]

/-- The lines that are complete, each with its end, and what follows the last of them. -/
def complete (received : Bytes) : List Bytes × Bytes :=
  let pieces := Text.split lineEnd received
  (pieces.dropLast.map (· ++ lineEnd), pieces.getLast?.getD [])

/-! ### Writing a report -/

def writeOptional : Option Text → Text
  | some text => Json.quote text
  | none => "null"

/-- The report as the evaluator writes it, without its tag. -/
def write (report : Report) : Text :=
  if report.ok then
    "\x7b\"ok\":true,\"value\":" ++ writeOptional report.value ++ "\x7d"
  else
    "\x7b\"ok\":false,\"message\":" ++ Json.quote (report.message.getD []) ++ "\x7d"

end Report

end HaxePrompt

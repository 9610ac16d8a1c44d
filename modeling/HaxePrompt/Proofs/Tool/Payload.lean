import HaxePrompt.Proofs.Text.Trim
import HaxePrompt.Proofs.Tool.Json
import HaxePrompt.Tool.Report

/-! # What a runner reports

A runner is given a `Payload` to report and writes it as one object, in which the value and the
message may be missing or be null.  It is read back as the report that it stands for
(`ofText_write`), and is written without control characters (`noControl_write`), so on
one line.  The two forms in which a runner answers a request are written as payloads
(`write_ofReport`). -/

namespace HaxePrompt

open Json (Member NoControl Reads)

/-- What is reported: whether the code ran to its end, and a value and a message, each of which
may be left out, or be there and stand for nothing. -/
structure Payload where
  ok : Bool
  value : Option (Option Text) := none
  message : Option (Option Text) := none
deriving DecidableEq, Repr

namespace Payload

/-- The report that the payload stands for. -/
def report (payload : Payload) : Report :=
  { ok := payload.ok, value := payload.value.getD none, message := payload.message.getD none }

/-! ### Writing -/

/-- A truth value as text. -/
def truth (ok : Bool) : Text := if ok then "true" else "false"

theorem reads_truth (ok : Bool) : Reads (truth ok) (.bool ok) := by
  cases ok with
  | true => exact Json.reads_true
  | false => exact Json.reads_false

/-- A text that may be missing, as a JSON value. -/
def optional : Option Text → Json
  | some text => .string (some text)
  | none => .null

theorem reads_writeOptional (text : Option Text) :
    Reads (Report.writeOptional text) (optional text) := by
  cases text with
  | some text => exact Json.reads_quote text
  | none => exact Json.reads_null

/-- The member that tells whether the code ran to its end. -/
def okMember (ok : Bool) : Member := ⟨"ok", truth ok, .bool ok, reads_truth ok⟩

/-- A member that holds a text that may be missing. -/
def optionalMember (name : Text) (text : Option Text) : Member :=
  ⟨name, Report.writeOptional text, optional text, reads_writeOptional text⟩

def members (payload : Payload) : List Member :=
  okMember payload.ok :: ((payload.value.map (optionalMember "value")).toList ++
    (payload.message.map (optionalMember "message")).toList)

def write (payload : Payload) : Text := Json.writeObject payload.members

/-! ### Reading -/

theorem ofJson?_members (payload : Payload) :
    Report.ofJson? (.object (payload.members.map Member.read)) = some payload.report := by
  obtain ⟨ok, value, message⟩ := payload
  cases value with
  | none =>
      cases message with
      | none => rfl
      | some message => cases message <;> rfl
  | some value =>
      cases message with
      | none => cases value <;> rfl
      | some message => cases value <;> cases message <;> rfl

theorem getLast?_write (payload : Payload) : payload.write.getLast? = some '\x7d' := by
  rw [write, Json.writeObject, ← List.cons_append, List.getLast?_concat]

/-- **A payload is read back as its report.** -/
theorem ofText_write (payload : Payload) : Report.ofText payload.write = payload.report := by
  have hlast : ∀ c ∈ payload.write.getLast?, Text.isBlank c = false := by
    rw [getLast?_write]
    rintro c ⟨⟩
    decide
  have hparse : Json.parse payload.write = some (.object (payload.members.map Member.read)) :=
    Json.parse_writeObject (List.cons_ne_nil _ _)
  rw [Report.ofText, Text.trimEnd_eq_self hlast, hparse, Option.bind_some, ofJson?_members,
    Option.getD_some]

theorem noControl_truth (ok : Bool) : NoControl (truth ok) := by
  cases ok with
  | true => decide
  | false => decide

theorem noControl_writeOptional (text : Option Text) : NoControl (Report.writeOptional text) := by
  cases text with
  | some text => exact Json.noControl_quote text
  | none => decide

theorem noControl_write (payload : Payload) : NoControl payload.write := by
  apply Json.noControl_writeObject
  intro member hmember
  unfold members at hmember
  simp only [List.mem_cons, List.mem_append, Option.mem_toList, Option.map_eq_some_iff] at hmember
  rcases hmember with rfl | ⟨text, _, rfl⟩ | ⟨text, _, rfl⟩
  · exact noControl_truth payload.ok
  · exact noControl_writeOptional text
  · exact noControl_writeOptional text

/-! ### Reports -/

/-- What a runner gives to report an answer with: the value, or the message. -/
def ofReport (report : Report) : Payload :=
  if report.ok then { ok := true, value := some report.value }
  else { ok := false, message := some (some (report.message.getD [])) }

theorem write_ofReport (report : Report) : (ofReport report).write = report.write := by
  unfold ofReport Report.write
  split
  · exact Json.writeObject_pair _ _
  · exact Json.writeObject_pair _ _

end Payload

end HaxePrompt

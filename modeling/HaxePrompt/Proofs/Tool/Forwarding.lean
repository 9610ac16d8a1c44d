import HaxePrompt.Proofs.Text.Lossy
import HaxePrompt.Proofs.Tool.Asking
import HaxePrompt.Proofs.Tool.Payload

/-! # What a runner sends

A `Transcript` is what a runner sends until it ends: output that holds no tag, a report behind it,
output again, and so on, and output at the end.  However its bytes arrive, they are read as if they
had come at once (`run_attendAll`).

The reports arrive as they were sent, whatever the output around them is (`reports_attendAll`).
The output is shown lossily decoded, so it is forwarded as it is exactly if each piece of it is the
bytes of a text (`shown_attendAll`); a character of which a report came in between is not
(`forwarded_in_pieces`). -/

namespace HaxePrompt

open Report (reportsIn outputIn reportsIn_append outputIn_append)

/-! ### Transcripts -/

/-- What a runner sends. -/
structure Transcript where
  /-- Output, each with the report behind it. -/
  answered : List (Bytes × Payload)
  last : Bytes

namespace Transcript

def outputs (transcript : Transcript) : List Bytes :=
  transcript.answered.map (·.1) ++ [transcript.last]

def reports (transcript : Transcript) : List Report := transcript.answered.map (·.2.report)

def bytes (transcript : Transcript) : Bytes :=
  (transcript.answered.flatMap fun (output, payload) =>
    output ++ Utf8.encode Report.tag ++ (Utf8.encode payload.write ++ Report.lineEnd)) ++
      transcript.last

/-- No output holds a tag. -/
def TagFree (transcript : Transcript) : Prop :=
  ∀ output ∈ transcript.outputs, Report.TagFree output

instance (transcript : Transcript) : Decidable transcript.TagFree :=
  inferInstanceAs (Decidable (∀ output ∈ transcript.outputs, Report.TagFree output))

theorem lineEnd_not_mem_write (payload : Payload) : 10 ∉ Utf8.encode payload.write := by
  have hline : '\n' ∉ payload.write := fun h =>
    absurd (Payload.noControl_write payload _ h) (by decide)
  have hascii : ∀ c ∈ ['\n'], Utf8.IsAscii c := List.forall_mem_singleton.mpr (by decide)
  have hdecoded := Utf8.infix_decodeLossy_iff hascii (by decide) (Utf8.encode payload.write)
  have hbyte : Utf8.encode ['\n'] = [10] := by decide
  rw [Utf8.decodeLossy_encode, List.singleton_infix_iff, hbyte, List.singleton_infix_iff]
    at hdecoded
  exact fun h => hline (hdecoded.mpr h)

/-- The output of code with the report behind it. -/
def reply (output : Bytes) (payload : Payload) (h : Report.TagFree output) : Reply :=
  ⟨output, Utf8.encode payload.write, h, lineEnd_not_mem_write payload⟩

theorem report_reply (output : Bytes) (payload : Payload) (h : Report.TagFree output) :
    (reply output payload h).report = payload.report := by
  rw [Reply.report, reply, Utf8.decodeLossy_encode, Payload.ofText_write]

theorem exists_replies {answered : List (Bytes × Payload)}
    (h : ∀ output ∈ answered.map (·.1), Report.TagFree output) :
    ∃ replies : List Reply,
      (answered.flatMap fun (output, payload) =>
        output ++ Utf8.encode Report.tag ++ (Utf8.encode payload.write ++ Report.lineEnd)) =
          replies.flatMap Reply.bytes ∧
      replies.map Reply.report = answered.map (·.2.report) ∧
      Utf8.encode (replies.flatMap Reply.shown) = (answered.map (·.1)).flatMap Utf8.lossy := by
  induction answered with
  | nil => exact ⟨[], rfl, rfl, rfl⟩
  | cons sent answered ih =>
      obtain ⟨output, payload⟩ := sent
      rw [List.map_cons, List.forall_mem_cons] at h
      obtain ⟨replies, hbytes, hreports, hshown⟩ := ih h.2
      refine ⟨reply output payload h.1 :: replies, ?_, ?_, ?_⟩
      · rw [List.flatMap_cons, hbytes]
        rfl
      · rw [List.map_cons, report_reply, hreports]
        rfl
      · rw [List.flatMap_cons, Utf8.encode_append, hshown]
        rfl

section Read

variable {transcript : Transcript}

theorem exists_bytes_eq (h : transcript.TagFree) :
    ∃ replies : List Reply, transcript.bytes = replies.flatMap Reply.bytes ++ transcript.last ∧
      replies.map Reply.report = transcript.reports ∧
      Utf8.encode (replies.flatMap Reply.shown ++ Utf8.decodeLossy transcript.last) =
        transcript.outputs.flatMap Utf8.lossy ∧
      Report.TagFree transcript.last := by
  obtain ⟨hanswered, hlast⟩ := List.forall_mem_append.mp h
  obtain ⟨replies, hbytes, hreports, hshown⟩ := exists_replies hanswered
  refine ⟨replies, by rw [bytes, hbytes], hreports, ?_, hlast _ List.mem_cons_self⟩
  rw [Utf8.encode_append, hshown, outputs, List.flatMap_append, List.flatMap_singleton]
  rfl

theorem reportsIn_complete (h : transcript.TagFree) :
    reportsIn (Report.complete transcript.bytes).1 = transcript.reports := by
  obtain ⟨replies, hbytes, hreports, -, hlast⟩ := exists_bytes_eq h
  rw [hbytes, Reply.reportsIn_complete replies hlast, hreports]

theorem reportsIn_pieces (h : transcript.TagFree) :
    reportsIn (Report.pieces transcript.bytes) = transcript.reports := by
  obtain ⟨replies, hbytes, hreports, -, hlast⟩ := exists_bytes_eq h
  rw [hbytes, (Reply.read_pieces replies hlast).1, hreports]

theorem outputIn_pieces (h : transcript.TagFree) :
    Utf8.encode (outputIn (Report.pieces transcript.bytes)) =
      transcript.outputs.flatMap Utf8.lossy := by
  obtain ⟨replies, hbytes, -, hshown, hlast⟩ := exists_bytes_eq h
  rw [hbytes, (Reply.read_pieces replies hlast).2, hshown]

end Read

end Transcript

/-! ### Bytes arrive in pieces -/

namespace Sandbox

variable {π : Type} {runner : Runner} {reaction closing : Reaction} {reactions : List Reaction}

/-- Attends to one reaction after the other. -/
def attendAll (runner : Runner) (reactions : List Reaction) : Act (Machine π) Runner :=
  reactions.foldlM attend runner

theorem attendAll_cons (runner : Runner) (reaction : Reaction) (rest : List Reaction) :
    attendAll runner (reaction :: rest) =
      (attend runner reaction >>= fun next => attendAll next rest : Act (Machine π) Runner) :=
  List.foldlM_cons

/-- What two reactions come to that follow each other. -/
def joined (reaction later : Reaction) : Reaction :=
  { later with output := reaction.output ++ later.output }

/-- What is received of two reactions is what is received of both at once. -/
theorem receive_joined (h : reaction.ended = none) (unfinished : Bytes) (later : Reaction) :
    receive unfinished (joined reaction later) =
      ((receive unfinished reaction).1 ++ (receive (receive unfinished reaction).2 later).1,
        (receive (receive unfinished reaction).2 later).2) := by
  rw [receive_of_not_ended h]
  cases hended : later.ended with
  | none =>
      have hjoined : (joined reaction later).ended = none := hended
      rw [receive_of_not_ended hended, receive_of_not_ended hjoined]
      simp only [joined]
      rw [← List.append_assoc, Report.complete_append]
  | some status =>
      have hjoined : (joined reaction later).ended = some status := hended
      rw [receive_of_ended hended, receive_of_ended hjoined]
      simp only [joined]
      rw [← List.append_assoc, Report.pieces_append]

theorem shown_bind {α β : Type} (act : Act (Machine π) α) (next : α → Act (Machine π) β)
    (machine : Machine π) (display : Display) :
    Emission.shown display .output ((act >>= next).run machine).emitted =
      Emission.shown display .output (act.run machine).emitted ++
        Emission.shown display .output
          ((next (act.run machine).value).run (act.run machine).state).emitted := by
  rw [Act.run_bind]
  exact List.flatMap_append

/-- **However the bytes arrive, they are read as if they had come at once.** -/
theorem run_attendAll (runner : Runner) (hopen : ∀ r ∈ reactions, r.ended = none)
    (machine : Machine π) {lines : List Bytes} {unfinished : Bytes}
    (h : receive runner.unfinished (reactions.foldr joined closing) = (lines, unfinished)) :
    ((attendAll runner (reactions ++ [closing])).run machine).value =
        { runner with unfinished, reports := runner.reports ++ reportsIn lines } ∧
      ((attendAll runner (reactions ++ [closing])).run machine).state = machine ∧
      ∀ display, Emission.shown display .output
          ((attendAll runner (reactions ++ [closing])).run machine).emitted =
        Utf8.encode (outputIn lines) := by
  induction reactions generalizing runner lines with
  | nil =>
      have hone : receive runner.unfinished closing = (lines, unfinished) := h
      obtain ⟨hvalue, hstate, hshown⟩ := run_attend machine hone
      rw [List.nil_append, attendAll_cons]
      refine ⟨hvalue, hstate, fun display => ?_⟩
      rw [shown_bind, hshown]
      exact List.append_nil _
  | cons reaction rest ih =>
      rw [List.forall_mem_cons] at hopen
      obtain ⟨read, left, hread⟩ : ∃ read left, receive runner.unfinished reaction = (read, left) :=
        ⟨_, _, rfl⟩
      obtain ⟨hvalue, hstate, hshown⟩ := run_attend machine hread
      rw [List.foldr_cons, receive_joined hopen.1, hread] at h
      obtain ⟨rfl, hleft⟩ := Prod.mk.inj h
      obtain ⟨hvalue', hstate', hshown'⟩ :=
        ih ((attend runner reaction).run machine).value hopen.2 (by
          rw [hvalue]
          exact Prod.ext rfl hleft)
      rw [List.cons_append, attendAll_cons]
      refine ⟨?_, ?_, fun display => ?_⟩
      · rw [Act.run_bind]
        simp only
        rw [hstate, hvalue', hvalue, reportsIn_append, List.append_assoc]
      · rw [Act.run_bind]
        simp only
        rw [hstate, hstate']
      · rw [shown_bind, hshown, hstate, hshown', outputIn_append, Utf8.encode_append]

theorem output_foldr_joined (reactions : List Reaction) (closing : Reaction) :
    (reactions.foldr joined closing).output = (reactions ++ [closing]).flatMap (·.output) := by
  induction reactions with
  | nil => simp
  | cons reaction rest ih =>
      rw [List.foldr_cons, joined, ih]
      rfl

theorem ended_foldr_joined (reactions : List Reaction) (closing : Reaction) :
    (reactions.foldr joined closing).ended = closing.ended := by
  induction reactions with
  | nil => rfl
  | cons reaction rest ih => rw [List.foldr_cons, joined, ih]

/-! ### Transcripts received -/

variable {transcript : Transcript}

/-- The reports are received whether the runner has ended or not. -/
theorem reportsIn_receive (h : transcript.TagFree) (hbytes : reaction.output = transcript.bytes) :
    reportsIn (receive [] reaction).1 = transcript.reports := by
  cases hended : reaction.ended with
  | none =>
      rw [receive_of_not_ended hended, List.nil_append, hbytes]
      exact Transcript.reportsIn_complete h
  | some status =>
      rw [receive_of_ended hended, List.nil_append, hbytes]
      exact Transcript.reportsIn_pieces h

/-- **A runner's reports arrive as they were sent**, whatever is output around them and however
the bytes come in pieces. -/
theorem reports_attendAll (h : transcript.TagFree) (hopen : ∀ r ∈ reactions, r.ended = none)
    (hbytes : (reactions ++ [closing]).flatMap (·.output) = transcript.bytes) (process : Nat)
    (machine : Machine π) :
    ((attendAll { process } (reactions ++ [closing])).run machine).value.reports =
      transcript.reports := by
  have houtput := (output_foldr_joined reactions closing).trans hbytes
  obtain ⟨lines, unfinished, hreceive⟩ : ∃ lines unfinished,
      receive [] (reactions.foldr joined closing) = (lines, unfinished) := ⟨_, _, rfl⟩
  have hreports := reportsIn_receive h houtput
  rw [hreceive] at hreports
  rw [(run_attendAll { process } hopen machine hreceive).1]
  exact hreports

/-- A machine on which nothing is installed. -/
def idle : Machine Unit := { programs := () }

/-- Output that ends in a part of the tag and in bytes that are no character, and a report right
behind another one. -/
def mixed : Transcript :=
  { answered :=
      [(Utf8.encode "1\n\x01hxrepl-re" ++ [0xC3], ⟨true, some (some "\n\"é"), none⟩),
        ([], ⟨false, none, some (some "no")⟩)],
    last := [0xFF, 10] }

/-- The first two of three pieces in which bytes come. -/
def firstPieces (bytes : Bytes) : List Reaction :=
  [{ output := bytes.take 9 }, { output := (bytes.drop 9).take 20 }]

theorem reports_attendAll_mixed :
    ((attendAll { process := 1 }
      (firstPieces mixed.bytes ++ [{ output := mixed.bytes.drop 29 }])).run idle).value.reports =
        [⟨true, some "\n\"é", none⟩, ⟨false, none, some "no"⟩] := by
  have hfree : mixed.TagFree := by decide +kernel
  have hopen : ∀ r ∈ firstPieces mixed.bytes, r.ended = none := by decide
  have hbytes : (firstPieces mixed.bytes ++ [{ output := mixed.bytes.drop 29 }] :
      List Reaction).flatMap (·.output) = mixed.bytes := by decide +kernel
  exact reports_attendAll hfree hopen hbytes 1 idle

/-- **What a runner outputs is shown lossily decoded, piece by piece.**  So it is forwarded as it
is exactly if each piece is the bytes of a text. -/
theorem shown_attendAll (h : transcript.TagFree) (hopen : ∀ r ∈ reactions, r.ended = none)
    {status : ExitStatus} (hended : closing.ended = some status)
    (hbytes : (reactions ++ [closing]).flatMap (·.output) = transcript.bytes) (process : Nat)
    (machine : Machine π) (display : Display) :
    let shown := Emission.shown display .output
      ((attendAll { process } (reactions ++ [closing])).run machine).emitted
    shown = transcript.outputs.flatMap Utf8.lossy ∧
      (shown = transcript.outputs.flatten ↔
        ∀ output ∈ transcript.outputs, Utf8.WellFormed output) := by
  intro shown
  have houtput := (output_foldr_joined reactions closing).trans hbytes
  have hreceive : receive [] (reactions.foldr joined closing) = _ :=
    receive_of_ended ((ended_foldr_joined reactions closing).trans hended)
  have hread := (run_attendAll { process } hopen machine hreceive).2.2 display
  rw [List.nil_append, houtput, Transcript.outputIn_pieces h] at hread
  have hshown : shown = transcript.outputs.flatMap Utf8.lossy := hread
  refine ⟨hshown, ?_⟩
  rw [hshown]
  exact Utf8.flatMap_lossy_eq_iff

/-- Output of letters of two bytes, without a line feed before the report. -/
def lettered : Transcript :=
  { answered := [(Utf8.encode "é", ⟨true, some none, none⟩)], last := Utf8.encode "\nö" }

theorem shown_attendAll_lettered :
    Emission.shown {} .output ((attendAll { process := 1 }
      ([{ output := lettered.bytes.take 1 }] ++
        [{ output := lettered.bytes.drop 1, ended := some (.exited 0) }])).run idle).emitted =
      Utf8.encode "é\nö" := by
  have hfree : lettered.TagFree := by decide +kernel
  have hbytes : ([{ output := lettered.bytes.take 1 }] ++
      [{ output := lettered.bytes.drop 1, ended := some (.exited 0) }] :
        List Reaction).flatMap (·.output) = lettered.bytes := by decide +kernel
  have hshown := shown_attendAll hfree (by decide) rfl hbytes 1 idle {}
  refine hshown.2.mpr ?_
  have houtputs : lettered.outputs = [Utf8.encode "é", Utf8.encode "\nö"] := rfl
  rw [houtputs, List.forall_mem_cons, List.forall_mem_singleton]
  exact ⟨⟨"é", rfl⟩, ⟨"\nö", rfl⟩⟩

/-- A letter of two bytes with a report between them, and another report behind it. -/
def parted : Transcript :=
  { answered := [([0xC3], ⟨true, some none, none⟩), ([0xA9], ⟨true, some none, none⟩)],
    last := [] }

/-- Each of the bytes is replaced, though together they are a text. -/
theorem forwarded_in_pieces :
    parted.TagFree ∧ parted.outputs.flatten = Utf8.encode "é" ∧
      Emission.shown {} .output ((attendAll { process := 1 }
        [{ output := parted.bytes, ended := some (.exited 0) }]).run idle).emitted =
        Utf8.encode "\uFFFD\uFFFD" := by
  decide +kernel

end Sandbox

end HaxePrompt

import HaxePrompt.Proofs.Tool.Parties

/-! # A runner and its reader

`Link.Consistent` says how the parts of a link belong together while its runner is attached: every
byte that the runner sets out to write is with the runner, in its standard output or with the
reader, and every request and every report is where it can be.  `Link.Fits` adds what the reader
has printed.  Each move of the runner and of the reader keeps them, and so do printing, flushing,
asking and taking a report.  By counting, the report that comes on the last request is then the
reply to it (`Link.Fits.reply`). -/

namespace HaxePrompt

namespace Parties

open Report (IsLine TagFree pieces reportsIn outputIn ofLine complete)

/-- The bytes that a runner has left to write. -/
def Work.unwritten : Work → Bytes
  | busy unwritten _ => unwritten
  | idle | ended _ => []

/-- The runner will read no further request. -/
def Work.IsLast : Work → Prop
  | busy _ (some _) | ended _ => True
  | idle | busy _ none => False

/-- The report that a reader has yet to pass on. -/
def Reading.report? : Reading → Option Report
  | printing _ report? | flushing report? => report?
  | sending report => some report
  | reading | stopped => none

/-- The output that a reader has yet to print. -/
def Reading.output : Reading → Text
  | printing output _ => output
  | _ => []

/-- The report on the line that a reader has in hand, if it has one in hand. -/
def Reading.hand? : Reading → Option (Option Report)
  | printing _ report? | flushing report? => some report?
  | reading | sending _ | stopped => none

namespace Link

def replies (link : Link) : List Reply := link.answered.map (·.2)

/-- All bytes that a runner has set out to write. -/
def stream (link : Link) : Bytes :=
  link.replies.flatMap Reply.bytes ++ (link.fatal.map (·.2)).getD []

/-- The lines of a reader, before which bytes stand that it has yet to read.  Once the runner has
ended and everything is read, the last of the lines may have no end. -/
inductive Lines (work : Work) (unread : Bytes) (read : List Bytes) : Prop where
  | ended : (∀ line ∈ read, IsLine line) → Lines work unread read
  | unended {status : ExitStatus} {front : List Bytes} {last : Bytes} :
      work = .ended status → unread = [] → read = front ++ [last] →
      (∀ line ∈ front, IsLine line) → 10 ∉ last → last ≠ [] → Lines work unread read

/-- What holds between the parts of a link while its runner is attached. -/
structure Consistent (link : Link) : Prop where
  /-- No byte is lost or comes out of order. -/
  flow : link.read.flatten ++ link.received ++ link.stdout ++ link.work.unwritten = link.stream
  lines : Lines link.work (link.received ++ link.stdout) link.read
  reports : link.taken ++ link.channel ++ link.reading.report?.toList = reportsIn link.read
  requests :
    link.answered.map (·.1) ++ (link.fatal.map (·.1)).toList ++ link.stdin = link.asked
  fatal : ∀ f ∈ link.fatal, TagFree f.2 ∧ link.work.IsLast
  hand : ∀ report? ∈ link.reading.hand?,
    ∃ front last, link.read = front ++ [last] ∧ (ofLine last).2 = report?

variable {link link' : Link}

theorem Consistent.fatal_eq_none (h : link.Consistent) (hwork : link.work = .idle) :
    link.fatal = none := by
  cases hfatal : link.fatal with
  | none => rfl
  | some f =>
      have hlast := (h.fatal f hfatal).2
      rw [hwork] at hlast
      exact hlast.elim

theorem Consistent.flow_of_idle (h : link.Consistent) (hwork : link.work = .idle) :
    link.read.flatten ++ link.received ++ link.stdout = link.replies.flatMap Reply.bytes := by
  have hflow := h.flow
  rw [hwork, stream, h.fatal_eq_none hwork] at hflow
  simpa [Work.unwritten] using hflow

theorem Consistent.requests_of_idle (h : link.Consistent) (hwork : link.work = .idle) :
    link.answered.map (·.1) ++ link.stdin = link.asked := by
  have hrequests := h.requests
  rw [h.fatal_eq_none hwork] at hrequests
  simpa using hrequests

theorem Lines.isLine {work : Work} {unread : Bytes} {read : List Bytes}
    (h : Lines work unread read) (hgoes : unread ≠ [] ∨ ∀ status, work ≠ .ended status) :
    ∀ line ∈ read, IsLine line := by
  cases h with
  | ended hlines => exact hlines
  | unended hended hunread _ _ _ _ =>
      rcases hgoes with hne | hwork
      · exact absurd hunread hne
      · exact absurd hended (hwork _)

theorem exists_of_complete {received line : Bytes} {lines : List Bytes}
    (h : (complete received).1 = line :: lines) :
    ∃ rest, received = line ++ (lines.flatten ++ rest) ∧ IsLine line ∧
      (complete received).2 = rest := by
  obtain ⟨ls, rest, rfl, hls, hrest⟩ := Report.exists_lines received
  rw [Report.complete_of_lines hls hrest] at h ⊢
  have hcons : ls = line :: lines := h
  subst hcons
  exact ⟨rest, by simp, hls line List.mem_cons_self, rfl⟩

theorem Consistent.isLine_of_busy (h : link.Consistent) {unwritten : Bytes}
    {ends? : Option ExitStatus} (hwork : link.work = .busy unwritten ends?) :
    ∀ line ∈ link.read, IsLine line :=
  h.lines.isLine (Or.inr fun _ => by rw [hwork]; nofun)

theorem Consistent.isLine_of_idle (h : link.Consistent) (hwork : link.work = .idle) :
    ∀ line ∈ link.read, IsLine line :=
  h.lines.isLine (Or.inr fun _ => by rw [hwork]; nofun)

/-- A runner may go on, as long as it loses no byte and will not read again at its end. -/
theorem Consistent.work (h : link.Consistent) {work : Work}
    (hlines : ∀ line ∈ link.read, IsLine line)
    (hunwritten : work.unwritten = link.work.unwritten) (hlast : link.work.IsLast → work.IsLast) :
    Consistent { link with work } := by
  refine { h with flow := ?_, lines := .ended hlines, fatal := ?_ }
  · change _ ++ work.unwritten = link.stream
    rw [hunwritten]
    exact h.flow
  · exact fun f hf => ⟨(h.fatal f hf).1, hlast (h.fatal f hf).2⟩

/-- A reader may go on, as long as it loses no report and takes up no line. -/
theorem Consistent.goOn (h : link.Consistent) {phase : Reading}
    (hreport : phase.report? = link.reading.report?)
    (hhand : phase.hand? = none ∨ phase.hand? = link.reading.hand?) :
    Consistent { link with reading := phase } := by
  refine { h with reports := ?_, hand := ?_ }
  · change _ ++ phase.report?.toList = reportsIn link.read
    rw [hreport]
    exact h.reports
  · intro report? hmem
    rcases hhand with hhand | hhand
    · rw [hhand] at hmem
      cases hmem
    · rw [hhand] at hmem
      exact h.hand report? hmem

theorem Consistent.takeUp (h : link.Consistent) (hreading : link.reading = .reading)
    {line rest : Bytes} (hreceived : link.received = line ++ rest)
    (hlines : Lines link.work (rest ++ link.stdout) (link.read ++ [line])) :
    Consistent
      { link with
        received := rest, reading := .printing (ofLine line).1 (ofLine line).2
        read := link.read ++ [line] } := by
  refine { h with flow := ?_, lines := hlines, reports := ?_, hand := ?_ }
  · have hflow := h.flow
    rw [hreceived] at hflow
    change (link.read ++ [line]).flatten ++ rest ++ link.stdout ++ link.work.unwritten = link.stream
    rw [← hflow]
    simp
  · have hreports := h.reports
    rw [hreading] at hreports
    change _ ++ (ofLine line).2.toList = reportsIn (link.read ++ [line])
    rw [Report.reportsIn_append, Report.reportsIn_singleton, ← hreports]
    simp [Reading.report?]
  · rintro report? ⟨⟩
    exact ⟨link.read, line, rfl, rfl⟩

theorem Consistent.step (h : link.Consistent) (hstep : link.Step link')
    (hattached : link.attached = true) : link'.Consistent := by
  cases hstep with
  | @answer asked rest reply hwork hstdin =>
      have hfatal := h.fatal_eq_none hwork
      refine
        { h with
          flow := ?_, lines := .ended (h.isLine_of_idle hwork), requests := ?_, fatal := ?_ }
      · change _ ++ reply.bytes =
          ((link.answered ++ [(asked, reply)]).map (·.2)).flatMap Reply.bytes ++
            (link.fatal.map (·.2)).getD []
        rw [h.flow_of_idle hwork, hfatal]
        simp [replies]
      · have hrequests := h.requests_of_idle hwork
        rw [hstdin] at hrequests
        simp [hfatal, ← hrequests]
      · simp [hfatal]
  | @perish asked rest output status hfree hwork hstdin =>
      refine
        { h with
          flow := ?_, lines := .ended (h.isLine_of_idle hwork), requests := ?_, fatal := ?_ }
      · change _ ++ output = link.replies.flatMap Reply.bytes ++ output
        rw [h.flow_of_idle hwork]
      · have hrequests := h.requests_of_idle hwork
        rw [hstdin] at hrequests
        simp [← hrequests]
      · rintro f ⟨⟩
        exact ⟨hfree, trivial⟩
  | @write chunk rest ends? hwork =>
      refine { h with flow := ?_, lines := .ended (h.isLine_of_busy hwork), fatal := ?_ }
      · have hflow := h.flow
        rw [hwork] at hflow
        change _ ++ (link.stdout ++ chunk) ++ rest = link.stream
        rw [← hflow]
        simp [Work.unwritten]
      · intro f hf
        have hlast := h.fatal f hf
        rw [hwork] at hlast
        cases ends? with
        | none => exact hlast.2.elim
        | some status => exact hlast
  | finish hwork =>
      exact h.work (h.isLine_of_busy hwork) (by rw [hwork]; rfl) (by rw [hwork]; exact id)
  | exit hwork =>
      exact h.work (h.isLine_of_busy hwork) (by rw [hwork]; rfl) fun _ => trivial
  | die status hwork =>
      exact h.work (h.isLine_of_idle hwork) (by rw [hwork]; rfl) fun _ => trivial
  | @take chunk rest hreading hstdout =>
      refine { h with flow := ?_, lines := ?_ }
      · have hflow := h.flow
        rw [hstdout] at hflow
        change _ ++ (link.received ++ chunk) ++ rest ++ _ = link.stream
        rw [← hflow]
        simp
      · have hlines := h.lines
        rw [hstdout] at hlines
        change Lines link.work (link.received ++ chunk ++ rest) link.read
        rw [List.append_assoc]
        exact hlines
  | @line line lines hreading hline =>
      obtain ⟨rest, hreceived, hisLine, hrest⟩ := exists_of_complete hline
      rw [hrest]
      -- bytes were left to read, so the lines read so far have an end
      have hunread : link.received ++ link.stdout ≠ [] := by
        obtain ⟨front, _, rfl⟩ := hisLine
        simp [hreceived, Report.lineEnd]
      refine h.takeUp hreading hreceived (.ended fun l hl => ?_)
      rcases List.mem_append.mp hl with hl | hl
      · exact h.lines.isLine (Or.inl hunread) l hl
      · rw [List.mem_singleton.mp hl]
        exact hisLine
  | last hreading hended hstdout hnone hsome =>
      have hunread : link.received ++ link.stdout ≠ [] := by simp [hsome]
      have hopen : 10 ∉ link.received := by
        obtain ⟨lines, rest, hreceived, hls, hrest⟩ := Report.exists_lines link.received
        rw [hreceived, Report.complete_of_lines hls hrest] at hnone
        have hnil : lines = [] := hnone
        rw [hreceived, hnil]
        exact hrest
      exact h.takeUp hreading (List.append_nil _).symm
        (.unended hended hstdout rfl (h.lines.isLine (Or.inl hunread)) hopen hsome)
  | close hreading =>
      exact h.goOn (by rw [hreading]; rfl) (Or.inl rfl)
  | fail hreading =>
      exact h.goOn (by rw [hreading]; rfl) (Or.inl rfl)
  | send hreading hopen =>
      refine { h with reports := ?_, hand := by rintro _ ⟨⟩ }
      have hreports := h.reports
      rw [hreading] at hreports
      simpa [Reading.report?] using hreports
  | giveUp hreading hclosed =>
      rw [hattached] at hclosed
      cases hclosed

theorem Step.same (hstep : link.Step link') :
    link'.attached = link.attached ∧ link'.asked = link.asked ∧ link'.taken = link.taken := by
  cases hstep <;> exact ⟨rfl, rfl, rfl⟩

theorem Step.flushing (hstep : link.Step link') {report? : Option Report}
    (h : link.reading = .flushing report?) : link'.reading = .flushing report? := by
  cases hstep with
  | answer | perish | write | finish | exit | die => exact h
  | take hreading | line hreading | last hreading | close hreading | fail hreading
  | send hreading | giveUp hreading =>
      rw [h] at hreading
      cases hreading

theorem Step.output (hstep : link.Step link') :
    ∃ output, link'.reading.output = link.reading.output ++ output ∧
      outputIn link'.read = outputIn link.read ++ output := by
  cases hstep with
  | answer | perish | write | finish | exit | die | take => exact ⟨[], by simp, by simp⟩
  | @line line lines hreading =>
      refine ⟨(ofLine line).1, by simp [hreading, Reading.output], ?_⟩
      rw [Report.outputIn_append, Report.outputIn_singleton]
  | last hreading =>
      refine ⟨(ofLine link.received).1, by simp [hreading, Reading.output], ?_⟩
      rw [Report.outputIn_append, Report.outputIn_singleton]
  | close hreading | fail hreading | send hreading | giveUp hreading =>
      exact ⟨[], by simp [hreading, Reading.output], by simp⟩

/-! ### A link and what is printed of it -/

/-- What holds of a link whose runner is attached, and of the bytes that its reader printed: those
that are written and those that are held back. -/
structure Fits (link : Link) (written buffered : Bytes) : Prop where
  consistent : link.Consistent
  output : written ++ buffered ++ Utf8.encode link.reading.output =
    Utf8.encode (outputIn link.read)
  flushed : buffered ≠ [] → ∃ report?, link.reading = .flushing report?

variable {written buffered : Bytes}

theorem fits_new : Fits { attached := true } [] [] := by
  exact ⟨⟨rfl, .ended (by simp), rfl, rfl, by simp, by rintro _ ⟨⟩⟩, rfl, by simp⟩

theorem Fits.step (h : link.Fits written buffered) (hstep : link.Step link')
    (hattached : link.attached = true) : link'.Fits written buffered := by
  refine ⟨h.consistent.step hstep hattached, ?_, ?_⟩
  · obtain ⟨output, hreading, hread⟩ := hstep.output
    rw [hreading, hread, Utf8.encode_append, Utf8.encode_append, ← List.append_assoc, h.output]
  · intro hne
    obtain ⟨report?, hreading⟩ := h.flushed hne
    exact ⟨report?, hstep.flushing hreading⟩

theorem Fits.print (h : link.Fits written buffered) {output : Text} {report? : Option Report}
    (hreading : link.reading = .printing output report?) :
    Fits { link with reading := .flushing report? } written
      (buffered ++ Utf8.encode output) := by
  refine ⟨h.consistent.goOn ?_ (Or.inr ?_), ?_, fun _ => ⟨report?, rfl⟩⟩
  · rw [hreading]
    rfl
  · rw [hreading]
    rfl
  · have houtput := h.output
    rw [hreading] at houtput
    change written ++ (buffered ++ Utf8.encode output) ++ [] = _
    rw [List.append_nil, ← List.append_assoc]
    exact houtput

theorem Fits.drain {front rest : Bytes} (h : link.Fits written (front ++ rest)) :
    link.Fits (written ++ front) rest := by
  refine ⟨h.consistent, ?_, ?_⟩
  · rw [List.append_assoc written front rest]
    exact h.output
  · intro hne
    exact h.flushed (by simp [hne])

theorem Fits.flush (h : link.Fits written buffered) {report? : Option Report}
    (hreading : link.reading = .flushing report?) :
    Fits { link with reading := (report?.map Reading.sending).getD .reading }
      (written ++ buffered) [] := by
  refine ⟨h.consistent.goOn ?_ (Or.inl ?_), ?_, by simp⟩
  · rw [hreading]
    cases report? <;> rfl
  · cases report? <;> rfl
  · have houtput := h.output
    rw [hreading] at houtput
    cases report? <;> simpa [Reading.output] using houtput

theorem Fits.ask (h : link.Fits written buffered) (asked : Asked) :
    Fits { link with stdin := link.stdin ++ [asked], asked := link.asked ++ [asked] }
      written buffered := by
  refine ⟨{ h.consistent with requests := ?_ }, h.output, h.flushed⟩
  change _ ++ (link.stdin ++ [asked]) = link.asked ++ [asked]
  rw [← List.append_assoc, h.consistent.requests]

theorem Fits.take (h : link.Fits written buffered) {report : Report} {rest : List Report}
    (hchannel : link.channel = report :: rest) :
    Fits { link with channel := rest, taken := link.taken ++ [report] } written buffered := by
  have hreports := h.consistent.reports
  rw [hchannel] at hreports
  refine ⟨{ h.consistent with reports := ?_ }, h.output, h.flushed⟩
  rw [← hreports]
  simp

/-! ### The report that arrives -/

/-- What is read are the first pieces of what the runner has set out to write. -/
theorem Consistent.exists_pieces (h : link.Consistent) :
    ∃ more, pieces link.stream = link.read ++ more := by
  have hflow := h.flow
  rw [List.append_assoc, List.append_assoc] at hflow
  cases hlines : h.lines with
  | ended hisLine =>
      rw [← hflow, Report.pieces_lines_append hisLine]
      exact ⟨_, rfl⟩
  | @unended status front last hwork hunread hread hfront hopen hne =>
      rw [hread, hwork, ← List.append_assoc link.received, hunread] at hflow
      have hstream : link.stream = front.flatten ++ last := by
        rw [← hflow]
        simp [Work.unwritten]
      refine ⟨[], ?_⟩
      rw [hstream, Report.pieces_lines_append hfront, Report.pieces_of_not_mem hopen hne, hread,
        List.append_nil]

/-- The reports taken, on their way and yet to be read are those of the replies. -/
theorem Consistent.exists_reports (h : link.Consistent) :
    ∃ more, pieces link.stream = link.read ++ more ∧
      link.taken ++ link.channel ++ link.reading.report?.toList ++ reportsIn more =
        link.replies.map Reply.report := by
  have hfree : TagFree ((link.fatal.map (·.2)).getD []) := by
    cases hfatal : link.fatal with
    | none => exact Report.tagFree_nil
    | some f => exact (h.fatal f hfatal).1
  obtain ⟨more, hmore⟩ := h.exists_pieces
  refine ⟨more, hmore, ?_⟩
  rw [h.reports, ← Report.reportsIn_append, ← hmore]
  exact (Reply.read_pieces link.replies hfree).1

/-- When the reader has read the last report, it has printed and flushed everything before it. -/
theorem Fits.written_eq (h : link.Fits written buffered) {more : List Bytes}
    (hfatal : link.fatal = none) (hpieces : pieces link.stream = link.read ++ more)
    (hmore : reportsIn more = []) (hpending : link.reading.report? = none) :
    written = Utf8.encode (link.replies.flatMap Reply.shown) := by
  obtain ⟨lines, hbytes, hisLine, -, houtput, hlast⟩ := Reply.exists_lines_flatMap link.replies
  have hlines : lines = link.read ++ more := by
    rw [← hpieces, stream, hfatal, hbytes, Report.pieces_lines_append hisLine]
    exact (List.append_nil lines).symm
  -- the last line that was written holds a report, so none is left to be read
  have hread : lines = link.read := by
    rcases List.eq_nil_or_concat more with hnil | ⟨front, last, hconcat⟩
    · rw [hlines, hnil, List.append_nil]
    · exfalso
      rw [List.concat_eq_append] at hconcat
      apply hlast last
      · rw [hlines, hconcat, ← List.append_assoc, List.getLast?_concat]
        rfl
      · apply List.filterMap_eq_nil_iff.mp hmore
        simp [hconcat]
  -- nor is a line in hand, as it would be the last one and hold a report
  have hhand : link.reading.hand? = none := by
    cases hreading : link.reading with
    | printing _ report? | flushing report? =>
        rw [hreading] at hpending
        obtain ⟨front, last, hconcat, hreport⟩ := h.consistent.hand report? (by rw [hreading]; rfl)
        refine absurd (hreport.trans hpending) (hlast last ?_)
        rw [hread, hconcat, List.getLast?_concat]
        rfl
    | _ => rfl
  have hbuffered : buffered = [] := by
    by_contra hne
    obtain ⟨report?, hreading⟩ := h.flushed hne
    rw [hreading] at hhand
    cases hhand
  have hprinted : link.reading.output = [] := by
    cases hreading : link.reading with
    | printing =>
        rw [hreading] at hhand
        cases hhand
    | _ => rfl
  have hall := h.output
  rw [hbuffered, hprinted, ← hread, houtput] at hall
  simpa [Utf8.encode] using hall

/-- **The report that arrives is that of the last request.**  When one request more was written
than reports were taken and a report has come, the runner has replied to that request, the report
is that of the reply, and all that the runner has put out is written. -/
theorem Fits.reply (h : link.Fits written buffered) {before : List Asked} {asked : Asked}
    {report : Report} {rest : List Report} (hasked : link.asked = before ++ [asked])
    (hlength : before.length = link.taken.length) (hchannel : link.channel = report :: rest) :
    ∃ earlier reply, link.answered = earlier ++ [(asked, reply)] ∧
      earlier.map (·.1) = before ∧ link.taken = earlier.map (·.2.report) ∧
      report = reply.report ∧ written = Utf8.encode (link.replies.flatMap Reply.shown) := by
  obtain ⟨more, hpieces, hreports⟩ := h.consistent.exists_reports
  have hrequests := h.consistent.requests
  rw [hchannel] at hreports
  rw [hasked] at hrequests
  -- there are as many replies as reports, and no more than requests
  have hcount := congrArg List.length hreports
  have hcount' := congrArg List.length hrequests
  simp only [List.length_append, List.length_cons, List.length_map, List.length_nil,
    replies] at hcount hcount'
  have hrest : rest = [] := List.length_eq_zero_iff.mp (by omega)
  have hpending : link.reading.report?.toList = [] := List.length_eq_zero_iff.mp (by omega)
  have hmore : reportsIn more = [] := List.length_eq_zero_iff.mp (by omega)
  have hfatal : (link.fatal.map (·.1)).toList = [] := List.length_eq_zero_iff.mp (by omega)
  have hstdin : link.stdin = [] := List.length_eq_zero_iff.mp (by omega)
  have hnone : link.fatal = none := by
    cases hf : link.fatal with
    | none => rfl
    | some f => simp [hf] at hfatal
  rw [hrest, hpending, hmore, List.append_nil, List.append_nil] at hreports
  rw [hfatal, hstdin, List.append_nil, List.append_nil] at hrequests
  have hwritten := h.written_eq hnone hpieces hmore (Option.toList_eq_nil_iff.mp hpending)
  rcases List.eq_nil_or_concat link.answered with hnil | ⟨earlier, ⟨asked', reply⟩, hanswered⟩
  · rw [hnil] at hrequests
    simp at hrequests
  · rw [List.concat_eq_append] at hanswered
    rw [hanswered, List.map_append, List.map_singleton] at hrequests
    rw [replies, hanswered, List.map_append, List.map_append, List.map_singleton,
      List.map_singleton, List.map_map] at hreports
    obtain ⟨hbefore, hlast⟩ := List.append_inj' hrequests rfl
    obtain ⟨htaken, hreport⟩ := List.append_inj' hreports rfl
    cases hlast
    exact ⟨earlier, reply, hanswered, hbefore, htaken, (List.cons.inj hreport).1, hwritten⟩

end Link

end Parties

end HaxePrompt

import HaxePrompt.Proofs.Text.Ascii
import HaxePrompt.Proofs.Text.Split
import HaxePrompt.Proofs.Text.Trim
import HaxePrompt.Tool.Report

/-! # Reports told apart from output

What a runner sends is the output of one request after the other, each with a report behind it,
and nothing stands between a report and the output before it.  A `Reply` is the output and the
report of one request.  Read line by line, the bytes of replies give back their reports, one each
and in order, and the output without them (`Reply.read_pieces`): the tag does not overlap itself,
so it is first found where it was written, and bytes that are not part of a character do not
reach over a tag or over the end of a line. -/

namespace HaxePrompt

namespace Report

variable {line bytes rest : Bytes} {lines : List Bytes}

/-! ### Lines -/

/-- The bytes are a line with its end. -/
def IsLine (line : Bytes) : Prop := ∃ front, 10 ∉ front ∧ line = front ++ lineEnd

theorem unbordered_lineEnd : Text.Unbordered lineEnd := Text.unbordered_concat List.not_mem_nil

theorem lineEnd_not_infix_of_not_mem (h : 10 ∉ bytes) : ¬ lineEnd <:+: bytes := by
  rw [lineEnd, List.singleton_infix_iff]
  exact h

theorem complete_line_append (h : IsLine line) (rest : Bytes) :
    complete (line ++ rest) = (line :: (complete rest).1, (complete rest).2) := by
  obtain ⟨front, hfront, rfl⟩ := h
  obtain ⟨p, ps, hps⟩ := List.exists_cons_of_ne_nil (Text.split_ne_nil lineEnd rest)
  unfold complete
  rw [Text.split,
    Text.splitFrom_append (by decide) unbordered_lineEnd (lineEnd_not_infix_of_not_mem hfront), hps]
  simp

theorem complete_of_not_mem (h : 10 ∉ rest) : complete rest = ([], rest) := by
  unfold complete
  rw [Text.split, Text.splitFrom_of_not_infix (lineEnd_not_infix_of_not_mem h)]
  rfl

theorem complete_lines_append (h : ∀ line ∈ lines, IsLine line) (rest : Bytes) :
    complete (lines.flatten ++ rest) = (lines ++ (complete rest).1, (complete rest).2) := by
  induction lines with
  | nil => rfl
  | cons line lines ih =>
      have hrest := ih fun l hl => h l (List.mem_cons_of_mem line hl)
      rw [List.flatten_cons, List.append_assoc, complete_line_append (h line List.mem_cons_self),
        hrest]
      rfl

theorem exists_lines (bytes : Bytes) :
    ∃ (lines : List Bytes) (rest : Bytes),
      bytes = lines.flatten ++ rest ∧ (∀ line ∈ lines, IsLine line) ∧ 10 ∉ rest := by
  induction bytes with
  | nil => exact ⟨[], [], rfl, by simp, by simp⟩
  | cons b bytes ih =>
      obtain ⟨lines, rest, rfl, hlines, hrest⟩ := ih
      by_cases hb : b = 10
      · refine ⟨[10] :: lines, rest, by rw [hb]; rfl, ?_, hrest⟩
        rintro line (_ | ⟨_, hline⟩)
        · exact ⟨[], by simp, rfl⟩
        · exact hlines line hline
      · have hne : (10 : UInt8) ≠ b := Ne.symm hb
        cases lines with
        | nil => exact ⟨[], b :: rest, rfl, by simp, by simp [hne, hrest]⟩
        | cons line lines =>
            refine ⟨(b :: line) :: lines, rest, rfl, ?_, hrest⟩
            rintro l (_ | ⟨_, hl⟩)
            · obtain ⟨front, hfront, rfl⟩ := hlines line List.mem_cons_self
              exact ⟨b :: front, by simp [hne, hfront], rfl⟩
            · exact hlines l (List.mem_cons_of_mem line hl)

theorem complete_of_lines (h : ∀ line ∈ lines, IsLine line) (hrest : 10 ∉ rest) :
    complete (lines.flatten ++ rest) = (lines, rest) := by
  rw [complete_lines_append h, complete_of_not_mem hrest, List.append_nil]

/-- The pieces that are read of bytes to which nothing is added any more. -/
def pieces (bytes : Bytes) : List Bytes :=
  (complete bytes).1 ++ if (complete bytes).2 = [] then [] else [(complete bytes).2]

theorem pieces_lines_append (h : ∀ line ∈ lines, IsLine line) (rest : Bytes) :
    pieces (lines.flatten ++ rest) = lines ++ pieces rest := by
  rw [pieces, complete_lines_append h, List.append_assoc]
  rfl

theorem pieces_of_not_mem (h : 10 ∉ rest) (hne : rest ≠ []) : pieces rest = [rest] := by
  rw [pieces, complete_of_not_mem h, if_neg hne]
  rfl

/-- Bytes that come later are read behind what was left of those before. -/
theorem complete_append (bytes later : Bytes) :
    complete (bytes ++ later) =
      ((complete bytes).1 ++ (complete ((complete bytes).2 ++ later)).1,
        (complete ((complete bytes).2 ++ later)).2) := by
  obtain ⟨lines, rest, rfl, hlines, hrest⟩ := exists_lines bytes
  rw [complete_of_lines hlines hrest, List.append_assoc, complete_lines_append hlines]

theorem pieces_append (bytes later : Bytes) :
    pieces (bytes ++ later) = (complete bytes).1 ++ pieces ((complete bytes).2 ++ later) := by
  unfold pieces
  rw [complete_append, List.append_assoc]

/-! ### The tag -/

/-- The bytes hold no tag. -/
def TagFree (bytes : Bytes) : Prop := ¬ Utf8.encode tag <:+: bytes

instance (bytes : Bytes) : Decidable (TagFree bytes) :=
  inferInstanceAs (Decidable (¬ Utf8.encode tag <:+: bytes))

theorem TagFree.of_infix {part : Bytes} (h : TagFree bytes) (hpart : part <:+: bytes) :
    TagFree part := fun htag => h (htag.trans hpart)

theorem TagFree.of_lines (h : TagFree (lines.flatten ++ rest)) :
    (∀ line ∈ lines, TagFree line) ∧ TagFree rest := by
  refine ⟨fun line hline => h.of_infix ?_, h.of_infix (List.suffix_append _ _).isInfix⟩
  exact (List.infix_of_mem_flatten hline).trans (List.prefix_append _ _).isInfix

theorem tagFree_nil : TagFree [] := by decide

theorem isAscii_tag : ∀ c ∈ tag, Utf8.IsAscii c := by
  unfold tag Utf8.IsAscii
  simp

theorem tag_ne_nil : tag ≠ [] := by decide

theorem unbordered_tag : Text.Unbordered tag := by
  have hmark : ':' ∉ tag.dropLast := by decide
  have htag : tag = tag.dropLast ++ [':'] := by decide
  rw [htag]
  exact Text.unbordered_concat hmark

theorem tagFree_iff : TagFree bytes ↔ ¬ tag <:+: Utf8.decodeLossy bytes := by
  rw [Utf8.infix_decodeLossy_iff isAscii_tag tag_ne_nil]
  rfl

theorem ofLine_of_tagFree (h : TagFree line) : ofLine line = (Utf8.decodeLossy line, none) := by
  unfold ofLine
  simp only
  rw [Text.cut_eq_none (tagFree_iff.mp h)]

theorem ofLine_tagged (h : TagFree line) (rest : Bytes) :
    ofLine (line ++ Utf8.encode tag ++ rest) =
      (Utf8.decodeLossy line, some (ofText (Utf8.decodeLossy rest))) := by
  unfold ofLine
  rw [Utf8.decodeLossy_append_ascii isAscii_tag tag_ne_nil]
  simp only
  rw [Text.cut_append tag_ne_nil unbordered_tag (tagFree_iff.mp h)]

/-! ### What is read of lines -/

def reportsIn (lines : List Bytes) : List Report := lines.filterMap fun line => (ofLine line).2

def outputIn (lines : List Bytes) : Text := lines.flatMap fun line => (ofLine line).1

theorem reportsIn_append (lines lines' : List Bytes) :
    reportsIn (lines ++ lines') = reportsIn lines ++ reportsIn lines' := List.filterMap_append

theorem reportsIn_singleton (line : Bytes) : reportsIn [line] = (ofLine line).2.toList := by
  unfold reportsIn
  rw [List.filterMap_cons]
  cases (ofLine line).2 <;> rfl

theorem outputIn_append (lines lines' : List Bytes) :
    outputIn (lines ++ lines') = outputIn lines ++ outputIn lines' := List.flatMap_append

theorem outputIn_singleton (line : Bytes) : outputIn [line] = (ofLine line).1 :=
  List.append_nil _

theorem decodeLossy_lineEnd_append (front rest : Bytes) :
    Utf8.decodeLossy (front ++ (lineEnd ++ rest)) =
      Utf8.decodeLossy front ++ '\n' :: Utf8.decodeLossy rest :=
  Utf8.decodeLossy_append_cons (b := 10) (by decide) front rest

theorem decodeLossy_line_append (h : IsLine line) (rest : Bytes) :
    Utf8.decodeLossy (line ++ rest) = Utf8.decodeLossy line ++ Utf8.decodeLossy rest := by
  obtain ⟨front, _, rfl⟩ := h
  have hend := decodeLossy_lineEnd_append front []
  rw [List.append_nil] at hend
  rw [List.append_assoc, decodeLossy_lineEnd_append, hend, List.append_assoc]
  rfl

theorem reportsIn_of_tagFree (h : ∀ line ∈ lines, TagFree line) : reportsIn lines = [] := by
  unfold reportsIn
  rw [List.filterMap_eq_nil_iff]
  intro line hline
  rw [ofLine_of_tagFree (h line hline)]

theorem outputIn_of_tagFree (hlines : ∀ line ∈ lines, IsLine line)
    (h : ∀ line ∈ lines, TagFree line) : outputIn lines = Utf8.decodeLossy lines.flatten := by
  induction lines with
  | nil => rfl
  | cons line lines ih =>
      have hrest := ih (fun l hl => hlines l (List.mem_cons_of_mem line hl))
        fun l hl => h l (List.mem_cons_of_mem line hl)
      rw [outputIn, List.flatMap_cons, ofLine_of_tagFree (h line List.mem_cons_self),
        List.flatten_cons, decodeLossy_line_append (hlines line List.mem_cons_self), ← hrest]
      rfl

theorem decodeLossy_lines_append (h : ∀ line ∈ lines, IsLine line) (rest : Bytes) :
    Utf8.decodeLossy (lines.flatten ++ rest) =
      Utf8.decodeLossy lines.flatten ++ Utf8.decodeLossy rest := by
  induction lines with
  | nil => rfl
  | cons line lines ih =>
      have hline := h line List.mem_cons_self
      rw [List.flatten_cons, List.append_assoc, decodeLossy_line_append hline,
        decodeLossy_line_append hline, ih fun l hl => h l (List.mem_cons_of_mem line hl),
        List.append_assoc]

/-- Output without a tag holds no report, and is read as it would be decoded at once. -/
theorem read_pieces_of_tagFree (h : TagFree bytes) :
    reportsIn (pieces bytes) = [] ∧ outputIn (pieces bytes) = Utf8.decodeLossy bytes := by
  obtain ⟨lines, rest, rfl, hlines, hrest⟩ := exists_lines bytes
  obtain ⟨hfree, hfree'⟩ := h.of_lines
  have hlast : reportsIn (pieces rest) = [] ∧
      outputIn (pieces rest) = Utf8.decodeLossy rest := by
    by_cases hne : rest = []
    · subst hne
      exact ⟨rfl, rfl⟩
    · rw [pieces_of_not_mem hrest hne]
      unfold reportsIn outputIn
      rw [List.filterMap_cons, List.flatMap_cons, ofLine_of_tagFree hfree']
      simp
  rw [pieces_lines_append hlines, reportsIn_append, outputIn_append, hlast.1, hlast.2,
    reportsIn_of_tagFree hfree, outputIn_of_tagFree hlines hfree]
  exact ⟨rfl, (decodeLossy_lines_append hlines rest).symm⟩

end Report

/-! ### Replies -/

/-- What a runner sends for a request that it reports on: the output of the code, which holds no
tag, and the text of the report, which is one line. -/
structure Reply where
  output : Bytes
  body : Bytes
  tagFree : Report.TagFree output
  oneLine : 10 ∉ body

namespace Reply

open Report

def bytes (reply : Reply) : Bytes :=
  reply.output ++ Utf8.encode tag ++ (reply.body ++ lineEnd)

def report (reply : Reply) : Report := ofText (Utf8.decodeLossy reply.body)

/-- The output as it is shown. -/
def shown (reply : Reply) : Text := Utf8.decodeLossy reply.output

theorem ofText_body (reply : Reply) :
    ofText (Utf8.decodeLossy (reply.body ++ lineEnd)) = reply.report := by
  have hblank : Text.isBlank '\n' = true := by decide
  have hend := decodeLossy_lineEnd_append reply.body []
  rw [List.append_nil] at hend
  have hnil : Utf8.decodeLossy [] = [] := rfl
  rw [hend, hnil, report, ofText, ofText, Text.trimEnd_concat hblank]

theorem exists_lines (reply : Reply) :
    ∃ front last, reply.bytes = (front ++ [last]).flatten ∧
      (∀ line ∈ front ++ [last], IsLine line) ∧ reportsIn front = [] ∧
      (ofLine last).2 = some reply.report ∧ outputIn front ++ (ofLine last).1 = reply.shown := by
  obtain ⟨lines, tail, houtput, hlines, htail⟩ := Report.exists_lines reply.output
  have htagFree := reply.tagFree
  rw [houtput] at htagFree
  obtain ⟨hfree, hfree'⟩ := htagFree.of_lines
  refine ⟨lines, tail ++ Utf8.encode tag ++ (reply.body ++ lineEnd), ?_, ?_, ?_, ?_, ?_⟩
  · rw [bytes, houtput]
    simp
  · intro line hline
    rcases List.mem_append.mp hline with hline | hline
    · exact hlines line hline
    · rw [List.mem_singleton.mp hline]
      refine ⟨tail ++ Utf8.encode tag ++ reply.body, ?_, by simp only [List.append_assoc]⟩
      have htag : 10 ∉ Utf8.encode tag := by decide
      simp [htail, htag, reply.oneLine]
  · exact reportsIn_of_tagFree hfree
  · rw [ofLine_tagged hfree', ofText_body]
  · rw [ofLine_tagged hfree', outputIn_of_tagFree hlines hfree, shown, houtput,
      decodeLossy_lines_append hlines]

/-- The lines of replies in a row hold their reports and their output, in order, and the last of
the lines holds a report. -/
theorem exists_lines_flatMap (replies : List Reply) :
    ∃ lines, replies.flatMap bytes = lines.flatten ∧ (∀ line ∈ lines, IsLine line) ∧
      reportsIn lines = replies.map report ∧ outputIn lines = replies.flatMap shown ∧
      ∀ last ∈ lines.getLast?, (ofLine last).2 ≠ none := by
  induction replies with
  | nil => exact ⟨[], rfl, by simp, rfl, rfl, by simp⟩
  | cons reply replies ih =>
      obtain ⟨lines, hbytes, hlines, hreports, houtput, hlast⟩ := ih
      obtain ⟨front, last, hbytes', hlines', hfront, hreport, hshown⟩ := exists_lines reply
      refine ⟨(front ++ [last]) ++ lines, ?_, ?_, ?_, ?_, ?_⟩
      · rw [List.flatMap_cons, hbytes, hbytes', ← List.flatten_append]
      · intro line hline
        rcases List.mem_append.mp hline with hline | hline
        · exact hlines' line hline
        · exact hlines line hline
      · rw [reportsIn_append, reportsIn_append, hfront, hreports]
        simp [reportsIn, hreport]
      · rw [outputIn_append, outputIn_append, houtput, List.flatMap_cons, ← hshown]
        simp [outputIn]
      · -- the last line is that of the last reply, which is this one if no other follows
        intro line hline
        cases lines with
        | nil =>
            rw [List.append_nil, List.getLast?_concat, Option.mem_some_iff] at hline
            rw [← hline, hreport]
            simp
        | cons l lines =>
            rw [List.getLast?_append_of_ne_nil _ (List.cons_ne_nil l lines)] at hline
            exact hlast line hline

/-- The reports of replies are read before anything else is known to come. -/
theorem reportsIn_complete (replies : List Reply) {last : Bytes} (h : TagFree last) :
    reportsIn (complete (replies.flatMap bytes ++ last)).1 = replies.map report := by
  obtain ⟨lines, hbytes, hlines, hreports, -, -⟩ := exists_lines_flatMap replies
  obtain ⟨lines', rest, rfl, hlines', hrest⟩ := Report.exists_lines last
  rw [hbytes, complete_lines_append hlines, complete_of_lines hlines' hrest]
  simp only
  rw [reportsIn_append, hreports, reportsIn_of_tagFree h.of_lines.1, List.append_nil]

/-- **Reports are told apart from output.**  What a runner sends, replies in a row and output
without a tag behind them, is read as the reports of the replies and all that was output. -/
theorem read_pieces (replies : List Reply) {last : Bytes} (h : TagFree last) :
    reportsIn (pieces (replies.flatMap bytes ++ last)) = replies.map report ∧
      outputIn (pieces (replies.flatMap bytes ++ last)) =
        replies.flatMap shown ++ Utf8.decodeLossy last := by
  obtain ⟨lines, hbytes, hlines, hreports, houtput, _⟩ := exists_lines_flatMap replies
  obtain ⟨hlast, hlast'⟩ := read_pieces_of_tagFree h
  rw [hbytes, pieces_lines_append hlines, reportsIn_append, outputIn_append, hreports, houtput,
    hlast, hlast', List.append_nil]
  exact ⟨rfl, rfl⟩

end Reply

end HaxePrompt

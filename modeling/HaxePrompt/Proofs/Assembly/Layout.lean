import HaxePrompt.Assembly.Program
import HaxePrompt.Proofs.Entry.Reading
import HaxePrompt.Proofs.Text.Split

/-! # The lines of a program

A program is written line by line (`assemble_eq_unlines`): those of the imports, the head of the
class, a marker, each block followed by a marker, and the tail.  The blocks are the statements,
the last one extended by the escapes, or one empty block where there are none.

In sources without the text of the marker (`Marker.Absent`) no line is a marker, and neither the
terminator nor the escapes bring one in (`absent_source`, `absent_extended`). -/

namespace HaxePrompt

namespace Marker

/-- The text of the marker does not occur. -/
def Absent (s : Text) : Prop := ¬ literal <:+: s

theorem Absent.of_infix {s t : Text} (h : Absent s) (hts : t <:+: s) : Absent t :=
  fun ht => h (ht.trans hts)

/-- The marker lies on one side of any character that it does not hold. -/
theorem absent_append_cons_iff {s t : Text} {c : Char} (hc : c ∉ literal) :
    Absent (s ++ c :: t) ↔ Absent s ∧ Absent t := by
  unfold Absent
  rw [Text.infix_append_cons_iff hc, not_or]

theorem absent_nil : Absent [] := by
  unfold Absent
  rw [List.infix_nil]
  decide

/-- The marker begins with a bracket, so it does not occur where there is none. -/
theorem absent_of_not_mem {s : Text} (h : '<' ∉ s) : Absent s := by
  intro hs
  exact h (hs.subset (by decide))

theorem absent_concat {s : Text} (h : Absent s) {c : Char} (hc : c ∉ literal) :
    Absent (s ++ [c]) :=
  (absent_append_cons_iff hc).mpr ⟨h, absent_nil⟩

/-! ### The marker as a line -/

theorem literal_infix_statement : literal <:+: statement :=
  ⟨"js.Syntax.code('\"", "\"');", rfl⟩

theorem literal_infix_token : literal <:+: token := ⟨"\"", "\";\n", rfl⟩

theorem unbordered_token : Text.Unbordered token := by
  have h : token = ("\"" ++ literal ++ "\";" : Text) ++ ['\n'] := rfl
  rw [h]
  exact Text.unbordered_concat (by decide)

theorem newline_not_mem_statement : '\n' ∉ statement := by decide

theorem Absent.ne_statement {s l : Text} (h : Absent s) (hl : l <:+: s) : l ≠ statement := by
  rintro rfl
  exact h (literal_infix_statement.trans hl)

theorem Absent.no_token {s : Text} (h : Absent s) : ¬ token <:+: s :=
  fun hs => h (literal_infix_token.trans hs)

end Marker

namespace Program

/-! ### Lines -/

/-- The blocks between the markers. -/
def blocks (statements : List Text) : List Text :=
  if statements = [] then [[]] else statements

/-- The lines between the first marker and the last one, both included. -/
def markedLines (blocks : List Text) : List Text :=
  Marker.statement ::
    blocks.flatMap fun block => Text.split Text.newline block ++ [Marker.statement]

theorem newline_not_mem_markedLines {blocks : List Text} {l : Text} (h : l ∈ markedLines blocks) :
    '\n' ∉ l := by
  unfold markedLines at h
  rw [List.mem_cons, List.mem_flatMap] at h
  rcases h with rfl | ⟨block, _, h⟩
  · exact Marker.newline_not_mem_statement
  · rcases List.mem_append.mp h with h | h
    · exact Text.newline_not_mem_of_mem_split h
    · rw [List.mem_singleton.mp h]
      exact Marker.newline_not_mem_statement

theorem newline_not_mem_lines {front back blocks : List Text} (hfront : ∀ l ∈ front, '\n' ∉ l)
    (hback : ∀ l ∈ back, '\n' ∉ l) : ∀ l ∈ front ++ markedLines blocks ++ back, '\n' ∉ l := by
  intro l hl
  rw [List.mem_append, List.mem_append] at hl
  rcases hl with (hl | hl) | hl
  · exact hfront l hl
  · exact newline_not_mem_markedLines hl
  · exact hback l hl

theorem exists_head_lines :
    ∃ ls, head = Text.unlines ls ∧ ∀ l ∈ ls, '\n' ∉ l ∧ l ≠ Marker.statement :=
  ⟨_, rfl, by decide⟩

theorem exists_tail_lines :
    ∃ ls, tail = Text.unlines ls ∧ ∀ l ∈ ls, '\n' ∉ l ∧ l ≠ Marker.statement :=
  ⟨_, rfl, by decide⟩

theorem unlines_split_concat (block : Text) :
    Text.unlines (Text.split Text.newline block ++ [Marker.statement]) =
      block ++ Text.newline ++ markerLine := by
  rw [Text.unlines_append, Text.unlines_split]
  rfl

theorem join_markerLine {blocks : List Text} (h : blocks ≠ []) :
    Text.join (Text.newline ++ markerLine) blocks ++ Text.newline ++ markerLine =
      blocks.flatMap fun block => block ++ Text.newline ++ markerLine := by
  induction blocks with
  | nil => exact absurd rfl h
  | cons block rest ih =>
      cases rest with
      | nil => simp [Text.join_singleton]
      | cons next rest =>
          rw [List.flatMap_cons, ← ih (List.cons_ne_nil next rest), Text.join_cons_cons]
          simp only [List.append_assoc]

theorem unlines_markedLines (blocks : List Text) :
    Text.unlines (markedLines blocks) =
      markerLine ++ blocks.flatMap fun block => block ++ Text.newline ++ markerLine := by
  have hblocks : Text.unlines
      (blocks.flatMap fun block => Text.split Text.newline block ++ [Marker.statement]) =
        blocks.flatMap fun block => block ++ Text.newline ++ markerLine := by
    induction blocks with
    | nil => rfl
    | cons block rest ih =>
        rw [List.flatMap_cons, Text.unlines_append, unlines_split_concat, ih, List.flatMap_cons]
  rw [markedLines, ← hblocks]
  rfl

theorem body_eq_unlines (statements : List Text) :
    body statements = Text.unlines (markedLines (blocks statements)) := by
  rw [unlines_markedLines]
  unfold body blocks
  split
  · rename_i h
    rw [h]
    rfl
  · rename_i h
    rw [← join_markerLine h]
    simp only [List.append_assoc]

/-- **A program line by line**: the imports with the head, the marked blocks and the tail.  Around
the blocks no line is a marker. -/
theorem assemble_eq_unlines {imports : List Text} (h : ∀ s ∈ imports, Marker.Absent s)
    (statements : List Text) (entry : Entry) :
    ∃ front back : List Text,
      (∀ l ∈ front, '\n' ∉ l ∧ l ≠ Marker.statement) ∧
      (∀ l ∈ back, '\n' ∉ l ∧ l ≠ Marker.statement) ∧
      front ≠ [] ∧ Text.unlines front = Text.unlines imports ++ head ∧ Text.unlines back = tail ∧
      assemble imports statements entry = Text.unlines
        (front ++ markedLines (blocks (extendLast (escapes entry) statements)) ++ back) := by
  obtain ⟨headLines, hhead, hheadLines⟩ := exists_head_lines
  obtain ⟨tailLines, htail, htailLines⟩ := exists_tail_lines
  have hlines : Text.unlines (imports.flatMap (Text.split Text.newline) ++ headLines) =
      Text.unlines imports ++ head := by
    rw [Text.unlines_append, Text.unlines_flatMap_split, hhead]
  refine ⟨imports.flatMap (Text.split Text.newline) ++ headLines, tailLines, ?_, htailLines, ?_,
    hlines, htail.symm, ?_⟩
  · intro l hl
    rcases List.mem_append.mp hl with hl | hl
    · obtain ⟨declaration, hmem, hl⟩ := List.mem_flatMap.mp hl
      exact ⟨Text.newline_not_mem_of_mem_split hl,
        (h declaration hmem).ne_statement (Text.infix_of_mem_split (by decide) hl)⟩
    · exact hheadLines l hl
  · intro hnil
    rw [hnil] at hlines
    exact absurd (List.append_eq_nil_iff.mp hlines.symm).2 (by decide)
  · rw [Text.unlines_append, Text.unlines_append, hlines, ← htail, ← body_eq_unlines]
    rfl

/-! ### The newest statement -/

theorem extendLast_nil (statements : List Text) : extendLast [] statements = statements := by
  induction statements with
  | nil => rfl
  | cons statement rest ih =>
      cases rest with
      | nil => rw [extendLast, List.append_nil]
      | cons next rest => rw [extendLast, ih]

theorem extendLast_concat (extra : Text) (statements : List Text) (last : Text) :
    extendLast extra (statements ++ [last]) = statements ++ [last ++ extra] := by
  induction statements with
  | nil => rfl
  | cons statement rest ih =>
      cases rest with
      | nil => rfl
      | cons next rest =>
          rw [List.cons_append] at ih
          rw [List.cons_append, List.cons_append, extendLast, ih]
          rfl

theorem blocks_concat (statements : List Text) (last : Text) :
    blocks (statements ++ [last]) = statements ++ [last] := by
  unfold blocks
  rw [if_neg (by simp)]

/-! ### Sources without the marker -/

theorem absent_blocks {statements : List Text} (h : ∀ s ∈ statements, Marker.Absent s) :
    ∀ b ∈ blocks statements, Marker.Absent b := by
  unfold blocks
  split
  · intro b hb
    rw [List.mem_singleton.mp hb]
    exact Marker.absent_nil
  · exact h

theorem absent_source {input : Text} (h : Marker.Absent input) {part : Part}
    (hp : (Entry.read input).part? = some part) : Marker.Absent (Entry.read input).source := by
  obtain ⟨_, hsource⟩ := Entry.source_read hp
  obtain ⟨before, after, htrim, _, _⟩ := Text.exists_eq_trim input
  have hraw : Marker.Absent (Text.trim input) := h.of_infix ⟨before, after, htrim.symm⟩
  rw [hsource]
  rcases Entry.terminate_eq (Text.trim input) with ht | ht
  · rw [ht]
    exact hraw
  · rw [ht]
    exact Marker.absent_concat hraw (by decide)

theorem escapes_of_imports {input : Text} (h : (Entry.read input).part? = some .imports) :
    escapes (Entry.read input) = [] := by
  unfold escapes
  rw [Entry.retained_of_imports h]

/-- A character that names do not have is in the escapes only if it is in their fixed texts. -/
theorem not_mem_escapes {c : Char} (hname : Recognizer.isNameChar c = false)
    (hfixed : c ∉ valueEscape [] ++ silentEscape) (input : Text) :
    c ∉ escapes (Entry.read input) := by
  unfold escapes
  cases hr : (Entry.read input).retained with
  | none => exact List.not_mem_nil
  | some name =>
      have hmem : c ∉ name := by
        intro hc
        rw [Entry.isNameChar_of_retained hr c hc] at hname
        cases hname
      rw [List.mem_append, not_or] at hfixed
      obtain ⟨hempty, hsilent⟩ := hfixed
      have hvalue : c ∉ valueEscape name := by
        unfold valueEscape at hempty ⊢
        rw [List.mem_append, List.mem_append, not_or, not_or] at hempty ⊢
        exact ⟨⟨hempty.1.1, hmem⟩, hempty.2⟩
      simp only [List.mem_append, not_or]
      refine ⟨hvalue, ?_⟩
      split
      · exact hsilent
      · exact List.not_mem_nil

theorem lt_not_mem_escapes (input : Text) : '<' ∉ escapes (Entry.read input) :=
  not_mem_escapes (by decide) (by decide) input

theorem escapes_eq_nil_or_blank (entry : Entry) :
    escapes entry = [] ∨ ∃ rest, escapes entry = ' ' :: rest := by
  unfold escapes
  cases entry.retained with
  | none => exact Or.inl rfl
  | some name => exact Or.inr ⟨_, rfl⟩

/-- The escapes begin with a blank, so no marker begins in a text and ends in them. -/
theorem absent_append_escapes {s : Text} (h : Marker.Absent s) (input : Text) :
    Marker.Absent (s ++ escapes (Entry.read input)) := by
  have hnone := lt_not_mem_escapes input
  rcases escapes_eq_nil_or_blank (Entry.read input) with he | ⟨rest, he⟩
  · rw [he, List.append_nil]
    exact h
  · rw [he] at hnone ⊢
    refine (Marker.absent_append_cons_iff (by decide)).mpr ⟨h, ?_⟩
    exact Marker.absent_of_not_mem fun hmem => hnone (List.mem_cons_of_mem _ hmem)

theorem absent_extended {input : Text} (h : Marker.Absent input) {part : Part}
    (hp : (Entry.read input).part? = some part) :
    Marker.Absent ((Entry.read input).source ++ escapes (Entry.read input)) :=
  absent_append_escapes (absent_source h hp) input

end Program

end HaxePrompt

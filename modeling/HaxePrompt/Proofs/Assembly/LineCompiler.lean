import HaxePrompt.Proofs.Assembly.Delta
import HaxePrompt.Proofs.Text.Trim
import HaxePrompt.Turn.Toolchain

/-! # A compiler that goes by lines

`LineCompiler.compile` stands for the real compiler where only the markers matter.  Its output is
a fixed prologue, the lines of the program from the first marker to the last one, with a token in
the place of each marker, and a fixed epilogue.

Cut at the tokens, the output for a program falls into the prologue, the blocks of the program
and the epilogue (`split_output_assemble`).  Of these pieces the first, the last and, for a
statement, the last block alone are the newest code (`Delta.ofPieces_imports`,
`Delta.ofPieces_statements`). -/

namespace HaxePrompt

namespace LineCompiler

/-- The lines from the first marker to the last one. -/
def marked (lines : List Text) : List Text :=
  (lines.dropWhile (· ≠ Marker.statement)).rdropWhile (· ≠ Marker.statement)

/-- What a line becomes in the output. -/
def emit (line : Text) : Text :=
  if line = Marker.statement then Marker.token else line ++ Text.newline

def output (prologue epilogue source : Text) : Text :=
  prologue ++ (marked (Text.split Text.newline source)).flatMap emit ++ epilogue

/-- Compiles a program; this never fails. -/
def compile (prologue epilogue source : Text) : Except (List Diagnostic) Compiled :=
  .ok { output := output prologue epilogue source }

/-! ### From the first marker to the last -/

theorem ends_markedLines (blocks : List Text) :
    (Program.markedLines blocks).head? = some Marker.statement ∧
      (Program.markedLines blocks).getLast? = some Marker.statement := by
  refine ⟨rfl, ?_⟩
  unfold Program.markedLines
  rcases List.eq_nil_or_concat blocks with rfl | ⟨init, last, rfl⟩
  · rfl
  · rw [List.concat_eq_append, List.flatMap_append, List.flatMap_singleton, ← List.append_assoc,
      ← List.cons_append, List.getLast?_concat]

theorem marked_markedLines {before after : List Text} (blocks : List Text)
    (hb : ∀ l ∈ before, l ≠ Marker.statement) (ha : ∀ l ∈ after, l ≠ Marker.statement) :
    marked (before ++ Program.markedLines blocks ++ after) = Program.markedLines blocks := by
  obtain ⟨hfirst, hlast⟩ := ends_markedLines blocks
  have hstart : ∀ l ∈ (Program.markedLines blocks ++ after).head?,
      decide (l ≠ Marker.statement) = false := by
    intro l hl
    rw [List.head?_append, hfirst] at hl
    cases hl
    rw [decide_eq_false_iff_not, not_not]
  have hend : ∀ l ∈ (Program.markedLines blocks).reverse.head?,
      decide (l ≠ Marker.statement) = false := by
    intro l hl
    rw [List.head?_reverse, hlast] at hl
    cases hl
    rw [decide_eq_false_iff_not, not_not]
  unfold marked List.rdropWhile
  rw [List.append_assoc, Text.dropWhile_run (by simpa using hb) hstart, List.reverse_append,
    Text.dropWhile_run (by simpa using ha) hend, List.reverse_reverse]

/-! ### The output -/

theorem emit_statement : emit Marker.statement = Marker.token := by
  unfold emit
  rw [if_pos rfl]

theorem flatMap_emit_split {block : Text} (h : Marker.Absent block) :
    (Text.split Text.newline block).flatMap emit = block ++ Text.newline := by
  rw [← Text.unlines_split, Text.unlines, List.flatMap_def, List.flatMap_def]
  congr 1
  apply List.map_congr_left
  intro l hl
  unfold emit
  rw [if_neg (h.ne_statement (Text.infix_of_mem_split (by decide) hl))]

theorem flatMap_emit_markedLines {blocks : List Text} (h : ∀ b ∈ blocks, Marker.Absent b) :
    (Program.markedLines blocks).flatMap emit =
      Marker.token ++ (blocks.map (· ++ Text.newline)).flatMap (· ++ Marker.token) := by
  rw [Program.markedLines, List.flatMap_cons, emit_statement]
  congr 1
  induction blocks with
  | nil => rfl
  | cons block rest ih =>
      rw [List.flatMap_cons, List.flatMap_append, List.flatMap_append,
        flatMap_emit_split (h block List.mem_cons_self), List.flatMap_singleton, emit_statement,
        ih fun b hb => h b (List.mem_cons_of_mem block hb), List.map_cons, List.flatMap_cons]

/-- Cut at the tokens, the output falls into the prologue, the blocks and the epilogue. -/
theorem split_output {prologue epilogue : Text} (hp : ¬ Marker.token <:+: prologue)
    (he : ¬ Marker.token <:+: epilogue) {before after blocks : List Text}
    (hb : ∀ l ∈ before, '\n' ∉ l ∧ l ≠ Marker.statement)
    (ha : ∀ l ∈ after, '\n' ∉ l ∧ l ≠ Marker.statement)
    (hblocks : ∀ b ∈ blocks, Marker.Absent b) :
    Text.split Marker.token
        (output prologue epilogue
          (Text.unlines (before ++ Program.markedLines blocks ++ after))) =
      prologue :: (blocks.map (· ++ Text.newline) ++ [epilogue]) := by
  have hlines : ∀ l ∈ before ++ Program.markedLines blocks ++ after, '\n' ∉ l :=
    Program.newline_not_mem_lines (fun l hl => (hb l hl).1) fun l hl => (ha l hl).1
  have hafter : ∀ l ∈ after ++ [[]], l ≠ Marker.statement := by
    intro l hl
    rcases List.mem_append.mp hl with hl | hl
    · exact (ha l hl).2
    · rw [List.mem_singleton.mp hl]
      decide
  have houtput : output prologue epilogue
      (Text.unlines (before ++ Program.markedLines blocks ++ after)) =
        Text.join Marker.token (prologue :: (blocks.map (· ++ Text.newline) ++ [epilogue])) := by
    -- the empty piece after the last line feed stands behind the last marker
    unfold output
    rw [Text.split_newline_unlines hlines, List.append_assoc _ after,
      marked_markedLines blocks (fun l hl => (hb l hl).2) hafter,
      flatMap_emit_markedLines hblocks, ← List.cons_append, Text.join_concat, List.flatMap_cons]
    simp only [List.append_assoc]
  rw [houtput]
  apply Text.split_join (by decide) Marker.unbordered_token (List.cons_ne_nil _ _)
  intro piece hpiece
  rw [List.mem_cons, List.mem_append, List.mem_singleton, List.mem_map] at hpiece
  rcases hpiece with rfl | ⟨block, hblock, rfl⟩ | rfl
  · exact hp
  · exact (Marker.absent_concat (hblocks block hblock) (by decide)).no_token
  · exact he

theorem split_output_assemble {prologue epilogue : Text} (hp : ¬ Marker.token <:+: prologue)
    (he : ¬ Marker.token <:+: epilogue) {imports statements : List Text} {entry : Entry}
    (himports : ∀ s ∈ imports, Marker.Absent s)
    (hstatements : ∀ s ∈ Program.extendLast (Program.escapes entry) statements, Marker.Absent s) :
    Text.split Marker.token
        (output prologue epilogue (Program.assemble imports statements entry)) =
      prologue :: ((Program.blocks (Program.extendLast (Program.escapes entry) statements)).map
        (· ++ Text.newline) ++ [epilogue]) := by
  obtain ⟨front, back, hfront, hback, _, _, _, hassemble⟩ :=
    Program.assemble_eq_unlines himports statements entry
  rw [hassemble]
  exact split_output hp he hfront hback (Program.absent_blocks hstatements)

end LineCompiler

end HaxePrompt

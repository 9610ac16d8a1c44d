import HaxePrompt.Proofs.Message.Position
import Mathlib.Data.List.DropRight
import Mathlib.Data.List.Forall2

/-! # Reading back what a compiler writes

`Renders` tells how a compiler writes a diagnostic on a line, and `laid` puts such lines one below
the other, with blank lines anywhere among them.  Whatever else the lines have in them,
`Diagnostic.parse` gives the diagnostics back (`parse_laid`). -/

namespace HaxePrompt.Diagnostic

variable {file : Text}

/-! ### Writing -/

/-- Text that can stand at the end of a line: nothing in it is taken for the ending. -/
structure OneLine (text : Text) : Prop where
  noNewline : '\n' ∉ text
  noReturn : text.getLast? ≠ some '\r'

/-- A text in front of the name of the file: it is empty or ends with a path separator, and the
name does not stand in it with a colon. -/
structure IsDirectory (file directory : Text) : Prop where
  anchored : Anchored directory
  free : ¬ fileMark file <:+: directory
  noNewline : '\n' ∉ directory

/-- The number in decimal, with zeros before it. -/
def numeral (zeros number : Nat) : Text := List.replicate zeros '0' ++ Text.decimal number

/-- The line is a way of writing the diagnostic. -/
inductive Renders (file : Text) : Diagnostic → Text → Prop
  | error {directory message : Text} {zeros number : Nat} (hdirectory : IsDirectory file directory)
      (hnumber : number < UInt64.size) (hmessage : OneLine message)
      (hmark : ¬ warningMark <:+: message) :
      Renders file (.error number message)
        (directory ++ fileMark file ++ (numeral zeros number ++ ": " ++ message))
  | warning {directory lead remark : Text} {zeros number : Nat}
      (hdirectory : IsDirectory file directory) (hnumber : number < UInt64.size)
      (hlead : '\n' ∉ lead) (hfree : ¬ warningMark <:+: lead) (hremark : OneLine remark) :
      Renders file (.warning number remark)
        (directory ++ fileMark file ++
          (numeral zeros number ++ ": " ++ (lead ++ warningMark ++ remark)))
  | other {text : Text} (hne : text ≠ []) (htext : OneLine text)
      (hfree : ¬ fileMark file <:+: text) : Renders file (.other text) text

/-- The ending of a line: a line feed, with carriage returns before it or without. -/
def ending (returns : Nat) : Text := List.replicate returns '\r' ++ Text.newline

/-- Lines one below the other, each with the endings that stand after it.  The first of them ends
the line and each of the others a blank one; blank lines may come first as well. -/
def laid (leading : List Nat) (rows : List (Text × List Nat)) : Text :=
  leading.flatMap ending ++ rows.flatMap fun row => row.1 ++ row.2.flatMap ending

/-! ### A line that was written -/

theorem numeral_spec (zeros : Nat) {number : Nat} (h : number < UInt64.size) :
    Numeral (numeral zeros number) number := by
  refine ⟨?_, ?_, ?_, h⟩
  · intro hnil
    exact Nat.toDigits_ne_nil (List.append_eq_nil_iff.mp hnil).2
  · intro d hd
    rcases List.mem_append.mp hd with hd | hd
    · rw [List.eq_of_mem_replicate hd]
      rfl
    · have hdigit : d.isDigit = true := Nat.isDigit_of_mem_toDigits (by decide) (by decide) hd
      exact hdigit
  · have hvalue : Text.digitsValue (numeral zeros number) =
        Nat.ofDigitChars 10 (numeral zeros number) 0 := Nat.ofDigitChars_eq_foldl.symm
    rw [hvalue, numeral, Nat.ofDigitChars_append, Nat.ofDigitChars_replicate_zero, Nat.mul_zero]
    exact Nat.ofDigitChars_ten_toDigits

/-- What was written is what the line says. -/
theorem Renders.means (hfile : IsFileName file) {diagnostic : Diagnostic} {line : Text}
    (h : Renders file diagnostic line) : Means file line diagnostic := by
  cases h with
  | error hdirectory hnumber hmessage hmark =>
      exact .error (Place.firstPlace hfile ⟨rfl, hdirectory.anchored⟩ hdirectory.free)
        ⟨_, numeral_spec _ hnumber, rfl⟩ hmark
  | warning hdirectory hnumber hlead hfree hremark =>
      exact .warning (Place.firstPlace hfile ⟨rfl, hdirectory.anchored⟩ hdirectory.free)
        ⟨_, numeral_spec _ hnumber, rfl⟩ hfree
  | other hne htext hfree =>
      refine .other fun before after number message hplace _ => hfree ?_
      rw [hplace.eq]
      exact ⟨before, after, rfl⟩

theorem OneLine.append {front text : Text} (hfront : '\n' ∉ front)
    (hlast : front.getLast? ≠ some '\r') (h : OneLine text) : OneLine (front ++ text) := by
  refine ⟨?_, ?_⟩
  · rw [List.mem_append, not_or]
    exact ⟨hfront, h.noNewline⟩
  · rw [List.getLast?_append]
    cases htext : text.getLast? with
    | none => simpa using hlast
    | some c =>
        rw [← htext]
        simpa [htext] using h.noReturn

theorem newline_not_mem_position (hfile : IsFileName file) {directory : Text}
    (hdirectory : IsDirectory file directory) (zeros : Nat) {number : Nat}
    (h : number < UInt64.size) :
    '\n' ∉ directory ++ fileMark file ++ (numeral zeros number ++ ": ") := by
  have hmark : '\n' ∉ fileMark file := by simp [fileMark, hfile.noNewline]
  have hdigits : '\n' ∉ numeral zeros number := fun hmem =>
    absurd ((numeral_spec zeros h).isDigit _ hmem) (by decide)
  simp [hdirectory.noNewline, hmark, hdigits]

theorem Renders.oneLine (hfile : IsFileName file) {diagnostic : Diagnostic} {line : Text}
    (h : Renders file diagnostic line) : line ≠ [] ∧ OneLine line := by
  cases h with
  | error hdirectory hnumber hmessage hmark =>
      refine ⟨by simp [fileMark], ?_⟩
      rw [← List.append_assoc]
      exact hmessage.append (newline_not_mem_position hfile hdirectory _ hnumber)
        (by simp [List.getLast?_append])
  | @warning directory lead remark zeros number hdirectory hnumber hlead hfree hremark =>
      refine ⟨by simp [fileMark], ?_⟩
      have hfront : '\n' ∉ directory ++ fileMark file ++ (numeral zeros number ++ ": ") ++
          (lead ++ warningMark) := by
        have hmark : '\n' ∉ warningMark := by decide
        rw [List.mem_append, List.mem_append (t := warningMark), not_or, not_or]
        exact ⟨newline_not_mem_position hfile hdirectory zeros hnumber, hlead, hmark⟩
      have hlast : warningMark.getLast? = some ' ' := by decide
      have hline := hremark.append hfront (by
        rw [List.getLast?_append, List.getLast?_append, hlast]
        simp)
      simp only [List.append_assoc] at hline ⊢
      exact hline
  | other hne htext _ => exact ⟨hne, htext⟩

/-! ### Lines one below the other -/

/-- The lines that say something. -/
def spoken (written : Text) : List Text :=
  ((Text.split Text.newline written).map dropReturns).filter (· ≠ [])

theorem dropReturns_append_returns (line : Text) (returns : Nat) :
    dropReturns (line ++ List.replicate returns '\r') = dropReturns line := by
  unfold dropReturns
  rw [List.reverse_append, List.reverse_replicate, List.dropWhile_append_of_pos]
  intro c hc
  rw [List.eq_of_mem_replicate hc]
  rfl

theorem dropReturns_dropReturn (line : Text) :
    dropReturns (Text.dropReturn line) = dropReturns line := by
  unfold Text.dropReturn
  split
  · rename_i h
    conv_rhs => rw [← List.dropLast_append_getLast? _ h]
    exact (dropReturns_append_returns line.dropLast 1).symm
  · rfl

theorem dropReturns_of_oneLine {line : Text} (h : OneLine line) : dropReturns line = line := by
  refine List.rdropWhile_eq_self_iff.mpr fun hne hlast => h.noReturn ?_
  rw [List.getLast?_eq_some_getLast hne, beq_iff_eq.mp hlast]

/-- Taking the carriage returns off a line leaves nothing of the difference between pieces and
lines. -/
theorem filter_linesOfPieces (pieces : List Text) :
    ((Text.linesOfPieces pieces).map dropReturns).filter (· ≠ []) =
      (pieces.map dropReturns).filter (· ≠ []) := by
  fun_induction Text.linesOfPieces pieces with
  | case1 => rfl
  | case2 => rfl
  | case3 last hne => rfl
  | case4 piece next rest ih =>
      rw [List.map_cons, dropReturns_dropReturn, List.map_cons, List.filter_cons, ih,
        List.filter_cons]

theorem parse_eq (file written : Text) :
    parse file written = (spoken written).map (ofLine file) := by
  rw [parse, Text.lines, filter_linesOfPieces, spoken]

theorem spoken_append (s t : Text) :
    spoken (s ++ Text.newline ++ t) = spoken s ++ spoken t := by
  unfold spoken
  rw [Text.split_append (by decide) Text.unbordered_newline, List.map_append, List.filter_append]

theorem spoken_of_noNewline {line : Text} (h : '\n' ∉ line) :
    spoken line = [dropReturns line].filter (· ≠ []) := by
  have hinfix : ¬ Text.newline <:+: line := by
    rwa [Text.newline, List.singleton_infix_iff]
  rw [spoken, Text.split, Text.splitFrom_of_not_infix hinfix]
  rfl

theorem spoken_ending {line : Text} (h : '\n' ∉ line) (returns : Nat) (t : Text) :
    spoken (line ++ ending returns ++ t) = spoken line ++ spoken t := by
  have hreturns : '\n' ∉ line ++ List.replicate returns '\r' := by
    rw [List.mem_append, not_or]
    exact ⟨h, fun hmem => absurd (List.eq_of_mem_replicate hmem) (by decide)⟩
  rw [ending, ← List.append_assoc, spoken_append, spoken_of_noNewline hreturns,
    dropReturns_append_returns, ← spoken_of_noNewline h]

theorem spoken_endings (endings : List Nat) (t : Text) :
    spoken (endings.flatMap ending ++ t) = spoken t := by
  induction endings with
  | nil => rfl
  | cons returns endings ih =>
      have hempty : '\n' ∉ ([] : Text) := List.not_mem_nil
      rw [List.flatMap_cons, List.append_assoc]
      exact (spoken_ending hempty returns _).trans ih

theorem spoken_row {line : Text} (h : '\n' ∉ line) {endings : List Nat} (hne : endings ≠ [])
    (t : Text) : spoken (line ++ endings.flatMap ending ++ t) = spoken line ++ spoken t := by
  obtain ⟨returns, endings, rfl⟩ := List.exists_cons_of_ne_nil hne
  rw [List.flatMap_cons, ← List.append_assoc, List.append_assoc, spoken_ending h, spoken_endings]

/-- The lines that were laid out are what is said. -/
theorem spoken_laid (leading : List Nat) {rows : List (Text × List Nat)}
    (hlines : ∀ row ∈ rows, row.1 ≠ [] ∧ OneLine row.1)
    (hended : ∀ row ∈ rows.dropLast, row.2 ≠ []) :
    spoken (laid leading rows) = rows.map Prod.fst := by
  rw [laid, spoken_endings]
  induction rows with
  | nil => rfl
  | cons row rest ih =>
      obtain ⟨hne, hline⟩ := hlines row List.mem_cons_self
      have hspoken : spoken row.1 = [row.1] := by
        rw [spoken_of_noNewline hline.noNewline, dropReturns_of_oneLine hline]
        simp [hne]
      rw [List.flatMap_cons, List.map_cons]
      cases rest with
      | nil =>
          -- the last line may go without an ending
          by_cases hendings : row.2 = []
          · simpa [hendings] using hspoken
          · rw [spoken_row hline.noNewline hendings, hspoken]
            rfl
      | cons next rest =>
          have hendings := hended row (by simp)
          rw [spoken_row hline.noNewline hendings, hspoken, ih]
          · rfl
          · exact fun r hr => hlines r (List.mem_cons_of_mem row hr)
          · intro r hr
            exact hended r (by rw [List.dropLast_cons_cons]; exact List.mem_cons_of_mem row hr)

theorem map_ofLine_of_renders (hfile : IsFileName file) {diagnostics : List Diagnostic}
    {lines : List Text} (h : List.Forall₂ (Renders file) diagnostics lines) :
    (∀ line ∈ lines, line ≠ [] ∧ OneLine line) ∧ lines.map (ofLine file) = diagnostics := by
  induction h with
  | nil => exact ⟨List.forall_mem_nil _, rfl⟩
  | cons hrenders _ ih =>
      rw [List.forall_mem_cons, List.map_cons, ofLine_of_means hfile (hrenders.means hfile), ih.2]
      exact ⟨⟨hrenders.oneLine hfile, ih.1⟩, rfl⟩

/-- **What was written is read back.**  The diagnostics come back in their order, all of them are
shown with warnings, and the others than warnings without. -/
theorem parse_laid (hfile : IsFileName file) (leading : List Nat) {diagnostics : List Diagnostic}
    {rows : List (Text × List Nat)}
    (hrows : List.Forall₂ (Renders file) diagnostics (rows.map Prod.fst))
    (hended : ∀ row ∈ rows.dropLast, row.2 ≠ []) :
    parse file (laid leading rows) = diagnostics ∧
      visible true (parse file (laid leading rows)) = diagnostics ∧
      visible false (parse file (laid leading rows)) =
        diagnostics.filter fun diagnostic => !diagnostic.isWarning := by
  obtain ⟨hlines, hmap⟩ := map_ofLine_of_renders hfile hrows
  have hread : parse file (laid leading rows) = diagnostics := by
    rw [parse_eq, spoken_laid leading (fun row hrow => hlines _ (List.mem_map_of_mem hrow)) hended,
      hmap]
  rw [hread]
  exact ⟨rfl, List.filter_eq_self.mpr fun _ _ => rfl, rfl⟩

theorem parse_laid_three :
    let rows : List (Text × List Nat) :=
      [("/tmp/Repl.hx:04: Unexpected ;", [0, 1]),
        ("C:\\Repl.hx:7: lines 7-8 : Warning : Unused", [1]), ("Aborted", [])]
    let diagnostics : List Diagnostic :=
      [.error 4 "Unexpected ;", .warning 7 "Unused", .other "Aborted"]
    List.Forall₂ (Renders "Repl.hx") diagnostics (rows.map Prod.fst) ∧
      parse "Repl.hx" (laid [0] rows) = diagnostics := by
  intro rows diagnostics
  have hfile : IsFileName "Repl.hx" := ⟨by decide, by decide⟩
  have hunix : IsDirectory "Repl.hx" "/tmp/" :=
    ⟨isAnchor_true_iff.mp (by decide), by decide +kernel, by decide⟩
  have hwindows : IsDirectory "Repl.hx" "C:\\" :=
    ⟨isAnchor_true_iff.mp (by decide), by decide +kernel, by decide⟩
  have herror := @Renders.error "Repl.hx" "/tmp/" "Unexpected ;" 1 4 hunix (by decide)
    ⟨by decide, by decide⟩ (by decide +kernel)
  have hwarning := @Renders.warning "Repl.hx" "C:\\" "lines 7-8 : " "Unused" 0 7 hwindows
    (by decide) (by decide) (by decide +kernel) ⟨by decide, by decide⟩
  have hother := @Renders.other "Repl.hx" "Aborted" (by decide) ⟨by decide, by decide⟩
    (by decide +kernel)
  have hrows : List.Forall₂ (Renders "Repl.hx") diagnostics (rows.map Prod.fst) :=
    .cons herror (.cons hwarning (.cons hother .nil))
  exact ⟨hrows, (parse_laid hfile [0] hrows (by decide)).1⟩

end HaxePrompt.Diagnostic

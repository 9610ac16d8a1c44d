import HaxePrompt.Proofs.Assembly.Layout
import HaxePrompt.Proofs.Entry.Delimiters

/-! # Where a source ends

The terminator of a source is code only if the text before it does not end inside a comment
(`Delimiters.Terminated`), and the escapes behind it only if the source ends in code
(`Delimiters.IsCodeAfter`).  For an input that is left neither inside a string nor inside a block
comment both hold exactly when the trimmed text does not end with a line comment
(`terminated_iff_not_lineComment`); when it does, the comment takes the terminator and the escapes
in (`terminator_in_lineComment`).

A line feed at the end of the input would end the comment, but it is trimmed off, so the condition
is on the trimmed text. -/

namespace HaxePrompt

namespace Delimiters

/-- The mode in which a text ends. -/
def ending (s : Text) : Mode := (scan .code 0 s).1

/-- The text is code where it follows another: the scan is in code where it begins, and is in code
and as deep as there where it ends. -/
def IsCodeAfter (s extra : Text) : Prop :=
  ending s = .code ∧ scan .code 0 (s ++ extra) = scan .code 0 s

/-- The text ends with a terminator, which is code. -/
def Terminated (s : Text) : Prop :=
  s.getLast? = some Entry.terminator ∧ ending s.dropLast = .code

instance (s extra : Text) : Decidable (IsCodeAfter s extra) :=
  inferInstanceAs (Decidable (_ ∧ _))

instance (s : Text) : Decidable (Terminated s) := inferInstanceAs (Decidable (_ ∧ _))

/-! ### Quotes -/

/-- Can the mode be reached from code?  A string is opened by a quote. -/
def Reachable (mode : Mode) : Prop :=
  ∀ quote escaped, mode = .quoted quote escaped → quote = '"' ∨ quote = '\''

theorem reachable_of_ne_quoted {mode : Mode} (h : ∀ quote escaped, mode ≠ .quoted quote escaped) :
    Reachable mode := fun quote escaped hmode => absurd hmode (h quote escaped)

theorem reachable_scan {mode : Mode} (h : Reachable mode) (depth : Int) (s : Text) :
    Reachable (scan mode depth s).1 := by
  -- the cases that stay in a string or enter one keep its quote, the others are in no string
  fun_induction scan mode depth s with
  | case1 mode depth => exact h
  | case4 depth c rest hline hblock hquote ih =>
      apply ih
      rintro quote escaped hmode
      cases hmode
      exact hquote
  | case6 quote depth c rest ih =>
      apply ih
      rintro quote' escaped hmode
      cases hmode
      exact h quote true rfl
  | case7 quote depth rest ih =>
      apply ih
      rintro quote' escaped hmode
      cases hmode
      exact h quote false rfl
  | case9 quote depth c rest hescape hquote ih =>
      apply ih
      rintro quote' escaped hmode
      cases hmode
      exact h quote false rfl
  | case2 | case3 | case5 | case8 | case10 | case11 | case12 | case13 =>
      rename_i ih
      exact ih (reachable_of_ne_quoted (by simp))

theorem reachable_ending (s : Text) : Reachable (ending s) :=
  reachable_scan (reachable_of_ne_quoted (by simp)) 0 s

/-! ### Blanks at the end -/

theorem scan_append_blanks (mode : Mode) (depth : Int) (s : Text) {after : Text}
    (h : ∀ c ∈ after, Text.isBlank c = true) :
    scan mode depth (s ++ after) = scan (scan mode depth s).1 (scan mode depth s).2 after := by
  cases after with
  | nil =>
      rw [List.append_nil]
      rfl
  | cons c after => exact scan_append (inert_of_isBlank (h c List.mem_cons_self)) mode depth s after

theorem scan_quoted_blanks {quote : Char} (hquote : Text.isBlank quote = false) (escaped : Bool)
    (depth : Int) {after : Text} (h : ∀ c ∈ after, Text.isBlank c = true) :
    ∃ escaped', scan (.quoted quote escaped) depth after = (.quoted quote escaped', depth) := by
  induction after generalizing escaped with
  | nil => exact ⟨escaped, rfl⟩
  | cons c after ih =>
      have hc : Text.isBlank c = true := h c List.mem_cons_self
      have hrest : ∀ d ∈ after, Text.isBlank d = true := fun d hd => h d (List.mem_cons_of_mem c hd)
      cases escaped with
      | true =>
          rw [scan]
          exact ih false hrest
      | false =>
          rw [scan, if_neg (ne_of_isBlank hc (by decide)), if_neg (ne_of_isBlank hc hquote)]
          exact ih false hrest

theorem scan_blockComment_blanks (depth : Int) {after : Text}
    (h : ∀ c ∈ after, Text.isBlank c = true) :
    scan .blockComment depth after = (.blockComment, depth) := by
  induction after with
  | nil => rfl
  | cons c after ih =>
      have hc : c ≠ '*' := ne_of_isBlank (h c List.mem_cons_self) (by decide)
      rw [scan.eq_9 _ _ _ fun _ hstar => absurd hstar hc,
        ih fun d hd => h d (List.mem_cons_of_mem c hd)]

/-- What an input is left inside of, its trimmed text is left inside of.  A line comment is the
exception: it may end among the blanks. -/
theorem ending_trim {input : Text} (hstring : ∀ quote escaped, ending input ≠ .quoted quote escaped)
    (hblock : ending input ≠ .blockComment) :
    ending (Text.trim input) = .code ∨ ending (Text.trim input) = .lineComment := by
  obtain ⟨before, after, hinput, hbefore, hafter⟩ := Text.exists_eq_trim input
  have hscan : ending input =
      (scan (ending (Text.trim input)) (scan .code 0 (Text.trim input)).2 after).1 := by
    calc ending input = ending (before ++ (Text.trim input ++ after)) := by
          rw [← List.append_assoc, ← hinput]
      _ = (scan .code 0 (Text.trim input ++ after)).1 := by
          unfold ending
          rw [scan_blanks_append hbefore]
      _ = _ := by
          rw [scan_append_blanks _ _ _ hafter]
          rfl
  cases hmode : ending (Text.trim input) with
  | code => exact Or.inl rfl
  | lineComment => exact Or.inr rfl
  | blockComment =>
      rw [hmode, scan_blockComment_blanks _ hafter] at hscan
      exact absurd hscan hblock
  | quoted quote escaped =>
      have hquote : Text.isBlank quote = false := by
        rcases reachable_ending _ quote escaped hmode with rfl | rfl <;> decide
      obtain ⟨escaped', hquoted⟩ := scan_quoted_blanks hquote escaped _ hafter
      rw [hmode, hquoted] at hscan
      exact absurd hscan (hstring quote escaped')

/-! ### The terminator -/

/-- A terminator leaves the mode as it is, but for a backslash before it in a string. -/
theorem ending_concat_terminator (s : Text) :
    ending (s ++ [Entry.terminator]) = .code ↔ ending s = .code := by
  have hscan : ending (s ++ [Entry.terminator]) =
      (scan (ending s) (scan .code 0 s).2 [Entry.terminator]).1 := by
    exact congrArg Prod.fst (scan_append inert_semicolon .code 0 s [])
  rw [hscan]
  cases hmode : ending s with
  | code => simp [scan, Entry.terminator]
  | lineComment => simp [scan, Entry.terminator]
  | blockComment => simp [scan]
  | quoted quote escaped =>
      have hquote : Entry.terminator ≠ quote := by
        rcases reachable_ending s quote escaped hmode with rfl | rfl <;> decide
      cases escaped with
      | true => simp [scan]
      | false => simp [scan, hquote, show Entry.terminator ≠ '\\' by decide]

theorem ending_terminate (s : Text) : ending (Entry.terminate s) = .code ↔ ending s = .code := by
  rcases Entry.terminate_eq s with h | h
  · rw [h]
  · rw [h, ending_concat_terminator]

theorem terminated_terminate_iff (s : Text) :
    Terminated (Entry.terminate s) ↔ ending s = .code := by
  have hlast := Entry.getLast?_terminate s
  have hsplit := List.dropLast_append_getLast? _ hlast
  rw [← ending_terminate, ← hsplit, ending_concat_terminator, hsplit]
  exact and_iff_right hlast

/-! ### Text that is passed over -/

theorem scan_quoted {s : Text} (h : ∀ c ∈ s, c ≠ '"' ∧ c ≠ '\\') (depth : Int) (t : Text) :
    scan (.quoted '"' false) depth (s ++ '"' :: t) = scan .code depth t := by
  induction s with
  | nil => simp [scan]
  | cons c s ih =>
      obtain ⟨hquote, hescape⟩ := h c List.mem_cons_self
      rw [List.cons_append, scan, if_neg hescape, if_neg hquote,
        ih fun d hd => h d (List.mem_cons_of_mem c hd)]

theorem isPlain_of_isNameChar {c : Char} (h : Recognizer.isNameChar c = true) :
    isPlain c = true := by
  have hne : ∀ d, Recognizer.isNameChar d = false → c ≠ d := by
    rintro d hd rfl
    rw [h] at hd
    cases hd
  have hweight : weight c = 0 := by
    unfold weight
    rw [if_neg, if_neg] <;> rintro (hc | hc | hc) <;> exact hne _ (by decide) hc
  simp [isPlain, hweight, hne '/' (by decide), hne '"' (by decide), hne '\'' (by decide)]

end Delimiters

namespace Program

open Delimiters

/-! ### The escapes -/

/-- The beginning of an escape, up to the string it holds. -/
def call : Text := " untyped js.Syntax.code"

/-- An escape is read over in code: its string is closed in it, and so are its brackets. -/
theorem scan_call {literal arguments : Text} (hliteral : ∀ c ∈ literal, c ≠ '"' ∧ c ≠ '\\')
    (harguments : ∀ c ∈ arguments, isPlain c = true) (depth : Int) (t : Text) :
    scan .code depth (call ++ '(' :: '"' :: literal ++ '"' :: arguments ++ ')' :: ';' :: t) =
      scan .code depth t := by
  have hcall : ∀ c ∈ call, isPlain c = true := List.all_eq_true.mp (by decide)
  have hopen : ∀ rest, scan .code depth ('(' :: '"' :: rest) =
      scan (.quoted '"' false) (depth + 1) rest := by
    intro rest
    simp [scan, weight]
  have hclose : scan .code (depth + 1) (')' :: ';' :: t) = scan .code (depth + 1 + -1) t := by
    simp [scan, weight]
  simp only [List.append_assoc, List.cons_append]
  rw [scan_plain hcall, hopen, scan_quoted hliteral, scan_plain harguments, hclose,
    Int.add_neg_cancel_right]

theorem scan_valueEscape {name : Text} (h : ∀ c ∈ name, Recognizer.isNameChar c = true)
    (depth : Int) (t : Text) : scan .code depth (valueEscape name ++ t) = scan .code depth t := by
  have hliteral : ∀ c ∈ ("\x7b0\x7d" : Text), c ≠ '"' ∧ c ≠ '\\' := by simp
  have hcomma : ∀ c ∈ (", " : Text), isPlain c = true := List.all_eq_true.mp (by decide)
  have harguments : ∀ c ∈ (", " : Text) ++ name, isPlain c = true := by
    intro c hc
    rcases List.mem_append.mp hc with hc | hc
    · exact hcomma c hc
    · exact isPlain_of_isNameChar (h c hc)
  have hopen : (" untyped js.Syntax.code(\"\x7b0\x7d\", " : Text) =
      call ++ '(' :: '"' :: ("\x7b0\x7d" : Text) ++ '"' :: (", " : Text) := by decide
  have hclose : (");" : Text) = [')', ';'] := by decide
  have hescape := scan_call hliteral harguments depth t
  unfold valueEscape
  rw [hopen, hclose]
  simp only [List.append_assoc, List.cons_append, List.nil_append] at hescape ⊢
  exact hescape

theorem scan_silentEscape (depth : Int) : scan .code depth silentEscape = (.code, depth) := by
  have hliteral : ∀ c ∈ ("undefined" : Text), c ≠ '"' ∧ c ≠ '\\' := by simp
  have hescape : silentEscape =
      call ++ '(' :: '"' :: ("undefined" : Text) ++ '"' :: [] ++ ')' :: ';' :: [] := by decide
  rw [hescape, scan_call hliteral (List.forall_mem_nil _)]
  rfl

theorem scan_escapes (input : Text) (depth : Int) :
    scan .code depth (escapes (Entry.read input)) = (.code, depth) := by
  unfold escapes
  cases hname : (Entry.read input).retained with
  | none => rfl
  | some name =>
      simp only
      rw [scan_valueEscape (Entry.isNameChar_of_retained hname)]
      split
      · exact scan_silentEscape depth
      · rfl

/-- The escapes behind a text are code exactly if the text ends in code: they begin with a blank,
so no mark of a comment arises there. -/
theorem isCodeAfter_escapes_iff (s input : Text) :
    IsCodeAfter s (escapes (Entry.read input)) ↔ ending s = .code := by
  refine ⟨fun h => h.1, fun h => ⟨h, ?_⟩⟩
  rcases escapes_eq_nil_or_blank (Entry.read input) with hnil | ⟨rest, hrest⟩
  · rw [hnil, List.append_nil]
  · have hblank : Inert ' ' := inert_of_isBlank (by decide)
    have hscan := scan_append hblank .code 0 s rest
    unfold ending at h
    rw [← hrest, h, scan_escapes] at hscan
    rw [hscan]
    exact Prod.ext h.symm rfl

end Program

namespace Entry

open Delimiters

/-- **Where a source is terminated in code.**  For an input with a part that is left neither inside
a string nor inside a block comment, the terminator of its source is code exactly if its trimmed
text does not end inside a line comment, and so are the escapes behind it, if it retains a name. -/
theorem terminated_iff_not_lineComment {input : Text} {part : Part}
    (hp : (read input).part? = some part)
    (hstring : ∀ quote escaped, ending input ≠ .quoted quote escaped)
    (hblock : ending input ≠ .blockComment) :
    (Terminated (read input).source ↔ ending (Text.trim input) ≠ .lineComment) ∧
      ∀ name, (read input).retained = some name →
        (IsCodeAfter (read input).source (Program.escapes (read input)) ↔
          ending (Text.trim input) ≠ .lineComment) := by
  have hcode : ending (Text.trim input) = .code ↔ ending (Text.trim input) ≠ .lineComment := by
    rcases ending_trim hstring hblock with h | h <;> simp [h]
  rw [(source_read hp).2]
  constructor
  · rw [terminated_terminate_iff, hcode]
  · intro name _
    rw [Program.isCodeAfter_escapes_iff, ending_terminate, hcode]

theorem terminated_iff_not_lineComment_array :
    let input : Text := " var a = [1, // one\n\"//\" ] /* two */ "
    (read input).retained = some "a".toList ∧ Terminated (read input).source ∧
      IsCodeAfter (read input).source (Program.escapes (read input)) := by
  intro input
  have hp : (read input).part? = some .statements := by decide +kernel
  have hcode : ending input = .code := by decide +kernel
  have hcomment : ending (Text.trim input) ≠ .lineComment := by decide +kernel
  have hname : (read input).retained = some "a".toList := by decide +kernel
  obtain ⟨hterminated, hescapes⟩ := terminated_iff_not_lineComment hp
    (by rw [hcode]; simp) (by rw [hcode]; simp)
  exact ⟨hname, hterminated.mpr hcomment, (hescapes _ hname).mpr hcomment⟩

/-- A line comment takes the terminator in, and the escapes behind it as well. -/
theorem terminator_in_lineComment :
    let input : Text := "var x = 1 // one"
    (read input).kind = .binding ∧ (read input).retained = some "x".toList ∧
      ending input = .lineComment ∧ ¬ Terminated (read input).source ∧
      ¬ IsCodeAfter (read input).source (Program.escapes (read input)) := by
  decide +kernel

end Entry

end HaxePrompt

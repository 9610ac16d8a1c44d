import HaxePrompt.Entry.Delimiters
import HaxePrompt.Text.Blank
import Mathlib.Data.List.Induction

/-! # What does not open or close an input

Some characters leave it open whether an input goes on: an inert one at the end
(`isUnclosed_concat`), among them all blanks and the terminator, and blanks at the beginning
(`isUnclosed_blanks_append`).  An inert character cannot be the second one of a comment's mark, so
the scan of a text can be cut in front of one (`scan_append`). -/

namespace HaxePrompt.Delimiters

/-- A character that opens and closes nothing, be it alone or with the character before it. -/
structure Inert (c : Char) : Prop where
  slash : c ≠ '/'
  star : c ≠ '*'
  weight : weight c = 0

theorem inert_semicolon : Inert ';' := ⟨by decide, by decide, by decide⟩

theorem ne_of_isBlank {c d : Char} (h : Text.isBlank c = true) (hd : Text.isBlank d = false) :
    c ≠ d := by
  rintro rfl
  rw [h] at hd
  cases hd

theorem inert_of_isBlank {c : Char} (h : Text.isBlank c = true) : Inert c := by
  refine ⟨ne_of_isBlank h (by decide), ne_of_isBlank h (by decide), ?_⟩
  unfold Delimiters.weight
  rw [if_neg, if_neg]
  · rintro (hc | hc | hc) <;> exact ne_of_isBlank h (by decide) hc
  · rintro (hc | hc | hc) <;> exact ne_of_isBlank h (by decide) hc

/-- Where no mark stands, none arises where a text begins with a character that is not its second
one. -/
theorem no_mark {a b c d : Char} (hc : c ≠ d) {rest : Text} (t : Text)
    (h : ∀ rest', a = b → rest = d :: rest' → False) :
    ∀ rest', a = b → rest ++ c :: t = d :: rest' → False := by
  intro rest' ha hrest
  cases rest with
  | nil => exact hc (List.cons.inj hrest).1
  | cons e rest =>
      obtain ⟨rfl, _⟩ := List.cons.inj hrest
      exact h rest ha rfl

/-- The scan of a text goes on where that of its beginning ends, if an inert character follows. -/
theorem scan_append {c : Char} (h : Inert c) (mode : Mode) (depth : Int) (s t : Text) :
    scan mode depth (s ++ c :: t) = scan (scan mode depth s).1 (scan mode depth s).2 (c :: t) := by
  fun_induction scan mode depth s with
  | case1 mode depth => rfl
  | case2 depth rest ih => exact ih
  | case3 depth rest ih => exact ih
  | case4 depth d rest hline hblock hquote ih =>
      rw [List.cons_append, scan.eq_4 _ _ _ (no_mark h.slash t hline) (no_mark h.star t hblock),
        if_pos hquote, ih]
  | case5 depth d rest hline hblock hquote ih =>
      rw [List.cons_append, scan.eq_4 _ _ _ (no_mark h.slash t hline) (no_mark h.star t hblock),
        if_neg hquote, ih]
  | case6 quote depth d rest ih => rw [List.cons_append, scan, ih]
  | case7 quote depth rest ih => exact ih
  | case8 depth quote rest hescape ih =>
      rw [List.cons_append, scan, if_neg hescape, if_pos rfl, ih]
  | case9 quote depth d rest hescape hquote ih =>
      rw [List.cons_append, scan, if_neg hescape, if_neg hquote, ih]
  | case10 depth rest ih => exact ih
  | case11 depth d rest hline ih => rw [List.cons_append, scan, if_neg hline, ih]
  | case12 depth rest ih => exact ih
  | case13 depth d rest hblock ih =>
      rw [List.cons_append, scan.eq_9 _ _ _ (no_mark h.slash t hblock), ih]

theorem scan_singleton {c : Char} (h : Inert c) (mode : Mode) (depth : Int) :
    (scan mode depth [c]).2 = depth ∧
      ((scan mode depth [c]).1 = .blockComment ↔ mode = .blockComment) := by
  cases mode with
  | code =>
      rw [scan.eq_4 _ _ _ (by simp) (by simp), h.weight, Int.add_zero]
      split <;> simp [scan]
  | quoted quote escaped =>
      cases escaped with
      | true => simp [scan]
      | false =>
          simp only [scan]
          split
          · simp
          · split <;> simp
  | lineComment =>
      simp only [scan]
      split <;> simp
  | blockComment => simp [scan]

theorem isUnclosed_concat {c : Char} (h : Inert c) (s : Text) :
    isUnclosed (s ++ [c]) = isUnclosed s := by
  obtain ⟨hdepth, hmode⟩ := scan_singleton h (scan .code 0 s).1 (scan .code 0 s).2
  unfold isUnclosed
  rw [scan_append h]
  simp only [hdepth, hmode]

theorem isUnclosed_append_blanks (s : Text) {after : Text}
    (h : ∀ c ∈ after, Text.isBlank c = true) : isUnclosed (s ++ after) = isUnclosed s := by
  induction after using List.reverseRecOn with
  | nil => rw [List.append_nil]
  | append_singleton after c ih =>
      rw [← List.append_assoc, isUnclosed_concat (inert_of_isBlank (h c (by simp))),
        ih fun d hd => h d (List.mem_append_left _ hd)]

theorem isUnclosed_of_blanks {s : Text} (h : ∀ c ∈ s, Text.isBlank c = true) :
    isUnclosed s = false := isUnclosed_append_blanks [] h

/-! ### What is passed over -/

/-- A character of code that is passed over alone. -/
def isPlain (c : Char) : Bool := c != '/' && c != '"' && c != '\'' && weight c = 0

theorem scan_plain {s : Text} (h : ∀ c ∈ s, isPlain c = true) (depth : Int) (t : Text) :
    scan .code depth (s ++ t) = scan .code depth t := by
  induction s with
  | nil => rfl
  | cons c s ih =>
      have hc : ((c ≠ '/' ∧ c ≠ '"') ∧ c ≠ '\'') ∧ weight c = 0 := by
        simpa [isPlain] using h c List.mem_cons_self
      obtain ⟨⟨⟨hslash, hdouble⟩, hsingle⟩, hweight⟩ := hc
      rw [List.cons_append, scan.eq_4 _ _ _ (fun _ hc' => absurd hc' hslash)
        (fun _ hc' => absurd hc' hslash), if_neg (not_or.mpr ⟨hdouble, hsingle⟩), hweight,
        Int.add_zero, ih fun d hd => h d (List.mem_cons_of_mem c hd)]

theorem isPlain_of_isBlank {c : Char} (h : Text.isBlank c = true) : isPlain c = true := by
  have hslash : c ≠ '/' := ne_of_isBlank h (by decide)
  have hdouble : c ≠ '"' := ne_of_isBlank h (by decide)
  have hsingle : c ≠ '\'' := ne_of_isBlank h (by decide)
  simp [isPlain, hslash, hdouble, hsingle, (inert_of_isBlank h).weight]

theorem scan_blanks_append {before : Text} (h : ∀ c ∈ before, Text.isBlank c = true)
    (depth : Int) (s : Text) : scan .code depth (before ++ s) = scan .code depth s :=
  scan_plain (fun c hc => isPlain_of_isBlank (h c hc)) depth s

theorem isUnclosed_blanks_append {before : Text} (h : ∀ c ∈ before, Text.isBlank c = true)
    (s : Text) : isUnclosed (before ++ s) = isUnclosed s := by
  unfold isUnclosed
  rw [scan_blanks_append h]

end HaxePrompt.Delimiters

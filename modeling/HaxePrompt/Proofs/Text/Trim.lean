import HaxePrompt.Text.Blank
import Mathlib.Data.List.DropRight

/-! # What trimming leaves

`Text.trim` takes a run of blanks off each end (`exists_eq_trim`) and leaves a text that has none
there (`trimmed_trim`).  These two facts determine it: a text without blanks at its ends, put
between blanks, is what trimming gives back (`trim_of_blanks`).  So blanks put around a text make
no difference (`trim_append_blanks`). -/

namespace HaxePrompt.Text

/-- Neither end of the text is a blank. -/
structure Trimmed (s : Text) : Prop where
  head : ∀ c ∈ s.head?, isBlank c = false
  last : ∀ c ∈ s.getLast?, isBlank c = false

theorem not_isBlank_head_trimStart (s : Text) : ∀ c ∈ (trimStart s).head?, isBlank c = false := by
  intro c hc
  have h := List.head?_dropWhile_not isBlank s
  unfold trimStart at hc
  rw [Option.mem_def] at hc
  rw [hc] at h
  simpa using h

theorem not_isBlank_last_trimEnd (s : Text) : ∀ c ∈ (trimEnd s).getLast?, isBlank c = false := by
  intro c hc
  unfold trimEnd at hc
  rw [List.getLast?_reverse] at hc
  exact not_isBlank_head_trimStart s.reverse c hc

theorem exists_eq_trimEnd (s : Text) :
    ∃ after, s = trimEnd s ++ after ∧ ∀ c ∈ after, isBlank c = true := by
  refine ⟨(s.reverse.takeWhile isBlank).reverse, ?_, ?_⟩
  · unfold trimEnd
    rw [← List.reverse_append, List.takeWhile_append_dropWhile, List.reverse_reverse]
  · intro c hc
    exact List.mem_takeWhile_imp (List.mem_reverse.mp hc)

/-- Trimming takes blanks off both ends and nothing else. -/
theorem exists_eq_trim (s : Text) :
    ∃ before after, s = before ++ trim s ++ after ∧ (∀ c ∈ before, isBlank c = true) ∧
      ∀ c ∈ after, isBlank c = true := by
  obtain ⟨after, hs, hafter⟩ := exists_eq_trimEnd (trimStart s)
  refine ⟨s.takeWhile isBlank, after, ?_, fun c hc => List.mem_takeWhile_imp hc, hafter⟩
  unfold trim
  rw [List.append_assoc, ← hs]
  exact List.takeWhile_append_dropWhile.symm

theorem trimmed_trim (s : Text) : Trimmed (trim s) := by
  refine ⟨?_, not_isBlank_last_trimEnd (trimStart s)⟩
  intro c hc
  obtain ⟨after, hs, _⟩ := exists_eq_trimEnd (trimStart s)
  apply not_isBlank_head_trimStart s c
  rw [hs, List.head?_append, Option.mem_def, Option.or_eq_some_iff]
  exact Or.inl hc

theorem dropWhile_run {α : Type} {p : α → Bool} {before s : List α}
    (hb : ∀ a ∈ before, p a = true) (hs : ∀ a ∈ s.head?, p a = false) :
    (before ++ s).dropWhile p = s := by
  rw [List.dropWhile_append_of_pos hb]
  cases s with
  | nil => rfl
  | cons c s =>
      have hc := hs c rfl
      rw [List.dropWhile_cons_of_neg (by simp [hc])]

/-- Blanks around a text that has none at its ends are what trimming takes off. -/
theorem trim_of_blanks {before s after : Text} (hb : ∀ c ∈ before, isBlank c = true)
    (ha : ∀ c ∈ after, isBlank c = true) (hs : Trimmed s) : trim (before ++ s ++ after) = s := by
  unfold trim trimEnd trimStart
  cases s with
  | nil =>
      have h : ∀ c ∈ before ++ after, isBlank c = true := by
        intro c hc
        exact (List.mem_append.mp hc).elim (hb c) (ha c)
      rw [List.append_nil, List.dropWhile_eq_nil_iff.mpr h]
      rfl
  | cons c s =>
      rw [List.append_assoc, dropWhile_run hb, List.reverse_append, dropWhile_run,
        List.reverse_reverse]
      · intro d hd
        exact ha d (List.mem_reverse.mp hd)
      · intro d hd
        rw [List.head?_reverse] at hd
        exact hs.last d hd
      · exact hs.head

theorem trimEnd_concat {c : Char} (h : isBlank c = true) (s : Text) :
    trimEnd (s ++ [c]) = trimEnd s := by
  unfold trimEnd
  rw [List.reverse_concat, List.dropWhile_cons_of_pos h]

theorem trimEnd_eq_self {s : Text} (h : ∀ c ∈ s.getLast?, isBlank c = false) : trimEnd s = s := by
  have hnil : ∀ c ∈ ([] : Text), isBlank c = true := by simp
  have hhead : ∀ c ∈ s.reverse.head?, isBlank c = false := by
    rw [List.head?_reverse]
    exact h
  have hdrop := dropWhile_run hnil hhead
  rw [List.nil_append] at hdrop
  rw [trimEnd, hdrop, List.reverse_reverse]

theorem prefix_trimEnd {t s : Text} (hlast : ∀ c ∈ t.getLast?, isBlank c = false)
    (h : t <+: s) : t <+: trimEnd s := by
  obtain ⟨after, hs, hafter⟩ := exists_eq_trimEnd s
  rw [hs] at h
  rcases List.prefix_or_prefix_of_prefix h (List.prefix_append (trimEnd s) after) with
    hle | ⟨beyond, rfl⟩
  · exact hle
  · -- what reaches beyond the trimmed text would end with a blank
    rw [List.prefix_append_right_inj] at h
    cases hend : beyond.getLast? with
    | none =>
        refine ⟨[], ?_⟩
        rw [List.getLast?_eq_none_iff.mp hend, List.append_nil, List.append_nil]
    | some c =>
        have hc : isBlank c = true := hafter c (h.subset (List.mem_of_getLast? hend))
        rw [hlast c (by rw [List.getLast?_append, hend]; rfl)] at hc
        cases hc

theorem trim_eq_nil_iff {s : Text} : trim s = [] ↔ ∀ c ∈ s, isBlank c = true := by
  constructor
  · intro h c hc
    obtain ⟨before, after, hs, hbefore, hafter⟩ := exists_eq_trim s
    rw [hs, h, List.append_nil] at hc
    exact (List.mem_append.mp hc).elim (hbefore c) (hafter c)
  · intro h
    unfold trim trimStart
    rw [List.dropWhile_eq_nil_iff.mpr h]
    rfl

theorem trim_eq_self {s : Text} (h : Trimmed s) : trim s = s := by
  have hnil : ∀ c ∈ ([] : Text), isBlank c = true := by simp
  simpa using trim_of_blanks hnil hnil h

theorem trim_append_blanks {before after : Text} (hb : ∀ c ∈ before, isBlank c = true)
    (ha : ∀ c ∈ after, isBlank c = true) (s : Text) : trim (before ++ s ++ after) = trim s := by
  obtain ⟨front, back, hs, hfront, hback⟩ := exists_eq_trim s
  have hbefore : ∀ c ∈ before ++ front, isBlank c = true :=
    List.forall_mem_append.mpr ⟨hb, hfront⟩
  have hafter : ∀ c ∈ back ++ after, isBlank c = true := List.forall_mem_append.mpr ⟨hback, ha⟩
  have hwhole : before ++ s ++ after = before ++ front ++ trim s ++ (back ++ after) := by
    conv_lhs => rw [hs]
    simp only [List.append_assoc]
  rw [hwhole, trim_of_blanks hbefore hafter (trimmed_trim s)]

end HaxePrompt.Text

import HaxePrompt.Text.Basic
import Mathlib.Data.List.Infix

/-! # Splitting undoes joining

`Text.split` finds the occurrences of a separator from left to right.  If the separator is
`Unbordered`, so that two occurrences never overlap, and no piece holds it, then no occurrence
arises where a piece and a separator meet, and splitting gives the joined pieces back
(`split_join`).  The line feed is such a separator: for lines without line feeds,
`split_newline_unlines` reads back what `Text.unlines` writes. -/

namespace HaxePrompt.Text

variable {α : Type}

/-! ### Occurrences -/

/-- Nothing but the separator itself both begins and ends it. -/
def Unbordered (sep : List α) : Prop := ∀ t, t ≠ [] → t <+: sep → t <:+ sep → t = sep

theorem unbordered_concat {front : List α} {mark : α} (h : mark ∉ front) :
    Unbordered (front ++ [mark]) := by
  intro t hne hstart hsuffix
  rcases List.prefix_concat_iff.mp hstart with ht | ht
  · exact ht
  · obtain ⟨init, last, rfl⟩ := (List.eq_nil_or_concat t).resolve_left hne
    obtain ⟨before, hs⟩ := hsuffix
    rw [List.concat_eq_append] at hs ht
    rw [← List.append_assoc] at hs
    obtain ⟨_, hlast⟩ := List.append_inj' hs rfl
    cases hlast
    exact absurd (ht.subset (by simp)) h

theorem unbordered_cons {mark : α} {rest : List α} (h : mark ∉ rest) :
    Unbordered (mark :: rest) := by
  intro t hne hstart hsuffix
  rcases List.suffix_cons_iff.mp hsuffix with ht | ht
  · exact ht
  · obtain ⟨c, t, rfl⟩ := List.exists_cons_of_ne_nil hne
    obtain ⟨rfl, _⟩ := List.cons_prefix_cons.mp hstart
    exact absurd (ht.subset List.mem_cons_self) h

/-- An occurrence of a list without `c` lies on one side of any `c`. -/
theorem infix_append_cons_iff {sep s t : List α} {c : α} (hc : c ∉ sep) :
    sep <:+: s ++ c :: t ↔ sep <:+: s ∨ sep <:+: t := by
  constructor
  · rintro ⟨u, v, h⟩
    rcases List.append_eq_append_iff.mp h with ⟨w, hs, _⟩ | ⟨w, hus, hct⟩
    · exact Or.inl ⟨u, w, hs.symm⟩
    · cases w with
      | nil => exact Or.inl ⟨u, [], by simpa using hus⟩
      | cons d w =>
          obtain ⟨rfl, rfl⟩ := List.cons.inj hct
          rcases List.append_eq_append_iff.mp hus with ⟨x, _, hsep⟩ | ⟨x, hu, hx⟩
          · exact absurd (by rw [hsep]; simp) hc
          · cases x with
            | nil => exact absurd (by rw [← List.nil_append sep, ← hx]; simp) hc
            | cons e x =>
                obtain ⟨_, rfl⟩ := List.cons.inj hx
                exact Or.inr ⟨x, v, rfl⟩
  · rintro (h | h)
    · exact h.trans (List.prefix_append s _).isInfix
    · exact h.trans ((List.suffix_cons c t).trans (List.suffix_append s _)).isInfix

theorem exists_first {sep s : List α} (hsep : sep ≠ []) (h : sep <:+: s) :
    ∃ before after, s = before ++ sep ++ after ∧ ¬ sep <:+: before := by
  induction s with
  | nil => exact absurd (List.infix_nil.mp h) hsep
  | cons c s ih =>
      by_cases hstart : sep <+: c :: s
      · obtain ⟨after, hs⟩ := hstart
        exact ⟨[], after, hs.symm, fun hnil => hsep (List.infix_nil.mp hnil)⟩
      · have hs : sep <:+: s := (List.infix_cons_iff.mp h).resolve_left hstart
        obtain ⟨before, after, rfl, hbefore⟩ := ih hs
        refine ⟨c :: before, after, rfl, ?_⟩
        rw [List.infix_cons_iff, not_or]
        refine ⟨?_, hbefore⟩
        intro hprefix
        apply hstart
        rw [List.append_assoc]
        exact hprefix.trans (List.prefix_append (c :: before) _)

/-- Induction from one occurrence of a separator to the next. -/
theorem induction_on_first {sep : List α} (hsep : sep ≠ []) {P : List α → Prop}
    (hnone : ∀ s, ¬ sep <:+: s → P s)
    (hfirst : ∀ before after, ¬ sep <:+: before → P after → P (before ++ sep ++ after))
    (s : List α) : P s := by
  induction hlen : s.length using Nat.strong_induction_on generalizing s with
  | h n ih =>
      by_cases h : sep <:+: s
      · obtain ⟨before, after, rfl, hbefore⟩ := exists_first hsep h
        have hpos : 0 < sep.length := List.length_pos_iff.mpr hsep
        simp only [List.length_append] at hlen
        exact hfirst before after hbefore (ih after.length (by omega) after rfl)
      · exact hnone s h

theorem not_infix_of_not_prefix {sep read s : List α} (hsep : sep ≠ [])
    (h : ∀ u, u ≠ [] → u <:+ read → ¬ sep <+: u ++ s) : ¬ sep <:+: read := by
  rw [List.infix_iff_prefix_suffix]
  rintro ⟨u, hstart, hu⟩
  have hne : u ≠ [] := by
    rintro rfl
    exact hsep (List.prefix_nil.mp hstart)
  exact h u hne hu (hstart.trans (List.prefix_append u s))

/-! ### Pieces -/

theorem join_singleton (sep p : List α) : join sep [p] = p := by
  simp [join]

theorem join_cons_of_ne_nil (sep p : List α) {rest : List (List α)} (h : rest ≠ []) :
    join sep (p :: rest) = p ++ sep ++ join sep rest := by
  obtain ⟨q, rest, rfl⟩ := List.exists_cons_of_ne_nil h
  exact join_cons_cons sep p q rest

theorem join_concat (sep : List α) (pieces : List (List α)) (last : List α) :
    join sep (pieces ++ [last]) = pieces.flatMap (· ++ sep) ++ last := by
  induction pieces with
  | nil => exact join_singleton sep last
  | cons p rest ih =>
      rw [List.cons_append, join_cons_of_ne_nil sep p (by simp), ih, List.flatMap_cons]
      simp only [List.append_assoc]

theorem flatMap_eq_join (sep : List α) {pieces : List (List α)} (h : pieces ≠ []) :
    pieces.flatMap (· ++ sep) = join sep pieces ++ sep := by
  induction pieces with
  | nil => exact absurd rfl h
  | cons p rest ih =>
      cases rest with
      | nil => simp [join_singleton]
      | cons q rest =>
          rw [join_cons_cons, List.append_assoc, ← ih (List.cons_ne_nil q rest)]
          simp

theorem join_append (sep : List α) {pieces more : List (List α)} (h : pieces ≠ [])
    (hmore : more ≠ []) : join sep (pieces ++ more) = join sep pieces ++ sep ++ join sep more := by
  induction pieces with
  | nil => exact absurd rfl h
  | cons p rest ih =>
      cases rest with
      | nil => rw [List.singleton_append, join_cons_of_ne_nil sep p hmore, join_singleton]
      | cons q rest =>
          rw [List.cons_append, join_cons_of_ne_nil sep p (by simp), ih (List.cons_ne_nil q rest),
            join_cons_cons]
          simp only [List.append_assoc]

theorem join_concat_of_ne_nil (sep : List α) {pieces : List (List α)} (h : pieces ≠ [])
    (last : List α) : join sep (pieces ++ [last]) = join sep pieces ++ sep ++ last := by
  rw [join_append sep h (List.cons_ne_nil last []), join_singleton]

theorem mem_join {a : α} {sep : List α} {pieces : List (List α)} (h : a ∈ join sep pieces) :
    a ∈ sep ∨ ∃ p ∈ pieces, a ∈ p := by
  induction pieces with
  | nil => cases h
  | cons p rest ih =>
      cases rest with
      | nil =>
          rw [join_singleton] at h
          exact Or.inr ⟨p, List.mem_cons_self, h⟩
      | cons q rest =>
          rw [join_cons_cons, List.mem_append, List.mem_append] at h
          rcases h with (h | h) | h
          · exact Or.inr ⟨p, List.mem_cons_self, h⟩
          · exact Or.inl h
          · rcases ih h with h | ⟨r, hr, h⟩
            · exact Or.inl h
            · exact Or.inr ⟨r, List.mem_cons_of_mem p hr, h⟩

theorem infix_join_of_mem {sep p : List α} {pieces : List (List α)} (h : p ∈ pieces) :
    p <:+: join sep pieces := by
  induction pieces with
  | nil => cases h
  | cons q rest ih =>
      cases rest with
      | nil =>
          rw [List.mem_singleton.mp h, join_singleton]
      | cons r rest =>
          rw [join_cons_cons]
          rcases List.mem_cons.mp h with rfl | h
          · exact ⟨[], sep ++ join sep (r :: rest), by simp⟩
          · exact (ih h).trans (List.suffix_append _ _).isInfix

variable [DecidableEq α]

theorem infix_of_mem_split {sep : List α} (hsep : sep ≠ []) {s p : List α}
    (h : p ∈ split sep s) : p <:+: s := by
  have hp : p <:+: join sep (split sep s) := infix_join_of_mem h
  rwa [join_split hsep] at hp

theorem splitFrom_skip (sep : List α) (skip : Nat) (piece s : List α) :
    splitFrom sep skip piece s = splitFrom sep 0 piece (s.drop skip) := by
  induction s generalizing skip with
  | nil => cases skip <;> rfl
  | cons a rest ih =>
      cases skip with
      | zero => rfl
      | succ skip =>
          rw [splitFrom, ih skip]
          rfl

theorem splitFrom_of_not_infix {sep f : List α} (hf : ¬ sep <:+: f) (piece : List α) :
    splitFrom sep 0 piece f = [piece.reverse ++ f] := by
  induction f generalizing piece with
  | nil => simp [splitFrom]
  | cons a f ih =>
      have hstart : sep.isPrefixOf (a :: f) = false := by
        rw [Bool.eq_false_iff, ne_eq, List.isPrefixOf_iff_prefix]
        exact fun h => hf h.isInfix
      have hrest : ¬ sep <:+: f := fun h => hf (List.infix_cons h)
      rw [splitFrom, if_neg (by simp [hstart]), ih hrest]
      simp

/-- The piece in front of the first separator ends where the separator was written. -/
theorem splitFrom_append {sep f : List α} (hsep : sep ≠ []) (hu : Unbordered sep)
    (hf : ¬ sep <:+: f) (piece rest : List α) :
    splitFrom sep 0 piece (f ++ sep ++ rest) = (piece.reverse ++ f) :: split sep rest := by
  induction f generalizing piece with
  | nil =>
      obtain ⟨a, tail, rfl⟩ := List.exists_cons_of_ne_nil hsep
      have hstart : (a :: tail).isPrefixOf (a :: (tail ++ rest)) = true := by
        rw [List.isPrefixOf_iff_prefix]
        exact ⟨rest, rfl⟩
      rw [List.nil_append, List.cons_append, splitFrom, if_pos hstart, splitFrom_skip]
      simp [split]
  | cons a f ih =>
      have hstart : ¬ sep <+: a :: f ++ (sep ++ rest) := by
        intro h
        rcases List.prefix_or_prefix_of_prefix h (List.prefix_append (a :: f) (sep ++ rest)) with
          hshort | ⟨t, ht⟩
        · exact hf hshort.isInfix
        · -- an occurrence that reaches into the separator leaves a border of it
          rw [← ht, List.prefix_append_right_inj, ht] at h
          have hlen : (a :: f).length + t.length = sep.length := by
            rw [← ht, List.length_append]
          have hborder : t <+: sep :=
            List.prefix_of_prefix_length_le h (List.prefix_append sep rest) (by omega)
          by_cases hnil : t = []
          · rw [hnil, List.append_nil] at ht
            exact hf (by rw [ht])
          · rw [hu t hnil hborder ⟨a :: f, ht⟩, List.length_cons] at hlen
            omega
      have hrest : ¬ sep <:+: f := fun h => hf (List.infix_cons h)
      rw [List.append_assoc, List.cons_append, splitFrom, if_neg, ← List.append_assoc, ih hrest]
      · simp
      · rw [List.isPrefixOf_iff_prefix]
        exact hstart

/-- **Splitting undoes joining.**  No occurrence of an unbordered separator arises where pieces
without it are joined. -/
theorem split_join {sep : List α} (hsep : sep ≠ []) (hu : Unbordered sep)
    {pieces : List (List α)} (hne : pieces ≠ []) (hp : ∀ p ∈ pieces, ¬ sep <:+: p) :
    split sep (join sep pieces) = pieces := by
  induction pieces with
  | nil => exact absurd rfl hne
  | cons p rest ih =>
      have hpiece : ¬ sep <:+: p := hp p List.mem_cons_self
      cases rest with
      | nil =>
          rw [join_singleton]
          exact splitFrom_of_not_infix hpiece []
      | cons q rest =>
          have hrest := ih (List.cons_ne_nil q rest) fun r hr => hp r (List.mem_cons_of_mem p hr)
          rw [join_cons_cons, split, splitFrom_append hsep hu hpiece, hrest]
          rfl

/-- The separator stands in none of the pieces: while one grows, no occurrence begins in the part
that has been read. -/
theorem not_infix_of_mem_splitFrom {sep piece s p : List α} {skip : Nat} (hsep : sep ≠ [])
    (hpiece : ∀ u, u ≠ [] → u <:+ piece.reverse → ¬ sep <+: u ++ s.drop skip)
    (h : p ∈ splitFrom sep skip piece s) : ¬ sep <:+: p := by
  fun_induction splitFrom sep skip piece s with
  | case1 skip piece =>
      rw [List.mem_singleton.mp h]
      exact not_infix_of_not_prefix hsep hpiece
  | case2 skip piece a rest ih => exact ih hpiece h
  | case3 piece a rest hstart ih =>
      rcases List.mem_cons.mp h with rfl | h
      · exact not_infix_of_not_prefix hsep hpiece
      · apply ih _ h
        intro u hne hu
        exact absurd (List.suffix_nil.mp hu) hne
  | case4 piece a rest hstart ih =>
      apply ih _ h
      intro u hne hu
      rw [List.reverse_cons] at hu
      rcases List.suffix_concat_iff.mp hu with rfl | ⟨v, rfl, hv⟩
      · exact absurd rfl hne
      · rw [List.append_assoc]
        by_cases hnil : v = []
        · -- the occurrence would begin with the element that was not found to begin one
          rw [hnil]
          rw [List.isPrefixOf_iff_prefix] at hstart
          exact hstart
        · exact hpiece v hnil hv

theorem not_infix_of_mem_split {sep s p : List α} (hsep : sep ≠ []) (h : p ∈ split sep s) :
    ¬ sep <:+: p :=
  not_infix_of_mem_splitFrom hsep (fun _ hne hu => absurd (List.suffix_nil.mp hu) hne) h

/-- A list is cut where an unbordered separator was written, whatever stands around it. -/
theorem split_append {sep : List α} (hsep : sep ≠ []) (hu : Unbordered sep) (s t : List α) :
    split sep (s ++ sep ++ t) = split sep s ++ split sep t := by
  have hjoin : join sep (split sep s ++ split sep t) = s ++ sep ++ t := by
    rw [join_append sep (split_ne_nil sep s) (split_ne_nil sep t), join_split hsep,
      join_split hsep]
  rw [← hjoin]
  apply split_join hsep hu (by simp [split_ne_nil])
  intro p hp
  rcases List.mem_append.mp hp with hp | hp
  · exact not_infix_of_mem_split hsep hp
  · exact not_infix_of_mem_split hsep hp

/-- An occurrence is the first one, or it stands behind the first one. -/
theorem eq_or_exists_of_append_eq {sep p v b a : List α} (hsep : sep ≠ []) (hu : Unbordered sep)
    (hp : ¬ sep <:+: p) (h : p ++ sep ++ v = b ++ sep ++ a) :
    b = p ∧ a = v ∨ ∃ c, b = p ++ sep ++ c ∧ v = c ++ sep ++ a := by
  have hsplit : p :: split sep v = split sep b ++ split sep a := by
    rw [← split_append hsep hu b a, ← h, split_append hsep hu p v, split, split,
      splitFrom_of_not_infix hp]
    rfl
  have hb := join_split hsep b
  have hv := join_split hsep v
  obtain ⟨q, rest, hq⟩ := List.exists_cons_of_ne_nil (split_ne_nil sep b)
  rw [hq, List.cons_append, List.cons.injEq] at hsplit
  obtain ⟨rfl, hrest⟩ := hsplit
  rw [hq] at hb
  rw [hrest] at hv
  cases rest with
  | nil =>
      rw [List.nil_append, join_split hsep] at hv
      rw [join_singleton] at hb
      exact Or.inl ⟨hb.symm, hv⟩
  | cons r rest =>
      have hne : r :: rest ≠ [] := List.cons_ne_nil r rest
      rw [join_cons_of_ne_nil sep p hne] at hb
      rw [join_append sep hne (split_ne_nil sep a), join_split hsep] at hv
      exact Or.inr ⟨join sep (r :: rest), hb.symm, hv.symm⟩

theorem length_le_of_append_eq {sep p v b a : List α} (hsep : sep ≠ []) (hu : Unbordered sep)
    (hp : ¬ sep <:+: p) (h : p ++ sep ++ v = b ++ sep ++ a) : p.length ≤ b.length := by
  rcases eq_or_exists_of_append_eq hsep hu hp h with ⟨rfl, _⟩ | ⟨c, rfl, _⟩
  · exact Nat.le_refl _
  · rw [List.append_assoc, List.length_append]
    exact Nat.le_add_right _ _

theorem cut_append {sep f : List α} (hsep : sep ≠ []) (hu : Unbordered sep)
    (hf : ¬ sep <:+: f) (rest : List α) : cut sep (f ++ sep ++ rest) = some (f, rest) := by
  have hjoin := join_split hsep rest
  obtain ⟨p, ps, hps⟩ := List.exists_cons_of_ne_nil (split_ne_nil sep rest)
  rw [hps] at hjoin
  rw [cut, split, splitFrom_append hsep hu hf, hps]
  simp only [hjoin]
  rfl

theorem cut_eq_none {sep f : List α} (hf : ¬ sep <:+: f) : cut sep f = none := by
  rw [cut, split, splitFrom_of_not_infix hf]

theorem cut_eq_none_iff {sep s : List α} (hsep : sep ≠ []) (hu : Unbordered sep) :
    cut sep s = none ↔ ¬ sep <:+: s := by
  constructor
  · intro h hinfix
    obtain ⟨f, rest, rfl, hf⟩ := exists_first hsep hinfix
    rw [cut_append hsep hu hf] at h
    cases h
  · exact cut_eq_none

theorem cut_eq_some_iff {sep s f rest : List α} (hsep : sep ≠ []) (hu : Unbordered sep) :
    cut sep s = some (f, rest) ↔ s = f ++ sep ++ rest ∧ ¬ sep <:+: f := by
  constructor
  · intro h
    have hinfix : sep <:+: s := by
      by_contra hnone
      rw [cut_eq_none hnone] at h
      cases h
    obtain ⟨g, t, rfl, hg⟩ := exists_first hsep hinfix
    rw [cut_append hsep hu hg] at h
    cases h
    exact ⟨rfl, hg⟩
  · rintro ⟨rfl, hf⟩
    exact cut_append hsep hu hf rest

/-! ### Lines -/

theorem unbordered_newline : Unbordered newline := unbordered_concat (List.not_mem_nil)

theorem unlines_append (ls ls' : List Text) : unlines (ls ++ ls') = unlines ls ++ unlines ls' := by
  unfold unlines
  rw [List.flatMap_append]

theorem unlines_eq_join {ls : List Text} (h : ls ≠ []) :
    unlines ls = join newline ls ++ newline := flatMap_eq_join newline h

theorem unlines_split (s : Text) : unlines (split newline s) = s ++ newline := by
  rw [unlines_eq_join (split_ne_nil newline s), join_split (by decide)]

theorem newline_not_mem_of_mem_split {s l : Text} (h : l ∈ split newline s) : '\n' ∉ l := by
  have hl : ¬ newline <:+: l := not_infix_of_mem_split (by decide) h
  rwa [newline, List.singleton_infix_iff] at hl

theorem split_newline_join {ls : List Text} (hne : ls ≠ []) (h : ∀ l ∈ ls, '\n' ∉ l) :
    split newline (join newline ls) = ls := by
  apply split_join (by decide) unbordered_newline hne
  intro l hl
  unfold newline
  rw [List.singleton_infix_iff]
  exact h l hl

theorem split_newline_unlines {ls : List Text} (h : ∀ l ∈ ls, '\n' ∉ l) :
    split newline (unlines ls) = ls ++ [[]] := by
  have hjoin : unlines ls = join newline (ls ++ [[]]) := by
    rw [join_concat, List.append_nil]
    rfl
  rw [hjoin]
  apply split_newline_join (by simp)
  intro l hl
  rcases List.mem_append.mp hl with hl | hl
  · exact h l hl
  · rw [List.mem_singleton.mp hl]
    exact List.not_mem_nil

theorem unlines_flatMap_split (texts : List Text) :
    unlines (texts.flatMap (split newline)) = unlines texts := by
  induction texts with
  | nil => rfl
  | cons text rest ih =>
      rw [List.flatMap_cons, unlines_append, unlines_split, ih]
      rfl

theorem dropReturn_of_not_mem {l : Text} (h : '\r' ∉ l) : dropReturn l = l := by
  unfold dropReturn
  rw [if_neg fun hlast => h (List.mem_of_getLast? hlast)]

theorem mem_of_mem_linesOfPieces {pieces : List Text} (hr : ∀ p ∈ pieces, '\r' ∉ p) {l : Text}
    (h : l ∈ linesOfPieces pieces) : l ∈ pieces := by
  induction pieces with
  | nil => cases h
  | cons p rest ih =>
      cases rest with
      | nil =>
          rw [linesOfPieces] at h
          split at h
          · cases h
          · exact h
      | cons q rest =>
          rw [linesOfPieces, dropReturn_of_not_mem (hr p List.mem_cons_self)] at h
          rcases List.mem_cons.mp h with rfl | h
          · exact List.mem_cons_self
          · exact List.mem_cons_of_mem p (ih (fun r hm => hr r (List.mem_cons_of_mem p hm)) h)

theorem not_mem_of_mem_lines {s l : Text} (hr : '\r' ∉ s) (h : l ∈ lines s) :
    '\n' ∉ l ∧ '\r' ∉ l := by
  have hpieces : ∀ p ∈ split newline s, '\r' ∉ p := fun p hp hmem =>
    hr ((infix_of_mem_split (by decide) hp).subset hmem)
  have hl := mem_of_mem_linesOfPieces hpieces h
  exact ⟨newline_not_mem_of_mem_split hl, hpieces l hl⟩

/-- Without carriage returns nothing is taken off the lines, and only an empty last piece is
none. -/
theorem linesOfPieces_concat {ls : List Text} (hr : ∀ l ∈ ls, '\r' ∉ l) (last : Text) :
    linesOfPieces (ls ++ [last]) = ls ++ if last = [] then [] else [last] := by
  induction ls with
  | nil => rfl
  | cons l rest ih =>
      have hne : rest ++ [last] ≠ [] := by simp
      obtain ⟨m, more, hmore⟩ := List.exists_cons_of_ne_nil hne
      rw [List.cons_append, hmore, linesOfPieces, ← hmore,
        dropReturn_of_not_mem (hr l List.mem_cons_self),
        ih fun k hk => hr k (List.mem_cons_of_mem l hk)]
      rfl

/-- Lines without line feeds and carriage returns are read back as they were written. -/
theorem lines_unlines {ls : List Text} (hn : ∀ l ∈ ls, '\n' ∉ l) (hr : ∀ l ∈ ls, '\r' ∉ l) :
    lines (unlines ls) = ls := by
  rw [lines, split_newline_unlines hn, linesOfPieces_concat hr, if_pos rfl, List.append_nil]

/-- Joined lines are read back as well, but for an empty last one. -/
theorem lines_join_concat {ls : List Text} {last : Text}
    (h : ∀ l ∈ ls ++ [last], '\n' ∉ l ∧ '\r' ∉ l) :
    lines (join newline (ls ++ [last])) = ls ++ if last = [] then [] else [last] := by
  have hr : ∀ l ∈ ls, '\r' ∉ l := fun l hl => (h l (List.mem_append_left _ hl)).2
  rw [lines, split_newline_join (by simp) fun l hl => (h l hl).1, linesOfPieces_concat hr]

end HaxePrompt.Text

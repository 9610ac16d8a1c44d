import HaxePrompt.Entry.Script
import HaxePrompt.Proofs.Entry.Delimiters
import HaxePrompt.Proofs.Entry.Reading
import HaxePrompt.Proofs.Text.Split

/-! # Blocks of a script

A text is a block when a script that holds it, one line after the other, gives it back in one
piece: its first line is not passed over, at each of its line feeds something is open, and at its
end nothing is (`IsBlock`).

The inputs of a script are blocks, if nothing is open at the end of the last one
(`isBlock_of_mem_blocks`).  Reading an entry turns a block into a block (`isBlock_source`).
Blocks written one after the other are the inputs of the script (`blocks_unlines`). -/

namespace HaxePrompt.Script

/-! ### The first line -/

/-- The first line of a text. -/
def firstLine (s : Text) : Text := s.takeWhile (· ≠ '\n')

theorem firstLine_of_not_mem {s : Text} (h : '\n' ∉ s) : firstLine s = s := by
  unfold firstLine
  rw [List.takeWhile_eq_self_iff]
  intro c hc
  rw [decide_eq_true_iff]
  rintro rfl
  exact h hc

theorem firstLine_append {s : Text} (h : '\n' ∉ s) (t : Text) :
    firstLine (s ++ t) = s ++ firstLine t := by
  unfold firstLine
  apply List.takeWhile_append_of_pos
  intro c hc
  rw [decide_eq_true_iff]
  rintro rfl
  exact h hc

theorem firstLine_append_newline (s t : Text) : firstLine (s ++ '\n' :: t) = firstLine s := by
  induction s with
  | nil => rfl
  | cons c s ih =>
      unfold firstLine at ih ⊢
      rw [List.cons_append, List.takeWhile_cons, List.takeWhile_cons, ih]

/-! ### Lines that are passed over -/

theorem isPassedOver_of_blanks {l : Text} (h : ∀ c ∈ l, Text.isBlank c = true) :
    isPassedOver l = true := by
  unfold isPassedOver
  rw [Text.trim_eq_nil_iff.mpr h]
  rfl

/-- The mark of a comment that takes up the rest of the line. -/
def slashes : Text := "//"

theorem isPassedOver_of_slashes {before s : Text} (hb : ∀ c ∈ before, Text.isBlank c = true)
    (hs : slashes <+: s) : isPassedOver (before ++ s) = true := by
  have hhead : ∀ c ∈ s.head?, Text.isBlank c = false := by
    obtain ⟨t, rfl⟩ := hs
    intro c hc
    cases hc
    decide
  have htrim : slashes <+: Text.trim (before ++ s) := by
    unfold Text.trim Text.trimStart
    rw [Text.dropWhile_run hb hhead]
    apply Text.prefix_trimEnd _ hs
    intro c hc
    cases hc
    decide
  unfold isPassedOver
  rw [Bool.or_eq_true, List.isPrefixOf_iff_prefix]
  exact Or.inr htrim

theorem isPassedOver_of_head {s : Text} {c : Char} (hc : s.head? = some c)
    (hblank : Text.isBlank c = false) (hs : ¬ slashes <+: s) : isPassedOver s = false := by
  have hhead : ∀ d ∈ s.head?, Text.isBlank d = false := by
    intro d hd
    rw [hc] at hd
    cases hd
    exact hblank
  have hstart : Text.trimStart s = s := by
    have hnone : ∀ d ∈ ([] : Text), Text.isBlank d = true := by simp
    exact Text.dropWhile_run hnone hhead
  obtain ⟨after, hend, hafter⟩ := Text.exists_eq_trimEnd s
  unfold isPassedOver Text.trim
  rw [hstart, Bool.or_eq_false_iff, List.isEmpty_eq_false_iff, Bool.eq_false_iff, ne_eq, ne_eq,
    List.isPrefixOf_iff_prefix]
  constructor
  · intro hnil
    rw [hnil, List.nil_append] at hend
    have hmem : c ∈ after := by
      rw [← hend]
      exact List.mem_of_head? hc
    rw [hafter c hmem] at hblank
    cases hblank
  · intro hprefixed
    exact hs (hprefixed.trans ⟨after, hend.symm⟩)

/-! ### Blocks -/

/-- A text with which a script goes on: it begins with a line that is not passed over, and
something is open at each of its line feeds. -/
structure IsBegun (text : Text) : Prop where
  /-- There is no carriage return, which would be lost at the end of a line. -/
  noReturn : '\r' ∉ text
  starts : isPassedOver (firstLine text) = false
  goesOn : ∀ before after, text = before ++ '\n' :: after → Delimiters.isUnclosed before = true

/-- A text that a script gives back in one piece. -/
structure IsBlock (text : Text) : Prop extends IsBegun text where
  closed : Delimiters.isUnclosed text = false

theorem isBegun_line {l : Text} (hn : '\n' ∉ l) (hr : '\r' ∉ l) (hl : isPassedOver l = false) :
    IsBegun l := by
  refine ⟨hr, ?_, ?_⟩
  · rw [firstLine_of_not_mem hn]
    exact hl
  · rintro before after rfl
    exact absurd (by simp) hn

theorem IsBegun.extend {text l : Text} (h : IsBegun text)
    (hopen : Delimiters.isUnclosed text = true) (hn : '\n' ∉ l) (hr : '\r' ∉ l) :
    IsBegun (text ++ Text.newline ++ l) := by
  rw [List.append_assoc]
  refine ⟨?_, ?_, ?_⟩
  · simp only [List.mem_append, not_or]
    exact ⟨h.noReturn, by decide, hr⟩
  · exact (congrArg isPassedOver (firstLine_append_newline text l)).trans h.starts
  · intro before after heq
    rcases List.append_eq_append_iff.mp heq with ⟨between, hbefore, hrest⟩ | ⟨between, htext, hrest⟩
    · cases between with
      | nil =>
          rw [List.append_nil] at hbefore
          rw [hbefore]
          exact hopen
      | cons c between =>
          -- a line feed beyond the new one would stand in the line
          obtain ⟨_, hl⟩ := List.cons.inj hrest
          have hl' : l = between ++ '\n' :: after := hl
          exact absurd (by rw [hl']; simp) hn
    · cases between with
      | nil =>
          rw [List.append_nil] at htext
          rw [← htext]
          exact hopen
      | cons c between =>
          obtain ⟨rfl, _⟩ := List.cons.inj hrest
          exact h.goesOn before between htext

/-! ### The inputs of a script are blocks -/

/-- Lines are joined to blocks: if nothing is open at the end of the last one, then at the end of
none. -/
theorem isBlock_of_mem_blocksFrom (pending : Option Block) (number : Nat) (ls : List Text)
    (hpending : ∀ p ∈ pending, IsBegun p.text ∧ Delimiters.isUnclosed p.text = true)
    (hls : ∀ l ∈ ls, '\n' ∉ l ∧ '\r' ∉ l)
    (hlast : ∀ block ∈ (blocksFrom pending number ls).getLast?,
      Delimiters.isUnclosed block.text = false) :
    ∀ block ∈ blocksFrom pending number ls, IsBlock block.text := by
  fun_induction blocksFrom pending number ls with
  | case1 number =>
      intro block hblock
      cases hblock
  | case2 pending number =>
      intro block hblock
      rw [List.mem_singleton.mp hblock]
      exact ⟨(hpending pending rfl).1, hlast pending rfl⟩
  | case3 number l rest hpassed ih =>
      exact ih (by simp) (fun m hm => hls m (List.mem_cons_of_mem l hm)) hlast
  | case4 number l rest hpassed hopen ih =>
      obtain ⟨hn, hr⟩ := hls l List.mem_cons_self
      apply ih _ (fun m hm => hls m (List.mem_cons_of_mem l hm)) hlast
      rintro p ⟨⟩
      exact ⟨isBegun_line hn hr (Bool.eq_false_iff.mpr hpassed), hopen⟩
  | case5 number l rest hpassed hopen ih =>
      obtain ⟨hn, hr⟩ := hls l List.mem_cons_self
      intro block hblock
      rcases List.mem_cons.mp hblock with rfl | hblock
      · exact ⟨isBegun_line hn hr (Bool.eq_false_iff.mpr hpassed), Bool.eq_false_iff.mpr hopen⟩
      · apply ih (by simp) (fun m hm => hls m (List.mem_cons_of_mem l hm)) _ block hblock
        exact fun last hmem => hlast last (List.mem_getLast?_cons hmem)
  | case6 pending number l rest hopen ih =>
      obtain ⟨hn, hr⟩ := hls l List.mem_cons_self
      apply ih _ (fun m hm => hls m (List.mem_cons_of_mem l hm)) hlast
      rintro p ⟨⟩
      obtain ⟨hbegun, hstill⟩ := hpending pending rfl
      exact ⟨hbegun.extend hstill hn hr, hopen⟩
  | case7 pending number l rest hopen ih =>
      obtain ⟨hn, hr⟩ := hls l List.mem_cons_self
      obtain ⟨hbegun, hstill⟩ := hpending pending rfl
      intro block hblock
      rcases List.mem_cons.mp hblock with rfl | hblock
      · exact ⟨hbegun.extend hstill hn hr, Bool.eq_false_iff.mpr hopen⟩
      · apply ih (by simp) (fun m hm => hls m (List.mem_cons_of_mem l hm)) _ block hblock
        exact fun last hmem => hlast last (List.mem_getLast?_cons hmem)

theorem isBlock_of_mem_blocks {script : Text} (hr : '\r' ∉ script)
    (hlast : ∀ block ∈ (blocks script).getLast?, Delimiters.isUnclosed block.text = false) :
    ∀ block ∈ blocks script, IsBlock block.text :=
  isBlock_of_mem_blocksFrom none 1 (Text.lines script) (by simp)
    (fun _ hl => Text.not_mem_of_mem_lines hr hl) hlast

/-! ### Sources of blocks are blocks -/

theorem mem_of_mem_firstLine {s : Text} {c : Char} (h : c ∈ firstLine s) : c ∈ s :=
  (List.takeWhile_prefix _).subset h

theorem IsBegun.trim {input : Text} (h : IsBegun input) :
    Text.trim input ≠ [] ∧ ¬ slashes <+: Text.trim input := by
  obtain ⟨before, after, hinput, hb, _⟩ := Text.exists_eq_trim input
  have hstarts := h.starts
  by_cases hn : '\n' ∈ before
  · -- blanks with a line feed among them would make up the first line
    obtain ⟨s, t, hbefore⟩ := List.append_of_mem hn
    have hfirst : firstLine input = firstLine s := by
      rw [hinput, hbefore, List.append_assoc, List.append_assoc, List.cons_append]
      exact firstLine_append_newline s _
    rw [hfirst, isPassedOver_of_blanks] at hstarts
    · cases hstarts
    · intro c hc
      apply hb
      rw [hbefore]
      exact List.mem_append_left _ (mem_of_mem_firstLine hc)
  · constructor
    · intro hnil
      rw [isPassedOver_of_blanks] at hstarts
      · cases hstarts
      · intro c hc
        exact Text.trim_eq_nil_iff.mp hnil c (mem_of_mem_firstLine hc)
    · rintro ⟨t, ht⟩
      have hfirst : firstLine input = before ++ (slashes ++ firstLine (t ++ after)) := by
        rw [hinput, ← ht, List.append_assoc, List.append_assoc, firstLine_append hn,
          firstLine_append (by decide)]
      rw [hfirst, isPassedOver_of_slashes hb (List.prefix_append _ _)] at hstarts
      cases hstarts

theorem slashes_of_terminate {s : Text} (h : slashes <+: Entry.terminate s) : slashes <+: s := by
  rcases Entry.terminate_eq s with ht | ht
  · rw [ht] at h
    exact h
  · rw [ht] at h
    rcases List.prefix_concat_iff.mp h with hall | hs
    · have hlast := congrArg List.getLast? hall
      rw [List.getLast?_concat] at hlast
      exact absurd hlast (by decide)
    · exact hs

/-- The first line of a terminated text is not passed over, if the text begins with something
else than a blank or a comment. -/
theorem starts_terminate {s : Text} (hs : Text.Trimmed s) (hne : s ≠ [])
    (hslashes : ¬ slashes <+: s) : isPassedOver (firstLine (Entry.terminate s)) = false := by
  obtain ⟨c, t, hct⟩ := List.exists_cons_of_ne_nil (Entry.terminate_ne_nil s)
  have hblank : Text.isBlank c = false := by
    apply (Entry.trimmed_terminate hs hne).head
    rw [hct]
    rfl
  have hfirst : firstLine (c :: t) = c :: firstLine t := by
    unfold firstLine
    rw [List.takeWhile_cons_of_pos]
    rw [decide_eq_true_iff]
    exact (Delimiters.ne_of_isBlank (by decide) hblank).symm
  rw [hct, hfirst]
  apply isPassedOver_of_head rfl hblank
  intro hcomment
  apply hslashes
  apply slashes_of_terminate
  rw [← hfirst] at hcomment
  rw [hct]
  exact hcomment.trans (List.takeWhile_prefix _)

theorem exists_eq_of_terminate {s front back : Text}
    (h : Entry.terminate s = front ++ '\n' :: back) : ∃ back', s = front ++ '\n' :: back' := by
  rcases Entry.terminate_eq s with ht | ht
  · exact ⟨back, by rw [← ht, h]⟩
  · rw [ht] at h
    rcases List.eq_nil_or_concat back with rfl | ⟨init, last, rfl⟩
    · exact absurd (List.append_inj' h rfl).2 (by decide)
    · rw [List.concat_eq_append, ← List.cons_append, ← List.append_assoc] at h
      exact ⟨init, (List.append_inj' h rfl).1⟩

theorem isUnclosed_terminate (s : Text) :
    Delimiters.isUnclosed (Entry.terminate s) = Delimiters.isUnclosed s := by
  rcases Entry.terminate_eq s with ht | ht
  · rw [ht]
  · rw [ht]
    exact Delimiters.isUnclosed_concat Delimiters.inert_semicolon s

/-- Blanks at the ends and the terminator make no difference to a block. -/
theorem isBlock_terminate {input : Text} (h : IsBlock input) :
    IsBlock (Entry.terminate (Text.trim input)) := by
  obtain ⟨before, after, hinput, hb, ha⟩ := Text.exists_eq_trim input
  obtain ⟨hne, hslashes⟩ := h.trim
  refine ⟨⟨?_, starts_terminate (Text.trimmed_trim input) hne hslashes, ?_⟩, ?_⟩
  · have hr : '\r' ∉ Text.trim input := by
      intro hr
      apply h.noReturn
      rw [hinput]
      simp [hr]
    rcases Entry.terminate_eq (Text.trim input) with ht | ht
    · rw [ht]
      exact hr
    · rw [ht, List.mem_append, not_or]
      exact ⟨hr, by decide⟩
  · intro front back hsource
    obtain ⟨back', hback⟩ := exists_eq_of_terminate hsource
    rw [← Delimiters.isUnclosed_blanks_append hb]
    apply h.goesOn (before ++ front) (back' ++ after)
    rw [hinput, hback]
    simp only [List.append_assoc, List.cons_append]
  · have hclosed := h.closed
    rw [hinput, Delimiters.isUnclosed_append_blanks _ ha,
      Delimiters.isUnclosed_blanks_append hb] at hclosed
    rw [isUnclosed_terminate, hclosed]

theorem isBlock_source {input : Text} (h : IsBlock input) {part : Part}
    (hp : (Entry.read input).part? = some part) : IsBlock (Entry.read input).source := by
  rw [(Entry.source_read hp).2]
  exact isBlock_terminate h

/-! ### Blocks are the inputs of a script -/

theorem blocksFrom_extend {text : Text} (h : IsBlock text) (pending : Block) (l : Text)
    (ls : List Text) (number : Nat) (rest : List Text)
    (htext : text = pending.text ++ Text.newline ++ Text.join Text.newline (l :: ls)) :
    blocksFrom (some pending) number (l :: ls ++ rest) =
      ⟨pending.line, text⟩ :: blocksFrom none (number + (l :: ls).length) rest := by
  induction ls generalizing pending l number with
  | nil =>
      rw [Text.join_singleton] at htext
      have hextend : pending.extend l = ⟨pending.line, text⟩ := by
        rw [htext]
        rfl
      have hclosed : ¬ Delimiters.isUnclosed (pending.extend l).text = true := by
        rw [hextend, h.closed]
        exact Bool.false_ne_true
      rw [List.cons_append, blocksFrom, if_neg hclosed, hextend]
      rfl
  | cons m ls ih =>
      have hnext : text = (pending.extend l).text ++ Text.newline ++
          Text.join Text.newline (m :: ls) := by
        rw [htext, Text.join_cons_cons]
        simp only [Block.extend, List.append_assoc]
      have hopen : Delimiters.isUnclosed (pending.extend l).text = true := by
        apply h.goesOn _ (Text.join Text.newline (m :: ls))
        rw [hnext, List.append_assoc]
        rfl
      rw [List.cons_append, blocksFrom, if_pos hopen, ih (pending.extend l) m (number + 1) hnext]
      simp only [Block.extend, List.length_cons]
      congr 2
      omega

/-- The lines of a block are put together to this block. -/
theorem blocksFrom_split {text : Text} (h : IsBlock text) (number : Nat) (rest : List Text) :
    blocksFrom none number (Text.split Text.newline text ++ rest) =
      ⟨number, text⟩ ::
        blocksFrom none (number + (Text.split Text.newline text).length) rest := by
  obtain ⟨l, ls, hsplit⟩ := List.exists_cons_of_ne_nil (Text.split_ne_nil Text.newline text)
  have htext : Text.join Text.newline (l :: ls) = text := by
    rw [← hsplit]
    exact Text.join_split (by decide) text
  have hn : '\n' ∉ l := by
    apply Text.newline_not_mem_of_mem_split
    rw [hsplit]
    exact List.mem_cons_self
  have hstarts : ¬ isPassedOver l = true := by
    have hfirst : firstLine text = l := by
      rw [← htext]
      cases ls with
      | nil =>
          rw [Text.join_singleton]
          exact firstLine_of_not_mem hn
      | cons m ls =>
          rw [Text.join_cons_cons, List.append_assoc]
          exact (firstLine_append_newline l _).trans (firstLine_of_not_mem hn)
    rw [← hfirst, h.starts]
    exact Bool.false_ne_true
  rw [hsplit]
  cases ls with
  | nil =>
      rw [Text.join_singleton] at htext
      rw [htext] at hstarts ⊢
      have hclosed : ¬ Delimiters.isUnclosed text = true := by
        rw [h.closed]
        exact Bool.false_ne_true
      rw [List.cons_append, blocksFrom, if_neg hstarts, if_neg hclosed]
      rfl
  | cons m ls =>
      rw [Text.join_cons_cons] at htext
      have hopen : Delimiters.isUnclosed l = true := by
        apply h.goesOn l (Text.join Text.newline (m :: ls))
        rw [← htext, List.append_assoc]
        rfl
      rw [List.cons_append, blocksFrom, if_neg hstarts, if_pos hopen,
        blocksFrom_extend h ⟨number, l⟩ m ls (number + 1) rest htext.symm]
      simp only [List.length_cons]
      congr 2
      omega

/-- **Blocks are the inputs of a script** in which they are written one after the other. -/
theorem blocks_unlines {texts : List Text} (h : ∀ text ∈ texts, IsBlock text) :
    (blocks (Text.unlines texts)).map Block.text = texts := by
  have hblocks : ∀ number,
      (blocksFrom none number (texts.flatMap (Text.split Text.newline))).map Block.text =
        texts := by
    induction texts with
    | nil =>
        intro number
        rfl
    | cons text rest ih =>
        intro number
        rw [List.flatMap_cons, blocksFrom_split (h text List.mem_cons_self), List.map_cons,
          ih fun t ht => h t (List.mem_cons_of_mem text ht)]
  have hlines : Text.lines (Text.unlines texts) = texts.flatMap (Text.split Text.newline) := by
    rw [← Text.unlines_flatMap_split]
    apply Text.lines_unlines
    · intro l hl
      obtain ⟨text, _, hl⟩ := List.mem_flatMap.mp hl
      exact Text.newline_not_mem_of_mem_split hl
    · intro l hl
      obtain ⟨text, htext, hl⟩ := List.mem_flatMap.mp hl
      intro hr
      exact (h text htext).noReturn ((Text.infix_of_mem_split (by decide) hl).subset hr)
  unfold blocks
  rw [hlines, hblocks]

end HaxePrompt.Script

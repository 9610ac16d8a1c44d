import HaxePrompt.Proofs.Entry.Script

/-! # A script falls into blocks in one way

The lines of a script fall into ranges of consecutive lines, with lines that are passed over
between them (`Divides`): a range begins with a line that is not passed over, something is open
behind each of its lines but the last, and nothing is open behind that one, unless it is the last
line of the script.

These conditions leave no choice (`Divides.unique`): the next range begins with the first line
that is not passed over, and ends behind the first line where nothing is open.  The blocks of a
script are the texts of the ranges into which its lines fall (`blocks_divide`). -/

namespace HaxePrompt.Script

/-! ### Ranges of lines -/

/-- Consecutive lines among others. -/
structure LineRange where
  before : Nat
  count : Nat
deriving DecidableEq, Repr

namespace LineRange

/-- How many lines there are up to the last one of the range. -/
def stop (range : LineRange) : Nat := range.before + range.count

/-- The line with `n` lines before it belongs to the range. -/
def Holds (range : LineRange) (n : Nat) : Prop := range.before ≤ n ∧ n < range.stop

def text (range : LineRange) (ls : List Text) : Text :=
  Text.join Text.newline ((ls.drop range.before).take range.count)

/-- The block that the range makes, if the first of the lines has the given number. -/
def block (number : Nat) (ls : List Text) (range : LineRange) : Block :=
  ⟨number + range.before, range.text ls⟩

def shift (n : Nat) (range : LineRange) : LineRange := ⟨n + range.before, range.count⟩

variable {range : LineRange} {front ls : List Text}

theorem before_le_stop (range : LineRange) : range.before ≤ range.stop :=
  Nat.le_add_right range.before range.count

theorem stop_shift (n : Nat) (range : LineRange) : (range.shift n).stop = n + range.stop :=
  Nat.add_assoc n range.before range.count

theorem text_append_left (h : range.stop ≤ front.length) (ls : List Text) :
    range.text (front ++ ls) = range.text front := by
  unfold stop at h
  unfold text
  rw [List.drop_append_of_le_length (by omega), List.take_append_of_le_length]
  rw [List.length_drop]
  omega

theorem text_shift (front ls : List Text) (range : LineRange) :
    (range.shift front.length).text (front ++ ls) = range.text ls := by
  unfold text shift
  rw [List.drop_length_add_append]

end LineRange

/-! ### Divisions -/

/-- The line holds nothing but blanks, or it is a comment. -/
def IsIdle (line : Text) : Prop := Text.trim line = [] ∨ slashes <+: Text.trim line

theorem isPassedOver_iff {line : Text} : isPassedOver line = true ↔ IsIdle line := by
  unfold isPassedOver IsIdle
  simp only [Bool.or_eq_true, List.isEmpty_iff, List.isPrefixOf_iff_prefix]
  rfl

/-- The lines fall into the ranges and idle lines outside of them. -/
structure Divides (ls : List Text) (ranges : List LineRange) : Prop where
  /-- Every range has a line, and all its lines are among the given ones. -/
  within : ∀ r ∈ ranges, 1 ≤ r.count ∧ r.stop ≤ ls.length
  /-- Each range ends before the next one begins. -/
  increasing : ranges.Pairwise fun r r' => r.stop ≤ r'.before
  /-- A line outside of the ranges is idle. -/
  idle : ∀ n line, ls[n]? = some line → (∀ r ∈ ranges, ¬ r.Holds n) → IsIdle line
  begins : ∀ r ∈ ranges, ∀ line, ls[r.before]? = some line → ¬ IsIdle line
  /-- Something is open behind each line of a range but the last. -/
  goesOn : ∀ r ∈ ranges, ∀ n, 1 ≤ n → n < r.count →
    Delimiters.isUnclosed (LineRange.text ⟨r.before, n⟩ ls) = true
  /-- Something is open behind the last line of a range only if no line follows. -/
  ends : ∀ r ∈ ranges, Delimiters.isUnclosed (r.text ls) = true →
    r.stop = ls.length ∧ ranges.getLast? = some r

namespace Divides

variable {front ls : List Text} {rs rs' : List LineRange}

/-! ### There is at most one -/

/-- Behind ranges that two divisions share, the second one has a range that begins no later than
the next one of the first. -/
theorem exists_before_le {shared : List LineRange} {r : LineRange}
    (h : Divides ls (shared ++ r :: rs)) (h' : Divides ls (shared ++ rs')) :
    ∃ r' rest, rs' = r' :: rest ∧ r'.before ≤ r.before := by
  have hr : r ∈ shared ++ r :: rs := by simp
  obtain ⟨hcount, hstop⟩ := h.within r hr
  have hlt : r.before < ls.length := by
    unfold LineRange.stop at hstop
    omega
  -- the first line of the range is not idle, so it belongs to a range of the second division
  obtain ⟨s, hs, hholds⟩ : ∃ s ∈ shared ++ rs', s.Holds r.before := by
    by_contra hnone
    have hidle := h'.idle r.before ls[r.before] (List.getElem?_eq_getElem hlt)
      fun s hs hholds => hnone ⟨s, hs, hholds⟩
    exact h.begins r hr _ (List.getElem?_eq_getElem hlt) hidle
  rcases List.mem_append.mp hs with hs | hs
  · have hle := (List.pairwise_append.mp h.increasing).2.2 s hs r List.mem_cons_self
    have hlt' := hholds.2
    omega
  · cases rs' with
    | nil => cases hs
    | cons r' rest =>
        refine ⟨r', rest, rfl, ?_⟩
        rcases List.mem_cons.mp hs with rfl | hs
        · exact hholds.1
        · have hordered := (List.pairwise_append.mp h'.increasing).2.1
          have hle := (List.pairwise_cons.mp hordered).1 s hs
          exact ((r'.before_le_stop.trans hle).trans hholds.1)

/-- A range ends behind the first line where nothing is open, so none that begins with the same
line has fewer lines. -/
theorem count_le {r r' : LineRange} (h : Divides ls rs) (h' : Divides ls rs') (hr : r ∈ rs)
    (hr' : r' ∈ rs') (hbefore : r.before = r'.before) : r'.count ≤ r.count := by
  by_contra hlt
  have hopen := h'.goesOn r' hr' r.count (h.within r hr).1 (by omega)
  rw [← hbefore] at hopen
  have hstop := (h.ends r hr hopen).1
  have hstop' := (h'.within r' hr').2
  unfold LineRange.stop at hstop hstop'
  omega

theorem eq_of_append (shared : List LineRange) (h : Divides ls (shared ++ rs))
    (h' : Divides ls (shared ++ rs')) : rs = rs' := by
  induction rs generalizing shared rs' with
  | nil =>
      cases rs' with
      | nil => rfl
      | cons r' rest =>
          obtain ⟨_, _, hnil, _⟩ := h'.exists_before_le h
          cases hnil
  | cons r rs ih =>
      obtain ⟨r', rest, rfl, hle⟩ := h.exists_before_le h'
      obtain ⟨_, _, heq, hle'⟩ := h'.exists_before_le h
      obtain ⟨rfl, _⟩ := List.cons.inj heq
      have hbefore : r.before = r'.before := Nat.le_antisymm hle' hle
      have hcount : r.count = r'.count := by
        apply Nat.le_antisymm
        · exact h'.count_le h (by simp) (by simp) hbefore.symm
        · exact h.count_le h' (by simp) (by simp) hbefore
      obtain rfl : r = r' := by
        cases r
        cases r'
        simp_all
      rw [ih (shared ++ [r]) (by simpa using h) (by simpa using h')]

/-- **Lines fall into ranges in at most one way.** -/
theorem unique (h : Divides ls rs) (h' : Divides ls rs') : rs = rs' :=
  eq_of_append [] h h'

/-! ### Divisions behind each other -/

theorem nil : Divides [] [] := by
  constructor <;> simp

theorem of_idle {line : Text} (h : IsIdle line) : Divides [line] [] := by
  refine ⟨by simp, by simp, ?_, by simp, by simp, by simp⟩
  intro n l hl _
  cases n with
  | zero =>
      cases hl
      exact h
  | succ n => cases hl

/-- Divisions of lines and of those behind them make one of all of them, if nothing is open at the
end of the first ones. -/
theorem append (h : Divides front rs)
    (hclosed : ∀ r ∈ rs, Delimiters.isUnclosed (r.text front) = false) (h' : Divides ls rs') :
    Divides (front ++ ls) (rs ++ rs'.map (LineRange.shift front.length)) := by
  constructor
  case within =>
    intro r hr
    rw [List.length_append]
    rcases List.mem_append.mp hr with hr | hr
    · obtain ⟨hcount, hstop⟩ := h.within r hr
      exact ⟨hcount, by omega⟩
    · obtain ⟨s, hs, rfl⟩ := List.mem_map.mp hr
      obtain ⟨hcount, hstop⟩ := h'.within s hs
      refine ⟨hcount, ?_⟩
      rw [LineRange.stop_shift]
      omega
  case increasing =>
    refine List.pairwise_append.mpr ⟨h.increasing, ?_, ?_⟩
    · rw [List.pairwise_map]
      apply h'.increasing.imp
      intro r r' hle
      rw [LineRange.stop_shift]
      exact Nat.add_le_add_left hle _
    · intro r hr r' hr'
      obtain ⟨s, -, rfl⟩ := List.mem_map.mp hr'
      exact (h.within r hr).2.trans (Nat.le_add_right _ _)
  case idle =>
    intro n line hline hnone
    by_cases hn : n < front.length
    · rw [List.getElem?_append_left hn] at hline
      exact h.idle n line hline fun r hr => hnone r (List.mem_append_left _ hr)
    · rw [List.getElem?_append_right (by omega)] at hline
      apply h'.idle (n - front.length) line hline
      intro r hr hholds
      apply hnone (r.shift front.length) (by
        apply List.mem_append_right
        exact List.mem_map_of_mem hr)
      unfold LineRange.Holds at hholds ⊢
      rw [LineRange.stop_shift]
      simp only [LineRange.shift]
      omega
  case begins =>
    intro r hr line hline
    rcases List.mem_append.mp hr with hr | hr
    · obtain ⟨hcount, hstop⟩ := h.within r hr
      rw [List.getElem?_append_left (by unfold LineRange.stop at hstop; omega)] at hline
      exact h.begins r hr line hline
    · obtain ⟨s, hs, rfl⟩ := List.mem_map.mp hr
      rw [LineRange.shift, List.getElem?_append_right (Nat.le_add_right _ _),
        Nat.add_sub_cancel_left] at hline
      exact h'.begins s hs line hline
  case goesOn =>
    intro r hr n hpos hn
    rcases List.mem_append.mp hr with hr | hr
    · rw [LineRange.text_append_left]
      · exact h.goesOn r hr n hpos hn
      · have hstop : r.before + r.count ≤ front.length := (h.within r hr).2
        have hshort : r.before + n ≤ front.length := by omega
        exact hshort
    · obtain ⟨s, hs, rfl⟩ := List.mem_map.mp hr
      have hopen := h'.goesOn s hs n hpos hn
      rw [← LineRange.text_shift front] at hopen
      exact hopen
  case ends =>
    intro r hr hopen
    rcases List.mem_append.mp hr with hr | hr
    · rw [LineRange.text_append_left (h.within r hr).2, hclosed r hr] at hopen
      cases hopen
    · obtain ⟨s, hs, rfl⟩ := List.mem_map.mp hr
      rw [LineRange.text_shift] at hopen
      obtain ⟨hstop, hlast⟩ := h'.ends s hs hopen
      constructor
      · rw [LineRange.stop_shift, hstop, List.length_append]
      · rw [List.getLast?_append, List.getLast?_map, hlast]
        rfl

end Divides

/-! ### Lines of an unfinished block -/

/-- The lines of a block that has begun: the first is not idle, and something is open behind each
but the last. -/
structure Begun (held : List Text) : Prop where
  ne_nil : held ≠ []
  begins : ∀ line ∈ held.head?, ¬ IsIdle line
  /-- Something is open behind each but the last. -/
  goesOn : ∀ n, 1 ≤ n → n < held.length →
    Delimiters.isUnclosed (Text.join Text.newline (held.take n)) = true

theorem begun_singleton {line : Text} (h : ¬ IsIdle line) : Begun [line] := by
  refine ⟨by simp, ?_, ?_⟩
  · intro l hl
    cases hl
    exact h
  · intro n hpos hn
    simp at hn
    omega

theorem Begun.concat {held : List Text} (h : Begun held)
    (hopen : Delimiters.isUnclosed (Text.join Text.newline held) = true) (line : Text) :
    Begun (held ++ [line]) := by
  refine ⟨by simp, ?_, ?_⟩
  · rw [List.head?_append_of_ne_nil _ h.ne_nil]
    exact h.begins
  · intro n hpos hn
    rw [List.length_append, List.length_singleton] at hn
    rw [List.take_append_of_le_length (by omega)]
    by_cases hall : n = held.length
    · rw [hall, List.take_length]
      exact hopen
    · exact h.goesOn n hpos (by omega)

theorem Begun.extend_eq {held : List Text} (h : Begun held) (start : Nat) (line : Text) :
    (⟨start, Text.join Text.newline held⟩ : Block).extend line =
      ⟨start, Text.join Text.newline (held ++ [line])⟩ := by
  rw [Block.extend, Text.join_concat_of_ne_nil _ h.ne_nil]

theorem Begun.divides {held : List Text} (h : Begun held) : Divides held [⟨0, held.length⟩] := by
  have hpos : 0 < held.length := List.length_pos_of_ne_nil h.ne_nil
  constructor
  case within => simp [LineRange.stop]; omega
  case increasing => simp
  case idle =>
    intro n line hline hnone
    obtain ⟨hn, _⟩ := List.getElem?_eq_some_iff.mp hline
    exact absurd (by simpa [LineRange.Holds, LineRange.stop] using hn)
      (hnone ⟨0, held.length⟩ List.mem_cons_self)
  case begins =>
    intro r hr line hline
    rw [List.mem_singleton.mp hr, ← List.head?_eq_getElem?] at hline
    exact h.begins line hline
  case goesOn =>
    intro r hr n hn hlt
    rw [List.mem_singleton.mp hr] at hlt ⊢
    exact h.goesOn n hn hlt
  case ends =>
    intro r hr _
    rw [List.mem_singleton.mp hr]
    exact ⟨Nat.zero_add _, rfl⟩

/-! ### The blocks of a script -/

/-- The blocks are those of ranges into which the lines fall, the first of which has the given
number. -/
def AreBlocksOf (number : Nat) (ls : List Text) (bs : List Block) : Prop :=
  ∃ ranges, Divides ls ranges ∧ bs = ranges.map (LineRange.block number ls)

theorem areBlocksOf_append {number : Nat} {front ls : List Text} {rs : List LineRange}
    {bs : List Block} (h : Divides front rs)
    (hclosed : ∀ r ∈ rs, Delimiters.isUnclosed (r.text front) = false)
    (h' : AreBlocksOf (number + front.length) ls bs) :
    AreBlocksOf number (front ++ ls) (rs.map (LineRange.block number front) ++ bs) := by
  obtain ⟨rs', hdivides, rfl⟩ := h'
  refine ⟨_, h.append hclosed hdivides, ?_⟩
  rw [List.map_append, List.map_map]
  congr 1
  · apply List.map_congr_left
    intro r hr
    rw [LineRange.block, LineRange.block, LineRange.text_append_left (h.within r hr).2]
  · apply List.map_congr_left
    intro r _
    rw [Function.comp_apply, LineRange.block, LineRange.block, LineRange.text_shift,
      LineRange.shift, Nat.add_assoc]

theorem areBlocksOf_finished {number : Nat} {held ls : List Text} {bs : List Block}
    (h : Begun held) (hclosed : Delimiters.isUnclosed (Text.join Text.newline held) = false)
    (h' : AreBlocksOf (number + held.length) ls bs) :
    AreBlocksOf number (held ++ ls) (⟨number, Text.join Text.newline held⟩ :: bs) := by
  have htext : LineRange.text ⟨0, held.length⟩ held = Text.join Text.newline held := by
    rw [LineRange.text, List.drop_zero, List.take_length]
  have hone : [LineRange.block number held ⟨0, held.length⟩] =
      [⟨number, Text.join Text.newline held⟩] := by
    rw [LineRange.block, htext, Nat.add_zero]
  have hall := areBlocksOf_append h.divides (by simpa [htext] using hclosed) h'
  rwa [List.map_singleton, hone] at hall

/-- The lines held are those of the unfinished block, which begins with the given number. -/
def Carries (pending : Option Block) (start : Nat) (held : List Text) : Prop :=
  match pending with
  | none => held = []
  | some block => block = ⟨start, Text.join Text.newline held⟩ ∧ Begun held ∧
      Delimiters.isUnclosed block.text = true

/-- What is made of the remaining lines are the blocks of the held lines and the remaining ones. -/
theorem areBlocksOf_blocksFrom (pending : Option Block) (number : Nat) (ls : List Text)
    (start : Nat) (held : List Text) (hnumber : number = start + held.length)
    (h : Carries pending start held) :
    AreBlocksOf start (held ++ ls) (blocksFrom pending number ls) := by
  fun_induction blocksFrom pending number ls generalizing start held with
  | case1 number =>
      rw [show held = [] from h]
      exact ⟨[], Divides.nil, rfl⟩
  | case2 pending number =>
      obtain ⟨rfl, hbegun, -⟩ := h
      refine ⟨_, by simpa using hbegun.divides, ?_⟩
      simp [LineRange.block, LineRange.text]
  | case3 number line rest hpassed ih =>
      obtain rfl : held = [] := h
      have hidle : Divides [line] [] := Divides.of_idle (isPassedOver_iff.mp hpassed)
      have hrest : AreBlocksOf (start + [line].length) rest (blocksFrom none (number + 1) rest) :=
        ih _ _ (by rw [hnumber]; rfl) rfl
      exact areBlocksOf_append hidle (by simp) hrest
  | case4 number line rest hpassed hopen ih =>
      obtain rfl : held = [] := h
      have hbegun : Begun [line] :=
        begun_singleton fun hidle => hpassed (isPassedOver_iff.mpr hidle)
      have hline : Text.join Text.newline [line] = line := Text.join_singleton _ line
      have hstart : number = start := hnumber
      apply ih start [line] (by rw [hnumber]; rfl)
      exact ⟨by rw [hline, hstart], hbegun, hopen⟩
  | case5 number line rest hpassed hopen ih =>
      obtain rfl : held = [] := h
      have hbegun : Begun [line] :=
        begun_singleton fun hidle => hpassed (isPassedOver_iff.mpr hidle)
      have hline : Text.join Text.newline [line] = line := Text.join_singleton _ line
      have hstart : number = start := hnumber
      have hrest : AreBlocksOf (start + [line].length) rest (blocksFrom none (number + 1) rest) :=
        ih _ _ (by rw [hnumber]; rfl) rfl
      have hclosed : Delimiters.isUnclosed (Text.join Text.newline [line]) = false := by
        rw [hline]
        exact Bool.eq_false_iff.mpr hopen
      have hall := areBlocksOf_finished hbegun hclosed hrest
      rw [hline, ← hstart] at hall
      rw [← hstart]
      exact hall
  | case6 pending number line rest hopen ih =>
      obtain ⟨rfl, hbegun, hstill⟩ := h
      rw [hbegun.extend_eq] at hopen ih ⊢
      have hall := ih start (held ++ [line]) (by rw [hnumber, List.length_append]; rfl)
        ⟨rfl, hbegun.concat hstill line, hopen⟩
      rwa [List.append_assoc] at hall
  | case7 pending number line rest hopen ih =>
      obtain ⟨rfl, hbegun, hstill⟩ := h
      rw [hbegun.extend_eq] at hopen ⊢
      have hrest : AreBlocksOf (start + (held ++ [line]).length) rest
          (blocksFrom none (number + 1) rest) :=
        ih _ _ (by rw [hnumber, List.length_append]; rfl) rfl
      have hall := areBlocksOf_finished (hbegun.concat hstill line) (Bool.eq_false_iff.mpr hopen)
        hrest
      rwa [List.append_assoc] at hall

/-- **The blocks of a script are the texts of the ranges into which its lines fall**, in the only
way in which they do. -/
theorem blocks_divide (script : Text) :
    ∃ ranges, Divides (Text.lines script) ranges ∧
      blocks script = ranges.map (LineRange.block 1 (Text.lines script)) ∧
      ∀ other, Divides (Text.lines script) other → other = ranges := by
  obtain ⟨ranges, hdivides, hblocks⟩ :=
    areBlocksOf_blocksFrom none 1 (Text.lines script) 1 [] rfl rfl
  exact ⟨ranges, hdivides, hblocks, fun other h => h.unique hdivides⟩

end HaxePrompt.Script

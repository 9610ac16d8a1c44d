import HaxePrompt.Message.Diagnostic
import HaxePrompt.Proofs.Text.Split
import Mathlib.Data.List.TakeWhile

/-! # Where a line points

A line points into the compilation unit at a place (`Place`): there the name of its file stands
with a colon, at the start of the line or right after a path separator, and a position, which is a
line number, a colon and a message, may follow (`Gives`).  `Means` tells in these terms what
diagnostic a line is, and `ofLine` reads exactly this (`ofLine_eq_iff`).

Only the first place of a line is looked at.  A line whose first place gives no position is kept as
it is, also when a later one does (`position_not_found`). -/

namespace HaxePrompt.Diagnostic

variable {file line : Text}

/-- A name of a file that is told apart from what stands around it in a line. -/
structure IsFileName (file : Text) : Prop where
  noColon : ':' ∉ file
  noNewline : '\n' ∉ file

/-- The name of the file as it stands in front of a line number. -/
def fileMark (file : Text) : Text := file ++ ":"

/-- A file name may begin after this text: it is empty or ends with a path separator. -/
def Anchored (before : Text) : Prop := ∀ c ∈ before.getLast?, c = '/' ∨ c = '\\'

/-- The name of the file stands between the two parts of the line, where it may begin. -/
structure Place (file line before after : Text) : Prop where
  eq : line = before ++ fileMark file ++ after
  anchored : Anchored before

/-- There is no place before this one. -/
structure FirstPlace (file line before after : Text) : Prop extends
    Place file line before after where
  /-- Every place has as much text before it. -/
  first : ∀ before' after', Place file line before' after' → before.length ≤ before'.length

/-- The digits of a line number. -/
structure Numeral (digits : Text) (number : Nat) : Prop where
  ne_nil : digits ≠ []
  isDigit : ∀ d ∈ digits, Text.isDigit d = true
  /-- They are the number in decimal, which may begin with zeros. -/
  value : Text.digitsValue digits = number
  lt : number < UInt64.size

/-- The text is a position: a line number, a colon and a blank, and the message. -/
def Gives (after : Text) (number : Nat) (message : Text) : Prop :=
  ∃ digits, Numeral digits number ∧ after = digits ++ ": " ++ message

/-- The diagnostic that a line is, by what stands at its first place. -/
inductive Means (file line : Text) : Diagnostic → Prop
  | error {before after message : Text} {number : Nat} (hplace : FirstPlace file line before after)
      (hgives : Gives after number message) (hmark : ¬ warningMark <:+: message) :
      Means file line (.error number message)
  /-- A position whose message is a warning: what follows the first mark is kept of it. -/
  | warning {before after lead remark : Text} {number : Nat}
      (hplace : FirstPlace file line before after)
      (hgives : Gives after number (lead ++ warningMark ++ remark))
      (hlead : ¬ warningMark <:+: lead) : Means file line (.warning number remark)
  | other (hnone : ∀ before after number message, FirstPlace file line before after →
      ¬ Gives after number message) : Means file line (.other line)

/-! ### The first place -/

theorem unbordered_fileMark (hfile : IsFileName file) : Text.Unbordered (fileMark file) :=
  Text.unbordered_concat hfile.noColon

theorem fileMark_ne_nil (file : Text) : fileMark file ≠ [] := by simp [fileMark]

theorem isAnchor_true_iff {before : Text} : isAnchor true before = true ↔ Anchored before := by
  unfold isAnchor Anchored
  cases before.getLast? <;> simp

/-- After an occurrence of the name only what follows it can make room for another one, since the
name ends with a colon. -/
theorem isAnchor_append_fileMark (atStart : Bool) (p b : Text) :
    isAnchor atStart (p ++ fileMark file ++ b) = isAnchor false b := by
  unfold isAnchor
  rw [List.getLast?_append]
  cases hlast : b.getLast? with
  | some c => rfl
  | none =>
      have hcolon : (p ++ fileMark file).getLast? = some ':' := by
        rw [fileMark, ← List.append_assoc]
        exact List.getLast?_concat
      rw [hcolon]
      rfl

/-- The first place in a text at whose start a name may begin or not. -/
structure FirstFrom (file : Text) (atStart : Bool) (s before after : Text) : Prop where
  eq : s = before ++ fileMark file ++ after
  isAnchor : isAnchor atStart before = true
  first : ∀ b a, s = b ++ fileMark file ++ a → Diagnostic.isAnchor atStart b = true →
    before.length ≤ b.length

/-- An occurrence where the name may begin is the first place if there is none before it. -/
theorem exists_firstFrom_iff_of_isAnchor (hfile : IsFileName file) {atStart : Bool}
    {p v after : Text} (hp : ¬ fileMark file <:+: p) (hanchor : isAnchor atStart p = true) :
    (∃ before, FirstFrom file atStart (p ++ fileMark file ++ v) before after) ↔ v = after := by
  constructor
  · rintro ⟨before, heq, _, hfirst⟩
    rcases Text.eq_or_exists_of_append_eq (fileMark_ne_nil file) (unbordered_fileMark hfile) hp heq
      with ⟨_, h⟩ | ⟨c, rfl, _⟩
    · exact h.symm
    · have hle := hfirst p v rfl hanchor
      have hpos : 0 < (fileMark file).length := List.length_pos_iff.mpr (fileMark_ne_nil file)
      simp only [List.length_append] at hle
      omega
  · rintro rfl
    exact ⟨p, rfl, hanchor, fun b a hb _ => Text.length_le_of_append_eq (fileMark_ne_nil file)
      (unbordered_fileMark hfile) hp hb⟩

theorem exists_firstFrom_iff_of_not_isAnchor (hfile : IsFileName file) {atStart : Bool}
    {p v after : Text} (hp : ¬ fileMark file <:+: p) (hanchor : isAnchor atStart p = false) :
    (∃ before, FirstFrom file atStart (p ++ fileMark file ++ v) before after) ↔
      ∃ before, FirstFrom file false v before after := by
  have hcases : ∀ b a, p ++ fileMark file ++ v = b ++ fileMark file ++ a →
      isAnchor atStart b = true → ∃ c, b = p ++ fileMark file ++ c ∧
        v = c ++ fileMark file ++ a ∧ isAnchor false c = true := by
    intro b a hb hbanchor
    rcases Text.eq_or_exists_of_append_eq (fileMark_ne_nil file) (unbordered_fileMark hfile) hp hb
      with ⟨rfl, _⟩ | ⟨c, rfl, hc⟩
    · rw [hanchor] at hbanchor
      cases hbanchor
    · rw [isAnchor_append_fileMark] at hbanchor
      exact ⟨c, rfl, hc, hbanchor⟩
  constructor
  · rintro ⟨before, heq, hbefore, hfirst⟩
    obtain ⟨c, rfl, hc, hcanchor⟩ := hcases before after heq hbefore
    refine ⟨c, hc, hcanchor, ?_⟩
    intro d a hd hdanchor
    have hle := hfirst (p ++ fileMark file ++ d) a (by rw [hd]; simp only [List.append_assoc])
      (by rw [isAnchor_append_fileMark]; exact hdanchor)
    simp only [List.length_append] at hle
    exact Nat.le_of_add_le_add_left hle
  · rintro ⟨c, rfl, hcanchor, hfirst⟩
    refine ⟨p ++ fileMark file ++ c, by simp only [List.append_assoc], ?_, ?_⟩
    · rw [isAnchor_append_fileMark]
      exact hcanchor
    · intro b a hb hbanchor
      obtain ⟨d, rfl, hd, hdanchor⟩ := hcases b a hb hbanchor
      simp only [List.length_append]
      exact Nat.add_le_add_left (hfirst d a hd hdanchor) _

/-- The search finds the first place. -/
theorem afterAnchored_eq_some_iff (hfile : IsFileName file) (atStart : Bool) (s after : Text) :
    afterAnchored (fileMark file) atStart (Text.split (fileMark file) s) = some after ↔
      ∃ before, FirstFrom file atStart s before after := by
  have hne := fileMark_ne_nil file
  induction s using Text.induction_on_first hne generalizing atStart with
  | hnone s hs =>
      rw [Text.split, Text.splitFrom_of_not_infix hs]
      refine iff_of_false (fun h => by cases h) ?_
      rintro ⟨before, rfl, _, _⟩
      exact hs ⟨before, after, rfl⟩
  | hfirst p v hp ih =>
      have hsplit : Text.split (fileMark file) (p ++ fileMark file ++ v) =
          p :: Text.split (fileMark file) v := by
        rw [Text.split, Text.splitFrom_append hne (unbordered_fileMark hfile) hp]
        rfl
      have hjoin := Text.join_split hne v
      have hrest := ih false
      obtain ⟨q, t, hv⟩ := List.exists_cons_of_ne_nil (Text.split_ne_nil (fileMark file) v)
      rw [hv] at hsplit hjoin hrest
      rw [hsplit, afterAnchored, hjoin]
      cases hanchor : isAnchor atStart p with
      | true => rw [if_pos rfl, Option.some_inj, exists_firstFrom_iff_of_isAnchor hfile hp hanchor]
      | false =>
          rw [if_neg Bool.false_ne_true]
          exact hrest.trans (exists_firstFrom_iff_of_not_isAnchor hfile hp hanchor).symm

theorem firstFrom_true_iff {before after : Text} :
    FirstFrom file true line before after ↔ FirstPlace file line before after := by
  constructor
  · rintro ⟨hline, hanchor, hfirst⟩
    refine ⟨⟨hline, isAnchor_true_iff.mp hanchor⟩, ?_⟩
    intro b a hplace
    exact hfirst b a hplace.eq (isAnchor_true_iff.mpr hplace.anchored)
  · intro hplace
    refine ⟨hplace.eq, isAnchor_true_iff.mpr hplace.anchored, ?_⟩
    intro b a hb hanchor
    exact hplace.first b a ⟨hb, isAnchor_true_iff.mp hanchor⟩

theorem Place.firstPlace {before after : Text} (hfile : IsFileName file)
    (hplace : Place file line before after) (hfree : ¬ fileMark file <:+: before) :
    FirstPlace file line before after := by
  refine ⟨hplace, ?_⟩
  intro b a hother
  exact Text.length_le_of_append_eq (fileMark_ne_nil file) (unbordered_fileMark hfile) hfree
    (hplace.eq.symm.trans hother.eq)

/-! ### Positions -/

theorem span_isDigit {digits : Text} (h : ∀ d ∈ digits, Text.isDigit d = true) (rest : Text) :
    (digits ++ ':' :: rest).takeWhile Text.isDigit = digits ∧
      (digits ++ ':' :: rest).dropWhile Text.isDigit = ':' :: rest := by
  have hcolon : ¬ Text.isDigit ':' = true := by decide
  rw [List.takeWhile_append_of_pos h, List.dropWhile_append_of_pos h,
    List.takeWhile_cons_of_neg hcolon, List.dropWhile_cons_of_neg hcolon, List.append_nil]
  exact ⟨rfl, rfl⟩

theorem position?_eq_some_iff {s message : Text} {number : Nat} :
    position? s = some (number, message) ↔ Gives s number message := by
  unfold position? Gives
  simp only
  constructor
  · intro h
    split at h
    · rename_i hnumber
      obtain ⟨rest, hrest, heq⟩ := Option.map_eq_some_iff.mp h
      obtain ⟨rfl, rfl⟩ := Prod.mk.inj heq
      refine ⟨s.takeWhile Text.isDigit, ⟨hnumber.1, fun d hd => List.mem_takeWhile_imp hd, rfl,
        hnumber.2⟩, ?_⟩
      have hsplit := List.takeWhile_append_dropWhile (p := Text.isDigit) (l := s)
      have hdrop := List.isPrefixOf?_eq_some_iff_append_eq.mp hrest
      rw [List.append_assoc, hdrop, hsplit]
    · cases h
  · rintro ⟨digits, hdigits, rfl⟩
    obtain ⟨htake, hdrop⟩ := span_isDigit hdigits.isDigit (' ' :: message)
    have hs : (digits ++ ": " ++ message : Text) = digits ++ ':' :: ' ' :: message := by simp
    rw [hs, htake, hdrop, hdigits.value, if_pos ⟨hdigits.ne_nil, hdigits.lt⟩]
    rfl

/-! ### What a line says -/

/-- A warning's mark begins with a letter that it has only once. -/
theorem unbordered_warningMark : Text.Unbordered warningMark := by
  have hletter : 'W' ∉ ("arning : " : Text) := by decide
  exact Text.unbordered_cons hletter

/-- The position that is looked for in a line: its number and its message. -/
def positionOf (file line : Text) : Option (Nat × Text) :=
  (afterAnchored (fileMark file) true (Text.split (fileMark file) line)).bind position?

theorem ofLine_eq (file line : Text) :
    ofLine file line =
      match positionOf file line with
      | some (number, message) =>
        match Text.cut warningMark message with
        | some (_, remark) => .warning number remark
        | none => .error number message
      | none => .other line :=
  rfl

theorem positionOf_eq_some_iff (hfile : IsFileName file) {number : Nat} {message : Text} :
    positionOf file line = some (number, message) ↔
      ∃ before after, FirstPlace file line before after ∧ Gives after number message := by
  rw [positionOf, Option.bind_eq_some_iff]
  constructor
  · rintro ⟨after, hafter, hposition⟩
    obtain ⟨before, hfirst⟩ := (afterAnchored_eq_some_iff hfile true line after).mp hafter
    exact ⟨before, after, firstFrom_true_iff.mp hfirst, position?_eq_some_iff.mp hposition⟩
  · rintro ⟨before, after, hplace, hgives⟩
    refine ⟨after, ?_, position?_eq_some_iff.mpr hgives⟩
    exact (afterAnchored_eq_some_iff hfile true line after).mpr
      ⟨before, firstFrom_true_iff.mpr hplace⟩

theorem ofLine_of_means (hfile : IsFileName file) {diagnostic : Diagnostic}
    (h : Means file line diagnostic) : ofLine file line = diagnostic := by
  rw [ofLine_eq]
  cases h with
  | error hplace hgives hmark =>
      rw [(positionOf_eq_some_iff hfile).mpr ⟨_, _, hplace, hgives⟩]
      simp only [Text.cut_eq_none hmark]
  | warning hplace hgives hlead =>
      rw [(positionOf_eq_some_iff hfile).mpr ⟨_, _, hplace, hgives⟩]
      simp only [Text.cut_append (by decide) unbordered_warningMark hlead]
  | other hnone =>
      cases hposition : positionOf file line with
      | none => rfl
      | some found =>
          obtain ⟨before, after, hplace, hgives⟩ := (positionOf_eq_some_iff hfile).mp hposition
          exact absurd hgives (hnone before after found.1 found.2 hplace)

theorem means_ofLine (hfile : IsFileName file) (line : Text) :
    Means file line (ofLine file line) := by
  rw [ofLine_eq]
  cases hposition : positionOf file line with
  | none =>
      refine .other fun before after number message hplace hgives => ?_
      rw [(positionOf_eq_some_iff hfile).mpr ⟨before, after, hplace, hgives⟩] at hposition
      cases hposition
  | some found =>
      obtain ⟨number, message⟩ := found
      obtain ⟨before, after, hplace, hgives⟩ := (positionOf_eq_some_iff hfile).mp hposition
      cases hcut : Text.cut warningMark message with
      | none =>
          simp only [hcut]
          exact .error hplace hgives
            ((Text.cut_eq_none_iff (by decide) unbordered_warningMark).mp hcut)
      | some found =>
          obtain ⟨lead, remark⟩ := found
          obtain ⟨rfl, hlead⟩ :=
            (Text.cut_eq_some_iff (by decide) unbordered_warningMark).mp hcut
          simp only [hcut]
          exact .warning hplace hgives hlead

/-- **What a line says is what is read.**  An error or a warning is read exactly if a position
stands at the first place of the line, with its number and the rest of its message; any other line
is kept. -/
theorem ofLine_eq_iff (hfile : IsFileName file) (line : Text) (diagnostic : Diagnostic) :
    ofLine file line = diagnostic ↔ Means file line diagnostic := by
  constructor
  · rintro rfl
    exact means_ofLine hfile line
  · exact ofLine_of_means hfile

theorem ofLine_eq_iff_unused :
    IsFileName "Repl.hx" ∧
      Means "Repl.hx" "C:\\tmp\\Repl.hx:4: lines 4-5 : Warning : Unused"
        (.warning 4 "Unused") := by
  have hfile : IsFileName "Repl.hx" := ⟨by decide, by decide⟩
  exact ⟨hfile, (ofLine_eq_iff hfile _ _).mp (by decide +kernel)⟩

/-- A position behind the first place is not found. -/
theorem position_not_found :
    let line : Text := "/tmp/Repl.hx: see /tmp/Repl.hx:9: Unexpected ;"
    ∃ before after, Place "Repl.hx" line before after ∧ Gives after 9 "Unexpected ;" ∧
      ofLine "Repl.hx" line = .other line := by
  have hanchored : Anchored "/tmp/Repl.hx: see /tmp/" := isAnchor_true_iff.mp (by decide)
  have hnumeral : Numeral "9" 9 :=
    ⟨by decide, List.all_eq_true.mp (by decide), by decide, by decide⟩
  exact ⟨"/tmp/Repl.hx: see /tmp/", "9: Unexpected ;", ⟨by decide +kernel, hanchored⟩,
    ⟨"9", hnumeral, by decide +kernel⟩, by decide +kernel⟩

end HaxePrompt.Diagnostic

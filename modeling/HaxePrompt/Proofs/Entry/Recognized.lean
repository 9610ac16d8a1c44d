import HaxePrompt.Entry.Basic
import HaxePrompt.Proofs.Text.Trim
import Mathlib.Data.List.Infix

/-! # What the recognizers accept

The reserved forms as properties of the text: a keyword is a word with a blank after it
(`keyword_eq_ok_iff`), a type query is its prefix (`accepts_literal_iff`), a declaration is the
keyword `var` with a whole name behind it (`declaration_eq_ok_iff`), and an identifier is name
characters alone (`isIdentifier_iff`).  Neither an import nor a type query depends on the terminator
of a source (`accepts_importKeyword_terminate`, `accepts_typeQuery_terminate`). -/

namespace HaxePrompt.Recognizer

/-! ### Classes of characters -/

theorem isWordChar_of_isNameChar {c : Char} (h : isNameChar c = true) : isWordChar c = true := by
  unfold isNameChar at h
  unfold isWordChar Text.isAlphanumeric Char.isAlphanum Char.isAlpha Char.isLower Char.isDigit
  simp only [Bool.or_eq_true, Bool.and_eq_true, decide_eq_true_eq] at h ⊢
  rcases h with (⟨hlow, hhigh⟩ | ⟨hlow, hhigh⟩) | hunderscore
  · exact Or.inl (Or.inl (Or.inl (Or.inr ⟨hlow, hhigh⟩)))
  · exact Or.inl (Or.inl (Or.inr ⟨hlow, hhigh⟩))
  · exact Or.inr hunderscore

/-- The code points of the blanks. -/
def blankPoints : List Nat :=
  List.range' 0x09 5 ++ [0x20, 0x85, 0xA0, 0x1680] ++ List.range' 0x2000 11 ++
    [0x2028, 0x2029, 0x202F, 0x205F, 0x3000]

theorem toNat_mem_blankPoints {c : Char} (h : Text.isBlank c = true) :
    c.toNat ∈ blankPoints := by
  simp only [Text.isBlank, Bool.or_eq_true, Bool.and_eq_true, decide_eq_true_eq, beq_iff_eq] at h
  simp only [blankPoints, List.mem_append, List.mem_range'_1, List.mem_cons, List.not_mem_nil,
    or_false]
  omega

theorem not_isWordChar_of_isBlank {c : Char} (h : Text.isBlank c = true) :
    isWordChar c = false := by
  have hnone : ∀ n ∈ blankPoints, isWordChar (Char.ofNat n) = false := by decide +kernel
  rw [← Char.ofNat_toNat c]
  exact hnone c.toNat (toNat_mem_blankPoints h)

/-! ### What each recognizer accepts -/

theorem literal_eq_ok_iff {word s : Text} {found : Match} :
    literal word s = .ok found ↔ found.token = word ∧ s = word ++ found.rest := by
  unfold literal
  cases h : word.isPrefixOf? s with
  | none =>
      simp only [reduceCtorEq, false_iff, not_and]
      intro _ hs
      rw [List.isPrefixOf?_eq_some_iff_append_eq.mpr hs.symm] at h
      cases h
  | some rest =>
      have hs := List.isPrefixOf?_eq_some_iff_append_eq.mp h
      constructor
      · rintro ⟨⟩
        exact ⟨rfl, hs.symm⟩
      · rintro ⟨ht, hr⟩
        rw [← hs] at hr
        obtain ⟨token, rest'⟩ := found
        simp only at ht hr
        rw [ht, List.append_cancel_left hr]

theorem accepts_iff {recognizer : Recognizer} {s : Text} :
    accepts recognizer s = true ↔ ∃ found, recognizer s = .ok found := by
  unfold accepts
  cases recognizer s with
  | ok found => exact iff_of_true rfl ⟨found, rfl⟩
  | error miss => exact iff_of_false Bool.false_ne_true (by rintro ⟨_, ⟨⟩⟩)

theorem accepts_literal_iff {word s : Text} : accepts (literal word) s = true ↔ word <+: s := by
  rw [accepts_iff]
  constructor
  · rintro ⟨found, h⟩
    exact ⟨found.rest, (literal_eq_ok_iff.mp h).2.symm⟩
  · rintro ⟨rest, hs⟩
    exact ⟨⟨word, rest⟩, literal_eq_ok_iff.mpr ⟨rfl, hs.symm⟩⟩

theorem character_eq_ok_iff {isMember : Char → Bool} {s : Text} {found : Match} :
    character isMember s = .ok found ↔
      ∃ c, isMember c = true ∧ found.token = [c] ∧ s = c :: found.rest := by
  constructor
  · intro h
    cases s with
    | nil => cases h
    | cons c rest =>
        simp only [character] at h
        split at h
        · cases h
          exact ⟨c, by assumption, rfl, rfl⟩
        · cases h
  · rintro ⟨c, hc, ht, rfl⟩
    simp only [character, hc, if_true, ← ht]

theorem bind_eq_ok_iff {ε α β : Type} {x : Except ε α} {f : α → Except ε β} {b : β} :
    x >>= f = .ok b ↔ ∃ a, x = .ok a ∧ f a = .ok b := by
  cases x with
  | error e => simp [bind, Except.bind]
  | ok a => simp [bind, Except.bind]

/-- A keyword is its word, and one blank right after it. -/
theorem keyword_eq_ok_iff {word s : Text} {found : Match} :
    keyword word s = .ok found ↔
      found.token = word ∧ ∃ b, Text.isBlank b = true ∧ s = word ++ b :: found.rest := by
  unfold keyword
  simp only [bind_eq_ok_iff]
  constructor
  · rintro ⟨start, hstart, blank, hblank, ⟨⟩⟩
    obtain ⟨ht, hs⟩ := literal_eq_ok_iff.mp hstart
    obtain ⟨b, hb, _, hrest⟩ := character_eq_ok_iff.mp hblank
    exact ⟨ht, b, hb, by rw [hs, hrest]⟩
  · rintro ⟨ht, b, hb, hs⟩
    refine ⟨⟨word, b :: found.rest⟩, literal_eq_ok_iff.mpr ⟨rfl, hs⟩, ⟨[b], found.rest⟩, ?_, ?_⟩
    · exact character_eq_ok_iff.mpr ⟨b, hb, rfl, rfl⟩
    · exact congrArg Except.ok (by rw [← ht])

theorem accepts_keyword_iff {word s : Text} :
    accepts (keyword word) s = true ↔
      ∃ b rest, Text.isBlank b = true ∧ s = word ++ b :: rest := by
  rw [accepts_iff]
  constructor
  · rintro ⟨found, h⟩
    obtain ⟨_, b, hb, hs⟩ := keyword_eq_ok_iff.mp h
    exact ⟨b, found.rest, hb, hs⟩
  · rintro ⟨b, rest, hb, hs⟩
    exact ⟨⟨word, rest⟩, keyword_eq_ok_iff.mpr ⟨rfl, b, hb, hs⟩⟩

theorem accepts_importKeyword (s : Text) :
    accepts importKeyword s = (accepts (keyword "import") s || accepts (keyword "using") s) := by
  unfold accepts importKeyword
  cases keyword "import" s <;> rfl

theorem run_eq_ok_iff {isMember : Char → Bool} {s : Text} {found : Match} :
    run isMember s = .ok found ↔
      found.token ≠ [] ∧ (∀ c ∈ found.token, isMember c = true) ∧
        (∀ c ∈ found.rest.head?, isMember c = false) ∧ s = found.token ++ found.rest := by
  unfold run
  constructor
  · intro h
    split at h
    · cases h
    rename_i hne
    cases h
    refine ⟨hne, fun c hc => List.mem_takeWhile_imp hc, ?_, List.takeWhile_append_dropWhile.symm⟩
    intro c hc
    have hhead := List.head?_dropWhile_not isMember s
    rw [Option.mem_def.mp hc] at hhead
    simpa using hhead
  · obtain ⟨token, rest⟩ := found
    rintro ⟨hne, htoken, hrest, hs⟩
    have hdrop : s.dropWhile isMember = rest := by rw [hs, Text.dropWhile_run htoken hrest]
    have htake : s.takeWhile isMember = token := by
      have hwhole : s.takeWhile isMember ++ s.dropWhile isMember = s :=
        List.takeWhile_append_dropWhile
      rw [hdrop] at hwhole
      exact List.append_cancel_right (hwhole.trans hs)
    rw [htake, hdrop]
    split
    · exact absurd rfl hne
    · rfl

theorem notBefore_eq_ok_iff {isMember : Char → Bool} {recognizer : Recognizer} {s : Text}
    {found : Match} :
    notBefore isMember recognizer s = .ok found ↔
      recognizer s = .ok found ∧ ∀ c ∈ found.rest.head?, isMember c = false := by
  unfold notBefore
  rw [bind_eq_ok_iff]
  constructor
  · rintro ⟨start, hstart, hrest⟩
    cases hnext : start.rest with
    | nil =>
        simp only [hnext] at hrest
        cases hrest
        exact ⟨hstart, by simp [hnext]⟩
    | cons c rest =>
        simp only [hnext] at hrest
        split at hrest
        · cases hrest
        · cases hrest
          exact ⟨hstart, by simpa [hnext] using ‹¬ isMember c = true›⟩
  · rintro ⟨hfound, hrest⟩
    refine ⟨found, hfound, ?_⟩
    cases hnext : found.rest with
    | nil => rfl
    | cons c rest =>
        have hc := hrest c (by rw [hnext]; rfl)
        simp only [hc]
        rfl

/-- A declaration is the keyword `var`, one blank, and a name that no character of a word follows.
-/
theorem declaration_eq_ok_iff {s : Text} {found : Match} :
    declaration s = .ok found ↔
      found.token ≠ [] ∧ (∀ c ∈ found.token, isNameChar c = true) ∧
        (∀ c ∈ found.rest.head?, isWordChar c = false) ∧
        ∃ b, Text.isBlank b = true ∧ s = ("var" : Text) ++ b :: (found.token ++ found.rest) := by
  unfold declaration identifier
  simp only [bind_eq_ok_iff, notBefore_eq_ok_iff, run_eq_ok_iff]
  constructor
  · rintro ⟨start, hstart, ⟨hne, hname, _, hsplit⟩, hnext⟩
    obtain ⟨_, b, hb, hs⟩ := keyword_eq_ok_iff.mp hstart
    rw [hsplit] at hs
    exact ⟨hne, hname, hnext, b, hb, hs⟩
  · rintro ⟨hne, hname, hnext, b, hb, hs⟩
    refine ⟨⟨"var", found.token ++ found.rest⟩, keyword_eq_ok_iff.mpr ⟨rfl, b, hb, hs⟩,
      ⟨hne, hname, ?_, rfl⟩, hnext⟩
    intro c hc
    by_contra hmember
    have hword := isWordChar_of_isNameChar (Bool.of_not_eq_false hmember)
    rw [hnext c hc] at hword
    cases hword

theorem declaration_keyword {s : Text} {found : Match} (h : declaration s = .ok found) :
    ∃ b rest, Text.isBlank b = true ∧ s = ("var" : Text) ++ b :: rest := by
  obtain ⟨_, _, _, b, hb, hs⟩ := declaration_eq_ok_iff.mp h
  exact ⟨b, found.token ++ found.rest, hb, hs⟩

theorem isNameChar_of_declaration {s : Text} {found : Match} (h : declaration s = .ok found) :
    ∀ c ∈ found.token, isNameChar c = true := (declaration_eq_ok_iff.mp h).2.1

theorem isIdentifier_iff {s : Text} :
    isIdentifier s = true ↔ s ≠ [] ∧ ∀ c ∈ s, isNameChar c = true := by
  unfold isIdentifier
  constructor
  · intro h
    split at h
    · rename_i found hfound
      obtain ⟨hne, hname, _, hs⟩ := run_eq_ok_iff.mp hfound
      rw [List.isEmpty_iff.mp h, List.append_nil] at hs
      rw [hs]
      exact ⟨hne, hname⟩
    · cases h
  · rintro ⟨hne, hname⟩
    have hfound : identifier s = .ok ⟨s, []⟩ :=
      run_eq_ok_iff.mpr ⟨hne, hname, by simp, by simp⟩
    rw [hfound]
    rfl

theorem isNameChar_of_isIdentifier {s : Text} (h : isIdentifier s = true) :
    ∀ c ∈ s, isNameChar c = true := (isIdentifier_iff.mp h).2

/-! ### The terminator of a source -/

theorem accepts_typeQuery_terminate (s : Text) :
    accepts typeQuery (Entry.terminate s) = accepts typeQuery s := by
  rw [Bool.eq_iff_iff]
  unfold typeQuery Entry.terminate
  rw [accepts_literal_iff, accepts_literal_iff]
  split
  · exact Iff.rfl
  · rw [List.prefix_concat_iff]
    constructor
    · rintro (h | h)
      · have : typeQueryMark.getLast? = some Entry.terminator := by rw [h, List.getLast?_concat]
        exact absurd this (by decide)
      · exact h
    · exact Or.inr

/-- The blank after a keyword is never the terminator. -/
theorem accepts_keyword_terminate (word s : Text) :
    accepts (keyword word) (Entry.terminate s) = accepts (keyword word) s := by
  rw [Bool.eq_iff_iff]
  unfold Entry.terminate
  split
  · exact Iff.rfl
  · rw [accepts_keyword_iff, accepts_keyword_iff]
    constructor
    · rintro ⟨b, rest, hb, hs⟩
      rcases List.eq_nil_or_concat rest with rfl | ⟨rest, c, rfl⟩
      · obtain ⟨_, h⟩ := List.append_inj' hs rfl
        cases h
        exact absurd hb (by decide)
      · refine ⟨b, rest, hb, ?_⟩
        have : s ++ [Entry.terminator] = (word ++ b :: rest) ++ [c] := by simpa using hs
        exact (List.append_inj' this rfl).1
    · rintro ⟨b, rest, hb, rfl⟩
      exact ⟨b, rest ++ [Entry.terminator], hb, by simp⟩

theorem accepts_importKeyword_terminate (s : Text) :
    accepts importKeyword (Entry.terminate s) = accepts importKeyword s := by
  rw [accepts_importKeyword, accepts_importKeyword, accepts_keyword_terminate,
    accepts_keyword_terminate]

end HaxePrompt.Recognizer

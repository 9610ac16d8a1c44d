import HaxePrompt.Proofs.Entry.Recognized

/-! # Reading an entry

`Entry.read` takes one of four ways (`read_cases`): nothing was entered, the listing was asked
for, an import was declared, or a statement was made.  An entry with a part keeps its terminated
text as its source (`source_read`), and among these exactly the type queries are transient
(`transient_read_iff`).  The source of an entry reads as the same entry again (`read_source`),
apart from a lone identifier, which the terminator ends.  So reading normalizes an input once and
for all (`read_normalized`). -/

namespace HaxePrompt.Entry

/-! ### Terminating -/

theorem getLast?_terminate (s : Text) : (terminate s).getLast? = some terminator := by
  unfold terminate
  split
  · assumption
  · rw [List.getLast?_concat]

@[simp] theorem terminate_terminate (s : Text) : terminate (terminate s) = terminate s := by
  have h := getLast?_terminate s
  unfold terminate at h ⊢
  rw [if_pos h]

theorem terminate_ne_nil (s : Text) : terminate s ≠ [] := by
  intro h
  have := getLast?_terminate s
  rw [h] at this
  cases this

theorem terminate_eq (s : Text) : terminate s = s ∨ terminate s = s ++ [terminator] := by
  unfold terminate
  split
  · exact Or.inl rfl
  · exact Or.inr rfl

theorem prefix_terminate (s : Text) : s <+: terminate s := by
  rcases terminate_eq s with h | h
  · rw [h]
  · rw [h]
    exact List.prefix_append s _

/-- The terminator is no blank, so a source is as free of blanks at its ends as the text. -/
theorem trimmed_terminate {s : Text} (hs : Text.Trimmed s) (hne : s ≠ []) :
    Text.Trimmed (terminate s) := by
  constructor
  · intro c hc
    apply hs.head c
    obtain ⟨t, ht⟩ := prefix_terminate s
    rw [← ht, List.head?_append_of_ne_nil s hne] at hc
    exact hc
  · intro c hc
    rw [getLast?_terminate] at hc
    cases hc
    decide

/-! ### The ways of reading -/

theorem readStatement_of_ok {raw : Text} {found : Match}
    (h : Recognizer.declaration (terminate raw) = .ok found) :
    readStatement raw =
      { raw, kind := .binding, source := terminate raw, retained := some found.token,
        silent := true, transient := Recognizer.typeQuery.accepts raw } := by
  unfold readStatement
  simp only [h]

theorem readStatement_of_error {raw : Text} {miss : Miss}
    (h : Recognizer.declaration (terminate raw) = .error miss) :
    readStatement raw =
      { raw, kind := if Recognizer.typeQuery.accepts raw then .typeQuery else .expression,
        source := terminate raw,
        retained := if Recognizer.isIdentifier raw then some raw else none,
        transient := Recognizer.typeQuery.accepts raw } := by
  unfold readStatement
  simp only [h]

theorem readStatement_part? (raw : Text) : (readStatement raw).part? = some .statements := by
  cases h : Recognizer.declaration (terminate raw) with
  | ok found =>
      rw [readStatement_of_ok h]
      rfl
  | error miss =>
      rw [readStatement_of_error h]
      cases Recognizer.typeQuery.accepts raw <;> rfl

theorem readStatement_source (raw : Text) : (readStatement raw).source = terminate raw := by
  cases h : Recognizer.declaration (terminate raw) with
  | ok found => rw [readStatement_of_ok h]
  | error miss => rw [readStatement_of_error h]

theorem declaration_terminate_of_typeQuery {raw : Text}
    (h : Recognizer.typeQuery.accepts raw = true) (found : Match) :
    Recognizer.declaration (terminate raw) ≠ .ok found := by
  intro hd
  rw [← Recognizer.accepts_typeQuery_terminate] at h
  obtain ⟨rest, hq⟩ := Recognizer.accepts_literal_iff.mp h
  obtain ⟨b, rest', _, hv⟩ := Recognizer.declaration_keyword hd
  have hhead : some '$' = some 'v' := congrArg List.head? (hq.trans hv)
  exact absurd hhead (by decide)

theorem readStatement_transient_iff (raw : Text) :
    (readStatement raw).transient = true ↔ (readStatement raw).kind = .typeQuery := by
  cases h : Recognizer.declaration (terminate raw) with
  | ok found =>
      rw [readStatement_of_ok h]
      refine iff_of_false ?_ (by simp)
      intro ht
      exact declaration_terminate_of_typeQuery ht found h
  | error miss =>
      rw [readStatement_of_error h]
      cases Recognizer.typeQuery.accepts raw <;> simp

theorem read_cases (input : Text) :
    Text.trim input = [] ∧ read input = { raw := Text.trim input, kind := .empty } ∨
    Text.trim input = listingRequest ∧
      read input = { raw := Text.trim input, kind := .listing } ∨
    Text.trim input ≠ [] ∧ Recognizer.importKeyword.accepts (Text.trim input) = true ∧
      read input =
        { raw := Text.trim input, kind := .importing, source := terminate (Text.trim input) } ∨
    Text.trim input ≠ [] ∧ Text.trim input ≠ listingRequest ∧
      Recognizer.importKeyword.accepts (Text.trim input) = false ∧
      read input = readStatement (Text.trim input) := by
  unfold read
  simp only
  by_cases h₁ : Text.trim input = []
  · exact Or.inl ⟨h₁, if_pos h₁⟩
  rw [if_neg h₁]
  by_cases h₂ : Text.trim input = listingRequest
  · exact Or.inr (Or.inl ⟨h₂, if_pos h₂⟩)
  rw [if_neg h₂]
  cases h₃ : Recognizer.importKeyword.accepts (Text.trim input) with
  | true => exact Or.inr (Or.inr (Or.inl ⟨h₁, rfl, rfl⟩))
  | false => exact Or.inr (Or.inr (Or.inr ⟨h₁, h₂, rfl, rfl⟩))

/-! ### What an entry holds -/

/-- The source of an entry with a part is its terminated text, which is not empty. -/
theorem source_read {input : Text} {part : Part} (h : (read input).part? = some part) :
    Text.trim input ≠ [] ∧ (read input).source = terminate (Text.trim input) := by
  rcases read_cases input with ⟨_, hr⟩ | ⟨_, hr⟩ | ⟨hne, _, hr⟩ | ⟨hne, _, _, hr⟩
  · rw [hr] at h
    cases h
  · rw [hr] at h
    cases h
  · exact ⟨hne, by rw [hr]⟩
  · exact ⟨hne, by rw [hr, readStatement_source]⟩

theorem retained_of_imports {input : Text} (h : (read input).part? = some .imports) :
    (read input).retained = none := by
  rcases read_cases input with ⟨_, hr⟩ | ⟨_, hr⟩ | ⟨_, _, hr⟩ | ⟨_, _, _, hr⟩
  · rw [hr]
  · rw [hr]
  · rw [hr]
  · rw [hr, readStatement_part?] at h
    cases h

/-- Exactly the type queries are transient. -/
theorem transient_read_iff (input : Text) :
    (read input).transient = true ↔ (read input).kind = .typeQuery := by
  rcases read_cases input with ⟨_, hr⟩ | ⟨_, hr⟩ | ⟨_, _, hr⟩ | ⟨_, _, _, hr⟩
  · rw [hr]; simp
  · rw [hr]; simp
  · rw [hr]; simp
  · rw [hr]
    exact readStatement_transient_iff (Text.trim input)

theorem isNameChar_of_retained {input name : Text} (h : (read input).retained = some name) :
    ∀ c ∈ name, Recognizer.isNameChar c = true := by
  rcases read_cases input with ⟨_, hr⟩ | ⟨_, hr⟩ | ⟨_, _, hr⟩ | ⟨_, _, _, hr⟩
  · rw [hr] at h
    cases h
  · rw [hr] at h
    cases h
  · rw [hr] at h
    cases h
  · rw [hr] at h
    cases hd : Recognizer.declaration (terminate (Text.trim input)) with
    | ok found =>
        rw [readStatement_of_ok hd] at h
        cases h
        exact Recognizer.isNameChar_of_declaration hd
    | error miss =>
        rw [readStatement_of_error hd] at h
        simp only [Option.ite_none_right_eq_some, Option.some.injEq] at h
        rw [← h.2]
        exact Recognizer.isNameChar_of_isIdentifier h.1

theorem terminate_ne_listingRequest (s : Text) : terminate s ≠ listingRequest := by
  intro h
  have hlast := getLast?_terminate s
  rw [h] at hlast
  exact absurd hlast (by decide)

theorem isIdentifier_terminate (s : Text) : Recognizer.isIdentifier (terminate s) = false := by
  have hrest : (terminate s).dropWhile Recognizer.isNameChar ≠ [] := by
    intro h
    have hmem : terminator ∈ terminate s := List.mem_of_getLast? (getLast?_terminate s)
    exact absurd (List.dropWhile_eq_nil_iff.mp h terminator hmem) (by decide)
  unfold Recognizer.isIdentifier Recognizer.identifier Recognizer.run
  split
  · rename_i found hfound
    split at hfound
    · cases hfound
    · cases hfound
      simpa using hrest
  · rfl

theorem readStatement_terminate (raw : Text) :
    readStatement (terminate raw) =
      { readStatement raw with
        raw := terminate raw
        retained := if (readStatement raw).kind = .binding then (readStatement raw).retained
          else none } := by
  cases h : Recognizer.declaration (terminate raw) with
  | ok found =>
      have h' : Recognizer.declaration (terminate (terminate raw)) = .ok found := by
        rw [terminate_terminate, h]
      rw [readStatement_of_ok h, readStatement_of_ok h', terminate_terminate,
        Recognizer.accepts_typeQuery_terminate]
      rfl
  | error miss =>
      have h' : Recognizer.declaration (terminate (terminate raw)) = .error miss := by
        rw [terminate_terminate, h]
      rw [readStatement_of_error h, readStatement_of_error h', terminate_terminate,
        Recognizer.accepts_typeQuery_terminate, isIdentifier_terminate]
      cases Recognizer.typeQuery.accepts raw <;> rfl

/-- A source reads as the entry that it is the source of.  Only the identifier that a lone name
retains is lost, since the name is now terminated. -/
theorem read_source {input : Text} {part : Part} (h : (read input).part? = some part) :
    read (read input).source =
      { read input with
        raw := (read input).source
        retained := if (read input).kind = .binding then (read input).retained else none } := by
  obtain ⟨hne, hsource⟩ := source_read h
  have htrim : Text.trim (terminate (Text.trim input)) = terminate (Text.trim input) :=
    Text.trim_eq_self (trimmed_terminate (Text.trimmed_trim input) hne)
  have hagain := read_cases (terminate (Text.trim input))
  rw [htrim, terminate_terminate, Recognizer.accepts_importKeyword_terminate] at hagain
  rw [hsource]
  rcases read_cases input with ⟨_, hr⟩ | ⟨_, hr⟩ | ⟨_, himport, hr⟩ | ⟨_, _, himport, hr⟩
  · rw [hr] at h
    cases h
  · rw [hr] at h
    cases h
  all_goals
    rcases hagain with ⟨hnil, _⟩ | ⟨hlisting, _⟩ | ⟨_, himport', hr'⟩ | ⟨_, _, himport', hr'⟩
    · exact absurd hnil (terminate_ne_nil _)
    · exact absurd hlisting (terminate_ne_listingRequest _)
  · rw [hr, hr']
    rfl
  · rw [himport] at himport'
    cases himport'
  · rw [himport] at himport'
    cases himport'
  · rw [hr, hr', readStatement_terminate]

theorem trim_of_part?_eq_none {input : Text} (h : (read input).part? = none) :
    Text.trim input = [] ∨ Text.trim input = listingRequest := by
  rcases read_cases input with ⟨hnil, _⟩ | ⟨hlisting, _⟩ | ⟨_, _, hr⟩ | ⟨_, _, _, hr⟩
  · exact Or.inl hnil
  · exact Or.inr hlisting
  · rw [hr] at h
    cases h
  · rw [hr, readStatement_part?] at h
    cases h

/-- Only an entry without a part is changed in its kind by a terminator, and it becomes an
expression. -/
theorem kind_read_terminate (input : Text) :
    (read (terminate (Text.trim input))).kind =
      if (read input).part?.isSome then (read input).kind else .expression := by
  cases hpart : (read input).part? with
  | none =>
      have hnothing : (read (terminate [])).kind = .expression := by decide +kernel
      have hlisting : (read (terminate listingRequest)).kind = .expression := by decide +kernel
      rcases trim_of_part?_eq_none hpart with h | h
      · rw [h]
        exact hnothing
      · rw [h]
        exact hlisting
  | some part =>
      rw [← (source_read hpart).2, read_source hpart]
      rfl

/-- **An input is normalized once and for all.**  Blanks around it make no difference.  The source
of an entry reads as an entry that agrees with it in all that is kept of it, and in the name that a
declaration retains.  And the terminator makes nothing an import declaration, a request for the
listing or a type query that was none before. -/
theorem read_normalized (input : Text) :
    (∀ before after : Text, (∀ c ∈ before, Text.isBlank c = true) →
      (∀ c ∈ after, Text.isBlank c = true) → read (before ++ input ++ after) = read input) ∧
    (∀ part, (read input).part? = some part →
      let again := read (read input).source
      again.kind = (read input).kind ∧ again.source = (read input).source ∧
        again.part? = some part ∧ again.silent = (read input).silent ∧
        again.transient = (read input).transient ∧
        ((read input).kind = .binding → again.retained = (read input).retained)) ∧
    ∀ kind ∈ [Kind.importing, .listing, .typeQuery],
      (read (terminate (Text.trim input))).kind = kind → (read input).kind = kind := by
  refine ⟨?_, ?_, ?_⟩
  · intro before after hbefore hafter
    unfold read
    rw [Text.trim_append_blanks hbefore hafter]
  · intro part hpart again
    have hagain : again = _ := read_source hpart
    rw [hagain]
    exact ⟨rfl, rfl, hpart, rfl, rfl, fun hbinding => if_pos hbinding⟩
  · intro kind hkind hterminated
    rw [kind_read_terminate] at hterminated
    split at hterminated
    · exact hterminated
    · rw [← hterminated] at hkind
      exact absurd hkind (by decide)

/-- A declaration between blanks, read again from its source, and an import declaration with its
terminator. -/
theorem read_normalized_declaration :
    read ("\u2003\t" ++ "var x = '$'" ++ "\n" : Text) = read "var x = '$'" ∧
      (read (read "var x = '$'").source).retained = some "x" ∧
      (read (terminate (Text.trim "using a.B "))).kind = .importing ∧
      (read "using a.B ").kind = .importing := by
  obtain ⟨hblanks, hagain, _⟩ := read_normalized "var x = '$'"
  obtain ⟨_, _, _, _, _, hretained⟩ := hagain .statements (by decide +kernel)
  have himport : (read (terminate (Text.trim "using a.B "))).kind = .importing := by
    decide +kernel
  refine ⟨hblanks "\u2003\t" "\n" (List.all_eq_true.mp (by decide +kernel))
    (List.all_eq_true.mp (by decide +kernel)), ?_, himport, ?_⟩
  · rw [hretained (by decide +kernel)]
    decide +kernel
  · exact (read_normalized "using a.B ").2.2 .importing (by decide) himport

end HaxePrompt.Entry

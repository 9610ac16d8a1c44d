import HaxePrompt.Proofs.Entry.Reading

/-! # The grammar of entries

Said of the text alone, an import declaration is a keyword with a blank right behind it
(`BeginsImport`), and a declaration of a variable is the keyword `var`, one blank and a name that
ends where the word ends (`Declares`).  `WellFormed raw entry` says how an entry hangs together with
its text: which text is of which kind, what the source is, and what is retained, which is always a
whole word of the source (`IsWordOf`).

Every entry that is read is well formed (`wellFormed_read`).  The kinds exclude each other by the
character that their texts begin with. -/

namespace HaxePrompt.Entry

/-- The text begins as an import declaration. -/
def BeginsImport (raw : Text) : Prop :=
  ∃ keyword ∈ (["import", "using"] : List Text), ∃ blank rest,
    Text.isBlank blank = true ∧ raw = keyword ++ blank :: rest

/-- The text is a name: name characters, and at least one. -/
def IsName (name : Text) : Prop := name ≠ [] ∧ ∀ c ∈ name, Recognizer.isNameChar c = true

/-- The source declares the name: the keyword `var`, one blank, and the name, which the next
character does not go on. -/
def Declares (source name : Text) : Prop :=
  IsName name ∧ ∃ blank next rest, Text.isBlank blank = true ∧
    Recognizer.isWordChar next = false ∧ source = ("var" : Text) ++ blank :: (name ++ next :: rest)

/-- The name stands in the source as a whole word. -/
def IsWordOf (source name : Text) : Prop :=
  ∃ before next rest, (∀ c ∈ before.getLast?, Recognizer.isWordChar c = false) ∧
    Recognizer.isWordChar next = false ∧ source = before ++ (name ++ next :: rest)

/-- How an entry hangs together with the text that it was read from. -/
structure WellFormed (raw : Text) (entry : Entry) : Prop where
  raw_eq : entry.raw = raw
  partless : entry.part? = none ↔ raw = [] ∨ raw = ("$" : Text)
  bare : entry.part? = none → entry.source = [] ∧ entry.retained = none
  /-- The source of any other entry is the text, ended by one `;` if it does not end in one. -/
  source_eq : entry.part? ≠ none →
    entry.source = if raw.getLast? = some ';' then raw else raw ++ [';']
  importing : entry.kind = .importing ↔ BeginsImport raw
  unnamed : entry.kind = .importing → entry.retained = none
  binding : entry.kind = .binding ↔ ∃ name, Declares entry.source name
  silent : entry.silent = true ↔ entry.kind = .binding
  /-- They retain the name that they declare. -/
  declared : ∀ name, Declares entry.source name → entry.retained = some name
  typeQuery : entry.kind = .typeQuery ↔ ("$type(" : Text) <+: raw
  transient : entry.transient = true ↔ entry.kind = .typeQuery
  /-- Any entry but a declaration retains its text if that is a name, and else nothing. -/
  lone : entry.part? ≠ none → entry.kind ≠ .binding →
    entry.retained = if raw.all Recognizer.isNameChar then some raw else none
  /-- What is retained is a name, and no part of a longer word. -/
  whole : ∀ name, entry.retained = some name → IsName name ∧ IsWordOf entry.source name

/-! ### The first characters -/

theorem head?_terminate {s : Text} (hne : s ≠ []) : (terminate s).head? = s.head? := by
  obtain ⟨t, ht⟩ := prefix_terminate s
  rw [← ht, List.head?_append_of_ne_nil s hne]

theorem BeginsImport.head? {raw : Text} (h : BeginsImport raw) :
    raw.head? = some 'i' ∨ raw.head? = some 'u' := by
  obtain ⟨keyword, hkeyword, blank, rest, _, rfl⟩ := h
  rcases List.mem_pair.mp hkeyword with rfl | rfl
  · exact Or.inl rfl
  · exact Or.inr rfl

theorem Declares.head? {source name : Text} (h : Declares source name) :
    source.head? = some 'v' := by
  obtain ⟨_, blank, next, rest, _, _, rfl⟩ := h
  rfl

theorem head?_of_typeQuery {raw : Text} (h : ("$type(" : Text) <+: raw) :
    raw.head? = some '$' := by
  obtain ⟨rest, rfl⟩ := h
  rfl

theorem BeginsImport.not_declares {raw name : Text} (h : BeginsImport raw) :
    ¬ Declares (terminate raw) name := by
  intro hdeclares
  have hne : raw ≠ [] := by
    rintro rfl
    rcases h.head? with h | h <;> cases h
  have hhead := hdeclares.head?
  rw [head?_terminate hne] at hhead
  rcases h.head? with h | h <;> rw [h] at hhead <;> exact absurd hhead (by decide)

/-! ### What is recognized -/

theorem accepts_importKeyword_iff {raw : Text} :
    Recognizer.importKeyword.accepts raw = true ↔ BeginsImport raw := by
  rw [Recognizer.accepts_importKeyword, Bool.or_eq_true, Recognizer.accepts_keyword_iff,
    Recognizer.accepts_keyword_iff]
  constructor
  · rintro (h | h)
    · exact ⟨"import", by simp, h⟩
    · exact ⟨"using", by simp, h⟩
  · rintro ⟨keyword, hkeyword, h⟩
    rcases List.mem_pair.mp hkeyword with rfl | rfl
    · exact Or.inl h
    · exact Or.inr h

theorem declares_of_declaration {raw : Text} {found : Match}
    (h : Recognizer.declaration (terminate raw) = .ok found) :
    Declares (terminate raw) found.token := by
  obtain ⟨hne, hname, hnext, blank, hblank, hs⟩ := Recognizer.declaration_eq_ok_iff.mp h
  refine ⟨⟨hne, hname⟩, blank, ?_⟩
  cases hrest : found.rest with
  | nil =>
      -- the terminator is no name character, so it stands behind the name
      have hlast := getLast?_terminate raw
      have hend : terminate raw = ("var" : Text) ++ [blank] ++ found.token := by
        rw [hs, hrest]
        simp
      rw [hend, List.getLast?_append_of_ne_nil _ hne] at hlast
      exact absurd (hname _ (List.mem_of_getLast? hlast)) (by decide)
  | cons next rest =>
      exact ⟨next, rest, hblank, hnext next (by rw [hrest]; rfl), by rw [hs, hrest]⟩

theorem Declares.declaration {source name : Text} (h : Declares source name) :
    ∃ found, Recognizer.declaration source = .ok found ∧ found.token = name := by
  obtain ⟨⟨hne, hname⟩, blank, next, rest, hblank, hnext, hs⟩ := h
  refine ⟨⟨name, next :: rest⟩, Recognizer.declaration_eq_ok_iff.mpr
    ⟨hne, hname, ?_, blank, hblank, hs⟩, rfl⟩
  rintro c ⟨⟩
  exact hnext

theorem Declares.isWordOf {source name : Text} (h : Declares source name) :
    IsWordOf source name := by
  obtain ⟨_, blank, next, rest, hblank, hnext, hs⟩ := h
  refine ⟨("var" : Text) ++ [blank], next, rest, ?_, hnext, by rw [hs]; simp⟩
  intro c hc
  rw [List.getLast?_concat] at hc
  cases hc
  exact Recognizer.not_isWordChar_of_isBlank hblank

/-- A lone name is a whole word of its source, since the terminator stands behind it. -/
theorem IsName.isWordOf_terminate {raw : Text} (h : IsName raw) :
    IsWordOf (terminate raw) raw := by
  refine ⟨[], terminator, [], by simp, by decide +kernel, ?_⟩
  rcases terminate_eq raw with hsame | hended
  · have hlast := getLast?_terminate raw
    rw [hsame] at hlast
    exact absurd (h.2 _ (List.mem_of_getLast? hlast)) (by decide)
  · rw [hended, List.nil_append]

/-! ### The ways of reading, one by one -/

section Ways

variable {raw : Text}

theorem wellFormed_bare {kind : Kind} (hraw : raw = [] ∨ raw = ("$" : Text))
    (hkind : kind.part? = none) : WellFormed raw { raw, kind } where
  raw_eq := rfl
  partless := iff_of_true hkind hraw
  bare _ := ⟨rfl, rfl⟩
  source_eq h := absurd hkind h
  importing := by
    refine iff_of_false (by rintro ⟨⟩; cases hkind) fun h => ?_
    rcases hraw with rfl | rfl <;> rcases h.head? with h | h <;> exact absurd h (by decide)
  unnamed _ := rfl
  binding := iff_of_false (by rintro ⟨⟩; cases hkind) fun ⟨_, h⟩ => by cases h.head?
  silent := iff_of_false (by simp) (by rintro ⟨⟩; cases hkind)
  declared _ h := by cases h.head?
  typeQuery := by
    refine iff_of_false (by rintro ⟨⟩; cases hkind) ?_
    rcases hraw with rfl | rfl <;> decide
  transient := iff_of_false (by simp) (by rintro ⟨⟩; cases hkind)
  lone h := absurd hkind h
  whole _ h := by cases h

theorem wellFormed_import (h : BeginsImport raw) :
    WellFormed raw { raw, kind := .importing, source := terminate raw } where
  raw_eq := rfl
  partless := by
    refine iff_of_false (by rintro ⟨⟩) ?_
    rintro (rfl | rfl) <;> rcases h.head? with h | h <;> exact absurd h (by decide)
  bare := by rintro ⟨⟩
  source_eq _ := rfl
  importing := iff_of_true rfl h
  unnamed _ := rfl
  binding := iff_of_false (by simp) fun ⟨_, hdeclares⟩ => h.not_declares hdeclares
  silent := by simp
  declared _ hdeclares := absurd hdeclares h.not_declares
  typeQuery := by
    refine iff_of_false (by simp) fun hquery => ?_
    have hhead := head?_of_typeQuery hquery
    rcases h.head? with h | h <;> rw [h] at hhead <;> exact absurd hhead (by decide)
  transient := by simp
  lone _ _ := by
    obtain ⟨keyword, _, blank, rest, hblank, rfl⟩ := h
    rw [if_neg]
    intro hname
    have hword := Recognizer.isWordChar_of_isNameChar
      (List.all_eq_true.mp hname blank (List.mem_append_right _ List.mem_cons_self))
    rw [Recognizer.not_isWordChar_of_isBlank hblank] at hword
    cases hword
  whole _ h := by cases h

theorem wellFormed_declaration {found : Match}
    (h : Recognizer.declaration (terminate raw) = .ok found) (hne : raw ≠ []) :
    WellFormed raw (readStatement raw) := by
  have hdeclares := declares_of_declaration h
  have hhead : raw.head? = some 'v' := by rw [← head?_terminate hne, hdeclares.head?]
  have hquery : ¬ ("$type(" : Text) <+: raw := fun hquery => by
    rw [head?_of_typeQuery hquery] at hhead
    exact absurd hhead (by decide)
  have htransient : Recognizer.typeQuery.accepts raw = false := by
    rw [Bool.eq_false_iff]
    exact fun hquery' => hquery (Recognizer.accepts_literal_iff.mp hquery')
  rw [readStatement_of_ok h, htransient]
  exact {
    raw_eq := rfl
    partless := by
      refine iff_of_false (by rintro ⟨⟩) ?_
      rintro (rfl | rfl) <;> exact absurd hhead (by decide)
    bare := by rintro ⟨⟩
    source_eq := fun _ => rfl
    importing := by
      refine iff_of_false (by simp) fun himport => ?_
      exact himport.not_declares hdeclares
    unnamed := by rintro ⟨⟩
    binding := iff_of_true rfl ⟨found.token, hdeclares⟩
    silent := by simp
    declared := by
      intro name hname
      obtain ⟨found', hfound', rfl⟩ := hname.declaration
      rw [h] at hfound'
      cases hfound'
      rfl
    typeQuery := iff_of_false (by simp) hquery
    transient := by simp
    lone := fun _ hbinding => absurd rfl hbinding
    whole := by
      rintro name ⟨⟩
      exact ⟨hdeclares.1, hdeclares.isWordOf⟩ }

theorem wellFormed_statement {miss : Miss}
    (h : Recognizer.declaration (terminate raw) = .error miss) (hne : raw ≠ [])
    (hlisting : raw ≠ listingRequest) (himport : ¬ BeginsImport raw) :
    WellFormed raw (readStatement raw) := by
  have hdeclares : ∀ name, ¬ Declares (terminate raw) name := fun name hname => by
    obtain ⟨found, hfound, _⟩ := hname.declaration
    rw [h] at hfound
    cases hfound
  have hretained : (if Recognizer.isIdentifier raw then some raw else none) =
      if raw.all Recognizer.isNameChar then some raw else none :=
    if_congr ((Recognizer.isIdentifier_iff.trans (and_iff_right hne)).trans List.all_eq_true.symm)
      rfl rfl
  have hquery : Recognizer.typeQuery.accepts raw = true ↔ ("$type(" : Text) <+: raw :=
    Recognizer.accepts_literal_iff
  have hpart := readStatement_part? raw
  rw [readStatement_of_error h, hretained] at hpart ⊢
  exact {
    raw_eq := rfl
    partless := iff_of_false (by rw [hpart]; simp) (by rintro (h | h); exacts [hne h, hlisting h])
    bare := fun hnone => absurd (hpart.symm.trans hnone) (by simp)
    source_eq := fun _ => rfl
    importing := by
      refine iff_of_false ?_ himport
      simp only
      split <;> simp
    unnamed := by
      simp only
      split <;> rintro ⟨⟩
    binding := by
      refine iff_of_false ?_ fun ⟨name, hname⟩ => hdeclares name hname
      simp only
      split <;> simp
    silent := by
      refine iff_of_false (by simp) ?_
      simp only
      split <;> simp
    declared := fun name hname => absurd hname (hdeclares name)
    typeQuery := by
      rw [← hquery]
      simp
    transient := by simp
    lone := fun _ _ => rfl
    whole := by
      intro name hname
      simp only [Option.ite_none_right_eq_some, Option.some.injEq] at hname
      obtain ⟨hall, rfl⟩ := hname
      have hisName : IsName raw := ⟨hne, List.all_eq_true.mp hall⟩
      exact ⟨hisName, hisName.isWordOf_terminate⟩ }

end Ways

/-- **Every entry is well formed.**  What is read of an input is an entry of its trimmed text as the
grammar says: its kind, its source, whether it is silent or transient, and the name that it retains,
which is a whole word of its source. -/
theorem wellFormed_read (input : Text) : WellFormed (Text.trim input) (read input) := by
  rcases read_cases input with ⟨hnil, hr⟩ | ⟨hlisting, hr⟩ | ⟨_, himport, hr⟩ |
    ⟨hne, hlisting, himport, hr⟩
  · rw [hr]
    exact wellFormed_bare (Or.inl hnil) rfl
  · rw [hr]
    exact wellFormed_bare (Or.inr hlisting) rfl
  · rw [hr]
    exact wellFormed_import (accepts_importKeyword_iff.mp himport)
  · rw [hr]
    cases h : Recognizer.declaration (terminate (Text.trim input)) with
    | ok found => exact wellFormed_declaration h hne
    | error miss =>
        refine wellFormed_statement h hne hlisting fun hbegins => ?_
        rw [accepts_importKeyword_iff.mpr hbegins] at himport
        cases himport

/-- A name with capitals is no declaration of its first letters. -/
example : (read "var myVar").retained = none ∧ (read "var my_var").retained = some "my_var" := by
  decide +kernel

end HaxePrompt.Entry

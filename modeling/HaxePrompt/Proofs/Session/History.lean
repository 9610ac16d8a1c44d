import HaxePrompt.History
import HaxePrompt.Proofs.Entry.Reading

/-! # What a turn does to the history

A rollback undoes a staging (`rollback_stage`).  So a turn that gave its result leaves the history
that `History.keep` describes: the source of an import declaration is added to the imports, and
that of any other entry, type queries apart, to the statements (`get_keep`).  What holds of every
source stays so if it holds of the entries that are kept (`All.keep`). -/

namespace HaxePrompt

namespace History

@[ext] theorem ext {one two : History} (himports : one.imports = two.imports)
    (hstatements : one.statements = two.statements) : one = two := by
  cases one
  cases two
  simp only at himports hstatements
  rw [himports, hstatements]

theorem ext_get {one two : History} (h : ∀ part, one.get part = two.get part) : one = two :=
  ext (h .imports) (h .statements)

@[simp] theorem get_set (history : History) (part : Part) (sources : List Text) :
    (history.set part sources).get part = sources := by
  cases part <;> rfl

@[simp] theorem set_set (history : History) (part : Part) (sources others : List Text) :
    (history.set part sources).set part others = history.set part others := by
  cases part <;> rfl

@[simp] theorem set_get (history : History) (part : Part) :
    history.set part (history.get part) = history := by
  cases part <;> rfl

/-- A rollback takes away what was staged, and nothing else. -/
@[simp] theorem rollback_stage (history : History) (entry : Entry) :
    (history.stage entry).rollback entry = history := by
  unfold stage rollback
  cases entry.part? with
  | none => rfl
  | some part => simp

/-- The history after a turn that gave its result. -/
def keep (history : History) (entry : Entry) : History :=
  if entry.transient then history else history.stage entry

theorem commit_stage (history : History) (entry : Entry) :
    (history.stage entry).commit entry = history.keep entry := by
  unfold commit keep
  rw [rollback_stage]

theorem get_stage {history : History} {entry : Entry} {staged : Part}
    (hp : entry.part? = some staged) (part : Part) :
    (history.stage entry).get part =
      history.get part ++ if part = staged then [entry.source] else [] := by
  unfold stage
  rw [hp]
  cases part <;> cases staged <;> simp [get, set]

/-! ### Keeping -/

/-- The kinds of the entries that a part keeps. -/
def keptKinds : Part → List Entry.Kind
  | .imports => [.importing]
  | .statements => [.binding, .expression]

theorem part?_eq_some_iff {input : Text} (h : (Entry.read input).transient = false)
    (part : Part) :
    (Entry.read input).part? = some part ↔ (Entry.read input).kind ∈ keptKinds part := by
  have hquery : (Entry.read input).kind ≠ .typeQuery := by
    intro hk
    rw [(Entry.transient_read_iff input).mpr hk] at h
    cases h
  unfold Entry.part?
  cases hk : (Entry.read input).kind with
  | typeQuery => exact absurd hk hquery
  | _ => cases part <;> decide

theorem typeQuery_not_mem_keptKinds (part : Part) : Entry.Kind.typeQuery ∉ keptKinds part := by
  cases part <;> decide

/-- Each part grows by the sources of entries of its kinds. -/
theorem get_keep (history : History) (input : Text) (part : Part) :
    (history.keep (Entry.read input)).get part = history.get part ++
      if (Entry.read input).kind ∈ keptKinds part then [(Entry.read input).source] else [] := by
  unfold keep
  cases ht : (Entry.read input).transient with
  | true =>
      rw [if_pos rfl, (Entry.transient_read_iff input).mp ht,
        if_neg (typeQuery_not_mem_keptKinds part), List.append_nil]
  | false =>
      rw [if_neg Bool.false_ne_true]
      cases hp : (Entry.read input).part? with
      | none =>
          have hnot : ¬ (Entry.read input).kind ∈ keptKinds part := by
            rw [← part?_eq_some_iff ht, hp]
            exact Option.some_ne_none part ∘ Eq.symm
          have hstage : history.stage (Entry.read input) = history := by
            unfold stage
            rw [hp]
          rw [if_neg hnot, List.append_nil, hstage]
      | some staged =>
          have hmem : (Entry.read input).kind ∈ keptKinds part ↔ part = staged := by
            rw [← part?_eq_some_iff ht, hp, Option.some_inj, eq_comm]
          rw [get_stage hp]
          simp only [hmem]

/-- Entries of the other kinds leave no trace even when they give their result. -/
theorem keep_eq_self {history : History} {input : Text}
    (h : ∀ part, (Entry.read input).kind ∉ keptKinds part) :
    history.keep (Entry.read input) = history := by
  apply ext_get
  intro part
  rw [get_keep, if_neg (h part), List.append_nil]

/-! ### What holds of all sources -/

/-- A property holds of every source in its part. -/
def All (P : Part → Text → Prop) (history : History) : Prop :=
  ∀ part, ∀ source ∈ history.get part, P part source

theorem all_empty (P : Part → Text → Prop) : All P {} := by
  intro part source hsource
  cases part <;> cases hsource

theorem All.keep {P : Part → Text → Prop} {history : History} {entry : Entry} (h : All P history)
    (hentry : ∀ part, entry.part? = some part → entry.transient = false → P part entry.source) :
    All P (history.keep entry) := by
  unfold History.keep
  split
  · exact h
  · rename_i htransient
    cases hp : entry.part? with
    | none =>
        unfold stage
        rw [hp]
        exact h
    | some staged =>
        intro part source hsource
        rw [get_stage hp] at hsource
        rcases List.mem_append.mp hsource with hsource | hsource
        · exact h part source hsource
        · split at hsource
          · rename_i heq
            rw [List.mem_singleton.mp hsource, heq]
            exact hentry staged hp (Bool.eq_false_iff.mpr htransient)
          · cases hsource

/-- All sources, in the order in which they are run. -/
def sources (history : History) : List Text := history.imports ++ history.statements

end History

end HaxePrompt

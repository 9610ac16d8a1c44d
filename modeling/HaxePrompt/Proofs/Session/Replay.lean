import HaxePrompt.Proofs.Entry.Script
import HaxePrompt.Proofs.Turn.Course

/-! # Sources that can be entered again

A source replays (`Replays`) when it is a block of a script and reads as an entry with the same
source, kept in the same part.  The sources of entries that were blocks do (`replays_source`), so
a session with such inputs has a history of sources that replay (`TurnsTo.replayable`).

With a toolchain that accepts everything (`Toolchain.Accepts`) every entry with a part gives its
result (`TurnsTo.isValue_of_accepts`), and staging sources that replay adds just these sources to
their part (`foldl_stage`). -/

namespace HaxePrompt

/-- The source is one input of a script and is kept in the part as it is. -/
structure Replays (part : Part) (source : Text) : Prop where
  block : Script.IsBlock source
  belongs : (Entry.read source).part? = some part
  own : (Entry.read source).source = source
  kept : (Entry.read source).transient = false

/-- The source of an entry that is kept replays, if its input was a block. -/
theorem replays_source {input : Text} (h : Script.IsBlock input) {part : Part}
    (hp : (Entry.read input).part? = some part) (hk : (Entry.read input).transient = false) :
    Replays part (Entry.read input).source := by
  have hread := Entry.read_source hp
  refine ⟨Script.isBlock_source h hp, ?_, ?_, ?_⟩
  · rw [hread]
    exact hp
  · rw [hread]
  · rw [hread]
    exact hk

/-! ### Histories -/

namespace History

/-- All sources replay. -/
def Replayable (history : History) : Prop := history.All Replays

theorem foldl_stage {part : Part} {sources : List Text} (h : ∀ s ∈ sources, Replays part s)
    (history : History) :
    sources.foldl (fun history source => history.stage (Entry.read source)) history =
      history.set part (history.get part ++ sources) := by
  induction sources generalizing history with
  | nil => rw [List.foldl_nil, List.append_nil, set_get]
  | cons source rest ih =>
      have hsource := h source List.mem_cons_self
      have hstage : history.stage (Entry.read source) =
          history.set part (history.get part ++ [source]) := by
        unfold stage
        rw [hsource.belongs, hsource.own]
      rw [List.foldl_cons, ih fun s hs => h s (List.mem_cons_of_mem source hs), hstage, set_set,
        get_set, List.append_assoc, List.singleton_append]

theorem foldl_stage_sources {history : History} (h : history.Replayable) :
    history.sources.foldl (fun history source => history.stage (Entry.read source)) {} =
      history := by
  have hparts : history.sources = history.get .imports ++ history.get .statements := rfl
  rw [hparts, List.foldl_append, foldl_stage (h .imports), foldl_stage (h .statements)]
  rfl

end History

/-- The toolchain accepts every program, with the newest code to be found in its output, and
every code. -/
structure Toolchain.Accepts {σ : Type} (tools : Toolchain σ) : Prop where
  compiles : ∀ source s, ∃ compiled, ((tools.compile source).run s).value = .ok compiled ∧
    ∀ part, ∃ code, Delta.extract part compiled.output = .ok code
  evaluates : ∀ code s, ∃ value, ((tools.evaluate code).run s).value = .ok value

namespace Engine

variable {σ : Type} {tools : Toolchain σ} {before after : Engine σ} {calls : List Call}
  {answer : Answer}

/-- A turn keeps a history replayable, if its input is a block. -/
theorem TurnsTo.replayable {input : Text}
    (h : TurnsTo tools (Entry.read input) before calls answer after)
    (hinput : Script.IsBlock input) (hbefore : before.history.Replayable) :
    after.history.Replayable := by
  refine h.all ?_ hbefore
  intro part hp htransient
  exact replays_source hinput hp htransient

/-- A toolchain that accepts everything makes every entry with a part give its result. -/
theorem TurnsTo.isValue_of_accepts {entry : Entry}
    (h : TurnsTo tools entry before calls answer after) (haccepts : tools.Accepts) {part : Part}
    (hpart : entry.part? = some part) : answer.isValue = true := by
  obtain ⟨compiled, hcompiled, hextract⟩ := haccepts.compiles (before.program entry) before.tools
  change (compileStep tools before entry).value = .ok compiled at hcompiled
  cases h with
  | skip hp hk =>
      rw [hpart] at hp
      cases hp
  | list hp hk =>
      rw [hpart] at hp
      cases hp
  | refuse hp hc =>
      rw [hcompiled] at hc
      cases hc
  | @lose part _ _ hp hc hx =>
      rw [hcompiled] at hc
      cases hc
      obtain ⟨code, hcode⟩ := hextract part
      rw [hcode] at hx
      cases hx
  | fail hp hc hx he =>
      obtain ⟨value, hvalue⟩ := haccepts.evaluates _ (compileStep tools before entry).state
      rw [hvalue] at he
      cases he
  | succeed hp hc hx he => rfl

theorem TurnsTo.replay {source : Text}
    (h : TurnsTo tools (Entry.read source) before calls answer after) (haccepts : tools.Accepts)
    {part : Part} (hreplays : Replays part source) :
    answer.isValue = true ∧ after.history = before.history.stage (Entry.read source) := by
  have hvalue := h.isValue_of_accepts haccepts hreplays.belongs
  refine ⟨hvalue, ?_⟩
  rw [h.history, if_pos hvalue, History.keep, if_neg (by simp [hreplays.kept])]

end Engine

end HaxePrompt

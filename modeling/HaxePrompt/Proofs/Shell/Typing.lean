import HaxePrompt.Proofs.Entry.Script
import HaxePrompt.Proofs.Session.Requests
import HaxePrompt.Shell.Loop

/-! # Typing a script

Two loops join lines to inputs: that of the prompt (`Dialogue.moves`), which keeps the pending
lines as a text, and that of loading (`Script.blocksFrom`), which keeps them as a block and passes
over blank lines between two inputs, where the prompt evaluates them.  Of lines that are neither
commands nor comments (`AllOrdinary`) they make the same inputs (`blocks_eq_typed`): only an input
that is not finished at the end is loaded but not evaluated at the prompt.

What is pending after a line is `carry` of what was pending before it, and the input that the line
finishes is `finished`.  One line takes both loops along `carry`, and each of them gives what
`finished` says (`evaluated_line`, `texts_line`). -/

namespace HaxePrompt

/-- The input that a move evaluates, if it evaluates one. -/
def Move.evaluated? : Move → Option Text
  | .evaluate input => some input
  | _ => none

namespace Dialogue

variable {pending line : Text} {lines : List Text}

def evaluated (ms : List Move) : List Text := ms.filterMap Move.evaluated?

/-- The texts that are more than blanks. -/
def filled (texts : List Text) : List Text := texts.filter (Text.trim · ≠ [])

theorem filled_append (texts rest : List Text) :
    filled (texts ++ rest) = filled texts ++ filled rest := List.filter_append ..

/-! ### What is pending -/

/-- What is pending after a line that is no command. -/
def carry (pending line : Text) : Text :=
  if Delimiters.isUnclosed (extend pending line) then extend pending line else []

/-- The input that a line finishes, if it finishes one. -/
def finished (pending line : Text) : List Text :=
  if Delimiters.isUnclosed (extend pending line) then [] else [extend pending line]

/-- Nothing is pending, or something is open in it. -/
def IsPending (pending : Text) : Prop := pending ≠ [] → Delimiters.isUnclosed pending = true

theorem isPending_nil : IsPending [] := fun h => absurd rfl h

theorem isPending_carry (pending line : Text) : IsPending (carry pending line) := by
  unfold carry
  split
  · rename_i hopen
    exact fun _ => hopen
  · exact isPending_nil

theorem trim_ne_nil_of_isUnclosed {s : Text} (h : Delimiters.isUnclosed s = true) :
    Text.trim s ≠ [] := by
  intro hnil
  rw [Delimiters.isUnclosed_of_blanks (Text.trim_eq_nil_iff.mp hnil)] at h
  cases h

theorem trim_extend_ne_nil (hp : IsPending pending) (hne : pending ≠ []) (line : Text) :
    Text.trim (extend pending line) ≠ [] := by
  intro hnil
  unfold extend at hnil
  rw [if_neg hne, Text.trim_eq_nil_iff] at hnil
  apply trim_ne_nil_of_isUnclosed (hp hne)
  rw [Text.trim_eq_nil_iff]
  intro c hc
  exact hnil c (List.mem_append_left _ (List.mem_append_left _ hc))

/-! ### Lines that are parts of inputs -/

/-- The line is part of an input: at a fresh prompt it is neither a command nor a comment, and
pending lines are not dropped by it. -/
structure IsOrdinary (pending line : Text) : Prop where
  noCommand : pending = [] → Command.parse line = .ok none
  noComment : pending = [] → ¬ Script.slashes <+: Text.trim line
  noBreak : pending ≠ [] → Text.trim line ≠ breakLine

/-- Each of the lines is part of an input when those before it have been read. -/
def AllOrdinary : Text → List Text → Prop
  | _, [] => True
  | pending, line :: rest => IsOrdinary pending line ∧ AllOrdinary (carry pending line) rest

instance decidableEqOkNone {ε α : Type} :
    (result : Except ε (Option α)) → Decidable (result = .ok none)
  | .ok none => isTrue rfl
  | .ok (some _) => isFalse nofun
  | .error _ => isFalse nofun

instance (pending line : Text) : Decidable (IsOrdinary pending line) :=
  decidable_of_iff
    ((pending = [] → Command.parse line = .ok none) ∧
      (pending = [] → ¬ Script.slashes <+: Text.trim line) ∧
      (pending ≠ [] → Text.trim line ≠ breakLine))
    ⟨fun ⟨hcommand, hcomment, hbreak⟩ => ⟨hcommand, hcomment, hbreak⟩,
      fun ⟨hcommand, hcomment, hbreak⟩ => ⟨hcommand, hcomment, hbreak⟩⟩

instance decidableAllOrdinary : (pending : Text) → (lines : List Text) →
    Decidable (AllOrdinary pending lines)
  | _, [] => isTrue trivial
  | pending, line :: rest =>
    have := decidableAllOrdinary (carry pending line) rest
    inferInstanceAs (Decidable (_ ∧ _))

theorem AllOrdinary.of_append {rest : List Text} (h : AllOrdinary pending (lines ++ rest)) :
    AllOrdinary pending lines := by
  induction lines generalizing pending with
  | nil => trivial
  | cons line lines ih => exact ⟨h.1, ih h.2⟩

theorem IsOrdinary.commandOf (h : IsOrdinary pending line) :
    commandOf pending line = .ok none := by
  unfold Dialogue.commandOf
  split
  · rename_i hnil
    exact h.noCommand hnil
  · rename_i hne
    rw [if_neg (h.noBreak hne)]

/-! ### The prompt -/

/-- At the prompt a line that is part of an input goes to the pending lines, and an input that is
finished is evaluated. -/
theorem moves_line (h : IsOrdinary pending line) (rest : List Reading) :
    moves pending (.line line :: rest) =
      .prompt pending.isEmpty ::
        ((finished pending line).map .evaluate ++ moves (carry pending line) rest) := by
  rw [moves, h.commandOf]
  unfold finished carry
  by_cases hopen : Delimiters.isUnclosed (extend pending line) = true
  · simp only [if_pos hopen]
    rfl
  · simp only [if_neg hopen]
    rfl

theorem evaluated_line (h : IsOrdinary pending line) (rest : List Reading) :
    evaluated (moves pending (.line line :: rest)) =
      finished pending line ++ evaluated (moves (carry pending line) rest) := by
  have hfinished : ((finished pending line).map Move.evaluate).filterMap Move.evaluated? =
      finished pending line := by
    rw [List.filterMap_map]
    exact List.filterMap_some
  unfold evaluated
  rw [moves_line h, List.filterMap_cons_none rfl, List.filterMap_append, hfinished]

/-- Nothing is open in an input that the prompt evaluates, whatever is read. -/
theorem isUnclosed_of_mem_evaluated {readings : List Reading} {text : Text}
    (h : text ∈ evaluated (moves pending readings)) : Delimiters.isUnclosed text = false := by
  induction readings generalizing pending with
  | nil => cases h
  | cons reading rest ih =>
      unfold evaluated at h ih
      cases reading with
      | interrupted => exact ih h
      | failed error => cases h
      | line line =>
          rw [moves, List.filterMap_cons_none rfl] at h
          split at h
          · exact ih h
          · cases h
          · exact ih h
          · exact ih h
          · split at h
            · exact ih h
            · rename_i hclosed
              rcases List.mem_cons.mp h with rfl | h
              · exact eq_false_of_ne_true hclosed
              · exact ih h

/-- An empty last line makes no difference, except for a blank input. -/
theorem filled_evaluated_concat_nil (hp : IsPending pending)
    (h : AllOrdinary pending (lines ++ [[]])) :
    filled (evaluated (moves pending ((lines ++ [[]]).map .line))) =
      filled (evaluated (moves pending (lines.map .line))) := by
  induction lines generalizing pending with
  | nil =>
      have hfinished : filled (finished pending []) = [] := by
        unfold finished extend
        by_cases hnil : pending = []
        · rw [if_pos hnil]
          rfl
        · -- the line feed leaves open what was open
          have hnewline : Delimiters.Inert '\n' := Delimiters.inert_of_isBlank (by decide)
          have hopen : Delimiters.isUnclosed (pending ++ Text.newline ++ []) = true := by
            rw [List.append_nil]
            exact (Delimiters.isUnclosed_concat hnewline pending).trans (hp hnil)
          rw [if_neg hnil, if_pos hopen]
          rfl
      show filled (evaluated (moves pending [.line []])) = filled (evaluated (moves pending []))
      rw [evaluated_line h.1, filled_append, hfinished]
      rfl
  | cons line rest ih =>
      show filled (evaluated (moves pending (.line line :: (rest ++ [[]]).map .line))) =
        filled (evaluated (moves pending (.line line :: rest.map .line)))
      rw [evaluated_line h.1, evaluated_line h.1, filled_append, filled_append,
        ih (isPending_carry pending line) h.2]

/-! ### Loading -/

/-- The pending lines, if there are any. -/
def held (pending : Text) : Option Text := if pending = [] then none else some pending

theorem held_of_ne_nil (h : pending ≠ []) : held pending = some pending := if_neg h

theorem isUnclosed_of_mem_held (hp : IsPending pending) {text : Text} (h : text ∈ held pending) :
    Delimiters.isUnclosed text = true := by
  unfold held at h
  split at h
  · cases h
  · rename_i hne
    cases h
    exact hp hne

/-- The texts of the blocks of the remaining lines. -/
def texts (block : Option Script.Block) (number : Nat) (lines : List Text) : List Text :=
  (Script.blocksFrom block number lines).map Script.Block.text

/-- Between two inputs loading gives the input that a line finishes, if it is more than blanks. -/
theorem texts_line_of_none (h : IsOrdinary [] line) (number : Nat) (rest : List Text) :
    ∃ next : Option Script.Block, next.map Script.Block.text = held (carry [] line) ∧
      texts none number (line :: rest) =
        filled (finished [] line) ++ texts next (number + 1) rest := by
  have hextend : extend [] line = line := rfl
  unfold texts carry finished
  rw [hextend, Script.blocksFrom]
  by_cases hblank : Text.trim line = []
  · -- the prompt evaluates the blank line, and loading passes over it
    have hclosed : ¬ Delimiters.isUnclosed line = true := fun hopen =>
      trim_ne_nil_of_isUnclosed hopen hblank
    have hpassed : Script.isPassedOver line = true :=
      Script.isPassedOver_of_blanks (Text.trim_eq_nil_iff.mp hblank)
    have hfilled : filled [line] = [] := by simp [filled, hblank]
    simp only [if_pos hpassed, if_neg hclosed, hfilled]
    exact ⟨none, rfl, rfl⟩
  · have hpassed : ¬ Script.isPassedOver line = true := by
      unfold Script.isPassedOver
      rw [Bool.or_eq_true, List.isEmpty_iff, List.isPrefixOf_iff_prefix]
      rintro (hnil | hcomment)
      · exact hblank hnil
      · exact h.noComment rfl hcomment
    have hfilled : filled [line] = [line] := by simp [filled, hblank]
    rw [if_neg hpassed]
    by_cases hopen : Delimiters.isUnclosed line = true
    · have hne : line ≠ [] := by
        rintro rfl
        cases hopen
      simp only [if_pos hopen, held_of_ne_nil hne]
      exact ⟨some ⟨number, line⟩, rfl, rfl⟩
    · simp only [if_neg hopen, hfilled]
      exact ⟨none, rfl, rfl⟩

theorem texts_line_of_some {block : Script.Block} (hne : block.text ≠ [])
    (hp : IsPending block.text) (line : Text) (number : Nat) (rest : List Text) :
    ∃ next : Option Script.Block, next.map Script.Block.text = held (carry block.text line) ∧
      texts (some block) number (line :: rest) =
        filled (finished block.text line) ++ texts next (number + 1) rest := by
  have hextend : (block.extend line).text = extend block.text line := by
    unfold Script.Block.extend extend
    rw [if_neg hne]
  have hfilled : filled [extend block.text line] = [extend block.text line] := by
    simp [filled, trim_extend_ne_nil hp hne]
  unfold texts carry finished
  rw [Script.blocksFrom, hextend]
  by_cases hopen : Delimiters.isUnclosed (extend block.text line) = true
  · have hne' : extend block.text line ≠ [] := by
      intro hnil
      rw [hnil] at hopen
      cases hopen
    simp only [if_pos hopen, held_of_ne_nil hne']
    exact ⟨some (block.extend line), congrArg some hextend, rfl⟩
  · simp only [if_neg hopen, hfilled]
    rw [← hextend]
    exact ⟨none, rfl, rfl⟩

/-- A line takes the block that loading keeps along with the pending lines. -/
theorem texts_line {block : Option Script.Block}
    (hblock : block.map Script.Block.text = held pending) (hp : IsPending pending)
    (h : IsOrdinary pending line) (number : Nat) (rest : List Text) :
    ∃ next : Option Script.Block, next.map Script.Block.text = held (carry pending line) ∧
      texts block number (line :: rest) =
        filled (finished pending line) ++ texts next (number + 1) rest := by
  unfold held at hblock
  split at hblock
  · rename_i hnil
    subst hnil
    rw [Option.map_eq_none_iff.mp hblock]
    exact texts_line_of_none h number rest
  · rename_i hne
    obtain ⟨block, rfl, rfl⟩ := Option.map_eq_some_iff.mp hblock
    exact texts_line_of_some hne hp line number rest

/-- **The two loops together.**  Loading gives what the prompt evaluates, but for blanks, and what
is pending at the end. -/
theorem texts_eq_evaluated {block : Option Script.Block}
    (hblock : block.map Script.Block.text = held pending) (hp : IsPending pending)
    (h : AllOrdinary pending lines) (number : Nat) :
    texts block number lines =
      filled (evaluated (moves pending (lines.map .line))) ++
        (held (lines.foldl carry pending)).toList := by
  induction lines generalizing block pending number with
  | nil =>
      rw [List.foldl_nil, ← hblock]
      cases block <;> rfl
  | cons line rest ih =>
      obtain ⟨next, hnext, htexts⟩ := texts_line hblock hp h.1 number rest
      rw [htexts, ih hnext (isPending_carry pending line) h.2, List.map_cons, evaluated_line h.1,
        filled_append, List.append_assoc, List.foldl_cons]

theorem isPending_foldl_carry (hp : IsPending pending) (lines : List Text) :
    IsPending (lines.foldl carry pending) := by
  induction lines generalizing pending with
  | nil => exact hp
  | cons line rest ih => exact ih (isPending_carry pending line)

theorem blocks_join (hlines : ∀ line ∈ lines, '\n' ∉ line ∧ '\r' ∉ line)
    (h : AllOrdinary [] lines) :
    ∃ read : List Text,
      (Script.blocks (Text.join Text.newline lines)).map Script.Block.text =
        filled (evaluated (moves [] (lines.map .line))) ++ (held (read.foldl carry [])).toList := by
  obtain rfl | ⟨init, last, rfl⟩ := lines.eq_nil_or_concat'
  · exact ⟨[], rfl⟩
  · unfold Script.blocks
    rw [Text.lines_join_concat hlines]
    by_cases hlast : last = []
    · -- an empty last line is none of the script
      subst hlast
      refine ⟨init, ?_⟩
      rw [if_pos rfl, List.append_nil, filled_evaluated_concat_nil isPending_nil h]
      exact texts_eq_evaluated rfl isPending_nil h.of_append 1
    · rw [if_neg hlast]
      exact ⟨init ++ [last], texts_eq_evaluated rfl isPending_nil h 1⟩

/-! ### The session -/

section Session

variable {σ π : Type} {tools : Toolchain σ}

/-- The engine after texts have been taken through a turn, one after the other. -/
def submitted (tools : Toolchain σ) (texts : List Text) (engine : Engine σ) : Engine σ :=
  ((Engine.serveAll tools (texts.map .submit)).run engine).state

theorem state_submit_of_blank {text : Text} (h : Text.trim text = []) (engine : Engine σ) :
    ((Engine.submit tools text).run engine).state = engine := by
  have hpart : (Entry.read text).part? = none := by
    rw [Option.eq_none_iff_forall_not_mem]
    intro part hsome
    exact (Entry.source_read hsome).1 h
  obtain ⟨calls, hturn⟩ := Engine.turnsTo_submit tools text engine
  generalize ((Engine.submit tools text).run engine).value = answer at hturn
  generalize ((Engine.submit tools text).run engine).state = after at hturn ⊢
  cases hturn with
  | skip => rfl
  | list => rfl
  | refuse hp | lose hp | fail hp | succeed hp =>
      rw [hpart] at hp
      cases hp

theorem submitted_cons (text : Text) (rest : List Text) (engine : Engine σ) :
    submitted tools (text :: rest) engine =
      submitted tools rest ((Engine.submit tools text).run engine).state := rfl

theorem submitted_filled (texts : List Text) (engine : Engine σ) :
    submitted tools (filled texts) engine = submitted tools texts engine := by
  induction texts generalizing engine with
  | nil => rfl
  | cons text rest ih =>
      unfold filled at ih ⊢
      by_cases hblank : Text.trim text = []
      · rw [List.filter_cons_of_neg (by simp [hblank]), ih, submitted_cons,
          state_submit_of_blank hblank]
      · rw [List.filter_cons_of_pos (by simp [hblank]), submitted_cons, submitted_cons, ih]

variable [Programs π]

theorem state_carryOutAll_prompt (prompts fresh : Bool) (ms : List Move)
    (engine : Engine (Workshop π)) :
    ((Shell.carryOutAll prompts (.prompt fresh :: ms)).run engine).state =
      ((Shell.carryOutAll prompts ms).run engine).state := by
  cases prompts <;> rfl

theorem state_carryOutAll_evaluate (prompts : Bool) (input : Text) (ms : List Move)
    (engine : Engine (Workshop π)) :
    ((Shell.carryOutAll prompts (.evaluate input :: ms)).run engine).state =
      ((Shell.carryOutAll prompts ms).run
        ((Engine.submit Workshop.toolchain input).run engine).state).state := by
  simp [Shell.carryOutAll, Shell.carryOut, Shell.submitShown]

/-- What the prompt does with ordinary lines is to submit what it evaluates. -/
theorem state_carryOutAll (h : AllOrdinary pending lines) (prompts : Bool)
    (engine : Engine (Workshop π)) :
    ((Shell.carryOutAll prompts (moves pending (lines.map .line))).run engine).state =
      submitted Workshop.toolchain (evaluated (moves pending (lines.map .line))) engine := by
  induction lines generalizing pending engine with
  | nil => exact state_carryOutAll_prompt prompts _ [] engine
  | cons line rest ih =>
      rw [List.map_cons, evaluated_line h.1, moves_line h.1, state_carryOutAll_prompt]
      unfold finished
      split
      · rw [List.map_nil, List.nil_append, List.nil_append, ih h.2]
      · rw [List.map_singleton, List.singleton_append, List.singleton_append,
          state_carryOutAll_evaluate, submitted_cons, ih h.2]

end Session

/-- **Typing a file and loading it agree.**  The lines have no line endings in them, and each is
part of an input when those before it have been typed.  The inputs of the script that holds them
are what the prompt evaluates, in the same order and without its blank inputs; only a last one in
which something is open is loaded but not evaluated.  To carry out the dialogue, on any machine and
in any session, is to submit these inputs. -/
theorem blocks_eq_typed {lines : List Text} (hlines : ∀ line ∈ lines, '\n' ∉ line ∧ '\r' ∉ line)
    (h : AllOrdinary [] lines) :
    let dialogue := moves [] (lines.map .line)
    let typed := filled (evaluated dialogue)
    (∃ unfinished : Option Text,
      (Script.blocks (Text.join Text.newline lines)).map Script.Block.text =
        typed ++ unfinished.toList ∧
      (∀ text ∈ typed, Delimiters.isUnclosed text = false) ∧
      ∀ text ∈ unfinished, Delimiters.isUnclosed text = true) ∧
    ∀ {π : Type} [Programs π] (prompts : Bool) (engine : Engine (Workshop π)),
      ((Shell.carryOutAll prompts dialogue).run engine).state =
        submitted Workshop.toolchain typed engine := by
  intro dialogue typed
  obtain ⟨read, hblocks⟩ := blocks_join hlines h
  refine ⟨⟨held (read.foldl carry []), hblocks, ?_, ?_⟩, ?_⟩
  · intro text htext
    exact isUnclosed_of_mem_evaluated (List.mem_filter.mp htext).1
  · intro text htext
    exact isUnclosed_of_mem_held (isPending_foldl_carry isPending_nil read) htext
  · intro π _ prompts engine
    rw [submitted_filled]
    exact state_carryOutAll h prompts engine

/-- A blank line, a list over three lines with a comment in it, a number that begins with a dot, and
a call that is not finished. -/
theorem blocks_eq_typed_call :
    let lines : List Text := ["", "var a = [1,", "// two", ".clear]", ".5", "f("]
    let typed : List Text := ["var a = [1,\n// two\n.clear]", ".5"]
    (AllOrdinary [] lines ∧ ∀ line ∈ lines, '\n' ∉ line ∧ '\r' ∉ line) ∧
      filled (evaluated (moves [] (lines.map .line))) = typed ∧
      ∃ unfinished : Option Text,
        (Script.blocks (Text.join Text.newline lines)).map Script.Block.text =
          typed ++ unfinished.toList ∧
        ∀ text ∈ unfinished, Delimiters.isUnclosed text = true := by
  intro lines typed
  have hordinary : AllOrdinary [] lines := by decide +kernel
  have hlines : ∀ line ∈ lines, '\n' ∉ line ∧ '\r' ∉ line := by decide
  have htyped : filled (evaluated (moves [] (lines.map .line))) = typed := by decide +kernel
  obtain ⟨⟨unfinished, hblocks, _, hopen⟩, _⟩ := blocks_eq_typed hlines hordinary
  rw [htyped] at hblocks
  exact ⟨⟨hordinary, hlines⟩, htyped, unfinished, hblocks, hopen⟩

end Dialogue

end HaxePrompt

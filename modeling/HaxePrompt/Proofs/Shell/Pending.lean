import HaxePrompt.Proofs.Shell.Inputs
import HaxePrompt.Proofs.Shell.Typing

/-! # What is pending at the prompt

A dialogue goes in rounds: a prompt is shown while some lines are pending, something is read, and
what is done about it leaves lines pending for the next round (`Dialogue.roundOf`).  To carry out
the moves of a dialogue is to go through its rounds, each of which is carried out before the next
one begins (`interact_eq`); what comes of evaluations and commands has no part in what is pending.

Every round keeps what is pending in order (`Round.Keeps`): nothing is pending at a prompt unless
something is open in it, an input is evaluated only when nothing is open in it, and no command but
`.break` is carried out while something is pending.  There are not many ways for a round to go
(`Reacts`).  In each of them it keeps this if the lines that were pending before it are in order
(`Reacts.keeps`), and the lines that it leaves are (`Reacts.isPending`); so it is in every dialogue
(`keeps_rounds`).

The commands of a dialogue evaluate inputs as well, those of a file that is loaded.  A file is
divided into inputs of its own, and its last one is evaluated even if something is open in it
(`open_input_loaded`); all others are closed (`Round.Keeps.endsFile`). -/

namespace HaxePrompt

/-- The error that a move ends the dialogue with, if it ends it with one. -/
def Move.error? : Move → Option IoError
  | .abort error => some error
  | _ => none

namespace Dialogue

variable {pending left line : Text} {reading : Reading} {readings : List Reading}

/-! ### Rounds -/

/-- What is done about a line that stands for a command, is refused or is part of an input, and
what is pending then, unless the dialogue ends. -/
def reactToLine (pending line : Text) : Except Fault (Option Command) → List Move × Option Text
  | .error fault => ([.reject fault], some pending)
  | .ok (some .exit) => ([.perform .exit], none)
  | .ok (some .break) => ([.perform .break], some [])
  | .ok (some command) => ([.perform command], some pending)
  | .ok none => ((finished pending line).map .evaluate, some (carry pending line))

/-- What is done about what was read, and what is pending then, unless the dialogue ends. -/
def react (pending : Text) : Reading → List Move × Option Text
  | .interrupted => ([], some [])
  | .failed error => ([.abort error], none)
  | .line line => reactToLine pending line (commandOf pending line)

/-- A round of a dialogue. -/
structure Round where
  pending : Text
  /-- What is read, unless there is nothing left to read. -/
  reading? : Option Reading
  done : List Move
  /-- The lines that are pending then, unless the dialogue ends. -/
  left? : Option Text

/-- The moves of a round: the prompt is shown first. -/
def Round.moves (round : Round) : List Move := .prompt round.pending.isEmpty :: round.done

def roundOf (pending : Text) (reading : Reading) : Round where
  pending := pending
  reading? := some reading
  done := (react pending reading).1
  left? := (react pending reading).2

def lastRound (pending : Text) : Round := ⟨pending, none, [], none⟩

/-- The rounds of a dialogue, from the pending lines and what is read from now on. -/
def rounds (pending : Text) : List Reading → List Round
  | [] => [lastRound pending]
  | reading :: rest =>
    roundOf pending reading ::
      match (roundOf pending reading).left? with
      | none => []
      | some left => rounds left rest

theorem moves_line_eq (pending line : Text) (rest : List Reading) :
    moves pending (.line line :: rest) =
      .prompt pending.isEmpty :: ((reactToLine pending line (commandOf pending line)).1 ++
        match (reactToLine pending line (commandOf pending line)).2 with
        | none => []
        | some left => moves left rest) := by
  rw [moves]
  cases commandOf pending line with
  | error fault => rfl
  | ok command? =>
      cases command? with
      | some command => cases command <;> rfl
      | none =>
          unfold reactToLine finished carry
          by_cases hopen : Delimiters.isUnclosed (extend pending line) = true
          · simp only [if_pos hopen]
            rfl
          · simp only [if_neg hopen]
            rfl

/-- The moves of a dialogue are those of its first round and those from the lines that it leaves. -/
theorem moves_cons (pending : Text) (reading : Reading) (rest : List Reading) :
    moves pending (reading :: rest) =
      (roundOf pending reading).moves ++
        match (roundOf pending reading).left? with
        | none => []
        | some left => moves left rest := by
  cases reading with
  | interrupted => rfl
  | failed error => rfl
  | line line => exact moves_line_eq pending line rest

/-! ### The ways a round goes -/

/-- How a reading is reacted to while some lines are pending. -/
inductive Reacts (pending : Text) : Reading → List Move → Option Text → Prop where
  | interrupt : Reacts pending .interrupted [] (some [])
  | abort (error : IoError) : Reacts pending (.failed error) [.abort error] none
  | refuse {line : Text} (fault : Fault) :
      pending = [] → Reacts pending (.line line) [.reject fault] (some [])
  | exit {line : Text} : pending = [] → Reacts pending (.line line) [.perform .exit] none
  | drop {line : Text} : Reacts pending (.line line) [.perform .break] (some [])
  | perform {line : Text} (command : Command) :
      pending = [] → Reacts pending (.line line) [.perform command] (some [])
  | extend {line : Text} :
      Delimiters.isUnclosed (extend pending line) = true →
      Reacts pending (.line line) [] (some (extend pending line))
  | evaluate {line : Text} :
      Delimiters.isUnclosed (extend pending line) = false →
      Reacts pending (.line line) [.evaluate (extend pending line)] (some [])

theorem pending_of_refused {fault : Fault} (h : commandOf pending line = .error fault) :
    pending = [] := by
  by_contra hne
  rw [commandOf, if_neg hne] at h
  cases h

/-- While something is pending, the only command is `.break`. -/
theorem pending_of_command {command : Command} (h : commandOf pending line = .ok (some command))
    (hbreak : command ≠ .break) : pending = [] := by
  by_contra hne
  rw [commandOf, if_neg hne] at h
  split at h
  · cases h
    exact hbreak rfl
  · cases h

theorem reacts_line (pending line : Text) :
    Reacts pending (.line line) (reactToLine pending line (commandOf pending line)).1
      (reactToLine pending line (commandOf pending line)).2 := by
  cases hcommand : commandOf pending line with
  | error fault =>
      have hnil := pending_of_refused hcommand
      subst hnil
      exact .refuse fault rfl
  | ok command? =>
      cases command? with
      | some command =>
          by_cases hbreak : command = .break
          · subst hbreak
            exact .drop
          · have hnil := pending_of_command hcommand hbreak
            subst hnil
            cases command with
            | exit => exact .exit rfl
            | «break» => exact absurd rfl hbreak
            | help | clear | load path | save path => exact .perform _ rfl
      | none =>
          unfold reactToLine finished carry
          by_cases hopen : Delimiters.isUnclosed (extend pending line) = true
          · simp only [if_pos hopen]
            exact .extend hopen
          · simp only [if_neg hopen]
            exact .evaluate (eq_false_of_ne_true hopen)

theorem reacts_roundOf (pending : Text) (reading : Reading) :
    Reacts pending reading (roundOf pending reading).done (roundOf pending reading).left? := by
  cases reading with
  | interrupted => exact .interrupt
  | failed error => exact .abort error
  | line line => exact reacts_line pending line

/-! ### Going through the rounds -/

section Interact

variable {π : Type} [Programs π] (prompts : Bool)

/-- Goes through a dialogue round by round, and gives the rounds and the error that ended it, if
one did. -/
def interact (pending : Text) :
    List Reading → Act (Engine (Workshop π)) (List Round × Except IoError Unit)
  | [] => do
    let result ← Shell.carryOutAll prompts (lastRound pending).moves
    return ([lastRound pending], result)
  | reading :: rest => do
    let result ← Shell.carryOutAll prompts (roundOf pending reading).moves
    match (roundOf pending reading).left? with
    | none => return ([roundOf pending reading], result)
    | some left =>
      let (later, result) ← interact left rest
      return (roundOf pending reading :: later, result)

theorem value_carryOut (move : Move) (engine : Engine (Workshop π)) :
    ((Shell.carryOut prompts move).run engine).value = move.error? := by
  cases move with
  | prompt fresh => cases prompts <;> rfl
  | evaluate input => rfl
  | perform command => rfl
  | reject fault => rfl
  | abort error => rfl

theorem carryOutAll_cons {move : Move} (h : move.error? = none) (ms : List Move) :
    (Shell.carryOutAll prompts (move :: ms) : Act (Engine (Workshop π)) _) =
      (Shell.carryOut prompts move >>= fun _ => Shell.carryOutAll prompts ms) := by
  apply Act.ext
  intro engine
  have hvalue := (value_carryOut prompts move engine).trans h
  simp only [Shell.carryOutAll, Act.run_bind, hvalue]

/-- Moves none of which ends the dialogue are followed by the next ones. -/
theorem carryOutAll_append {ms : List Move} (h : ∀ move ∈ ms, move.error? = none)
    (ms' : List Move) :
    (Shell.carryOutAll prompts (ms ++ ms') : Act (Engine (Workshop π)) _) =
      (Shell.carryOutAll prompts ms >>= fun _ => Shell.carryOutAll prompts ms') := by
  induction ms with
  | nil => exact (pure_bind _ _).symm
  | cons move ms ih =>
      rw [List.forall_mem_cons] at h
      rw [List.cons_append, carryOutAll_cons prompts h.1, carryOutAll_cons prompts h.1, ih h.2,
        bind_assoc]

theorem error?_of_mem_roundOf (h : (roundOf pending reading).left? = some left) :
    ∀ move ∈ (roundOf pending reading).moves, move.error? = none := by
  have hreacts := reacts_roundOf pending reading
  rw [h] at hreacts
  unfold Round.moves
  generalize (roundOf pending reading).done = done at hreacts ⊢
  rw [List.forall_mem_cons]
  refine ⟨rfl, ?_⟩
  cases hreacts with
  | interrupt | extend => exact nofun
  | refuse | drop | perform | evaluate => exact List.forall_mem_singleton.mpr rfl

/-- **To carry out a dialogue is to go through its rounds**, one after the other. -/
theorem interact_eq (pending : Text) (readings : List Reading) :
    (interact prompts pending readings : Act (Engine (Workshop π)) _) =
      (Shell.carryOutAll prompts (moves pending readings) >>= fun result =>
        pure (rounds pending readings, result)) := by
  induction readings generalizing pending with
  | nil => rfl
  | cons reading rest ih =>
      rw [moves_cons]
      cases hleft : (roundOf pending reading).left? with
      | none => simp only [interact, rounds, hleft, List.append_nil]
      | some left =>
          have herror := error?_of_mem_roundOf hleft
          simp only [interact, rounds, hleft, ih, carryOutAll_append prompts herror, bind_assoc,
            pure_bind]

end Interact

/-! ### What a round keeps -/

/-- What is pending is kept in order in a round. -/
structure Round.Keeps (round : Round) : Prop where
  /-- When the prompt is shown, nothing is pending, or something is open in it. -/
  shown : IsPending round.pending
  /-- Nothing is open in an input that is evaluated, and nothing is pending then. -/
  evaluated : ∀ input, .evaluate input ∈ round.done →
    Delimiters.isUnclosed input = false ∧ round.left? = some []
  /-- A command other than `.break` is carried out only when nothing is pending. -/
  performed : ∀ command, .perform command ∈ round.done → command ≠ .break → round.pending = []
  /-- Nothing is pending after `.break`. -/
  dropped : .perform .break ∈ round.done → round.left? = some []
  /-- Nothing is pending after an interruption. -/
  interrupted : round.reading? = some .interrupted → round.left? = some []
  /-- Something is pending after a round only if nothing was done in it. -/
  settled : ∀ left, round.left? = some left → round.done ≠ [] → left = []

/-- However a round goes, it keeps this if the lines that are pending before it are in order. -/
theorem Reacts.keeps {done : List Move} {left? : Option Text}
    (h : Reacts pending reading done left?) (hp : IsPending pending) :
    Round.Keeps ⟨pending, some reading, done, left?⟩ where
  shown := hp
  evaluated input hinput := by
    cases h with
    | evaluate hclosed =>
        obtain rfl : input = _ := by simpa using hinput
        exact ⟨hclosed, rfl⟩
    | interrupt | abort | refuse | exit | drop | perform | extend => simp at hinput
  performed command hcommand hbreak := by
    cases h with
    | exit hnil | perform _ hnil => exact hnil
    | drop => exact absurd (by simpa using hcommand) hbreak
    | interrupt | abort | refuse | extend | evaluate => simp at hcommand
  dropped hdrop := by
    cases h with
    | drop | perform => rfl
    | interrupt | abort | refuse | exit | extend | evaluate => simp at hdrop
  interrupted hreading := by
    obtain rfl := Option.some.inj hreading
    cases h
    rfl
  settled left hleft hdone := by
    cases h with
    | interrupt | refuse | drop | perform | evaluate => exact (Option.some.inj hleft).symm
    | abort | exit => cases hleft
    | extend => exact absurd rfl hdone

theorem Reacts.isPending {done : List Move} (h : Reacts pending reading done (some left)) :
    IsPending left := by
  cases h with
  | interrupt | refuse | drop | perform | evaluate => exact isPending_nil
  | extend hopen => exact fun _ => hopen

theorem keeps_lastRound (hp : IsPending pending) : (lastRound pending).Keeps where
  shown := hp
  evaluated _ hinput := by cases hinput
  performed _ hcommand := by cases hcommand
  dropped hdrop := by cases hdrop
  interrupted hreading := by cases hreading
  settled _ hleft := by cases hleft

theorem keeps_of_mem_rounds (hp : IsPending pending) :
    ∀ round ∈ rounds pending readings, round.Keeps := by
  induction readings generalizing pending with
  | nil => exact List.forall_mem_singleton.mpr (keeps_lastRound hp)
  | cons reading rest ih =>
      have hreacts := reacts_roundOf pending reading
      rw [rounds, List.forall_mem_cons]
      refine ⟨hreacts.keeps hp, ?_⟩
      cases hleft : (roundOf pending reading).left? with
      | none => exact nofun
      | some left =>
          rw [hleft] at hreacts
          exact ih hreacts.isPending

/-- What a round takes through turns is closed, unless it ends a file that is loaded. -/
theorem Round.Keeps.endsFile {π : Type} [Programs π] {round : Round} (h : round.Keeps)
    {move : Move} (hmove : move ∈ round.moves) {engine : Engine (Workshop π)} {input : Text}
    (hinput : input ∈ Shell.inputsOf move engine)
    (hopen : Delimiters.isUnclosed input = true) : Shell.EndsFile move engine input := by
  apply Shell.endsFile_of_isUnclosed hinput _ hopen
  rintro rfl
  have hdone : Move.evaluate input ∈ round.done := by simpa [Round.moves] using hmove
  rw [(h.evaluated input hdone).1] at hopen
  cases hopen

/-- **What is pending is kept in order in every dialogue.**  Whatever is read, and whatever comes of
evaluations and commands, the dialogue is carried out in rounds that begin with nothing pending, and
in each of them something is pending at the prompt only if something is open in it.  Each move takes
its inputs through turns and no others.  Nothing is open in any of them, but for the last block of a
file that is loaded, which is an input even if it is not finished. -/
theorem keeps_rounds (readings : List Reading) :
    (∀ {π : Type} [Programs π] (prompts : Bool),
      (interact prompts [] readings : Act (Engine (Workshop π)) _) =
        (Shell.carryOutAll prompts (moves [] readings) >>= fun result =>
          pure (rounds [] readings, result))) ∧
      (∀ round ∈ rounds [] readings, round.Keeps) ∧
      ∀ {π : Type} [Programs π] (prompts : Bool) (engine : Engine (Workshop π)),
        ∀ round ∈ rounds [] readings, ∀ move ∈ round.moves,
          let inputs := Shell.inputsOf move engine
          Shell.TakesTurns prompts move engine inputs ∧
            ∀ input ∈ inputs, Delimiters.isUnclosed input = true →
              Shell.EndsFile move engine input := by
  have hkeeps : ∀ round ∈ rounds [] readings, round.Keeps := keeps_of_mem_rounds isPending_nil
  refine ⟨fun prompts => interact_eq prompts [] readings, hkeeps, ?_⟩
  intro π _ prompts engine round hround move hmove inputs
  refine ⟨Shell.takesTurns_carryOut prompts move engine, ?_⟩
  intro input hinput hopen
  exact (hkeeps round hround).endsFile hmove hinput hopen

/-- Lines are pending while a call is open, a command among them is one of its lines, and each way
of dropping them leaves nothing. -/
example : (rounds [] [.line "f(", .line ".help", .interrupted, .line "[1,", .line ".break",
      .line ".help", .line "]"]).map Round.pending =
    [[], "f(", "f(\n.help", [], "[1,", [], [], []] := by
  decide +kernel

/-- Programs that do nothing. -/
instance idle : Programs Unit where
  run _ _ _ _ memory := ({}, memory)
  start _ _ _ _ memory := (0, memory)
  deliver _ _ memory := (.ok {}, memory)
  stop _ memory := memory

/-- The files of a machine on which a script ends in an unfinished call. -/
def trialFiles : FileTree := { nodes := [(["x.hx"], .file (Utf8.encode "f(\n"))] }

/-- An engine on this machine. -/
def trialEngine : Engine (Workshop Unit) where
  tools :=
    { compiler :=
        { program := "/haxe", extraArguments := [], workingDirectory := "/", directory := "/w" }
      sandbox := { program := "/node", workingDirectory := "/", directory := "/v" }
      machine := { files := trialFiles, programs := () } }

/-- What is read: the command that loads the script. -/
def trialReadings : List Reading := [.line ".load x.hx"]

theorem read_trialFiles : trialFiles.read [] "x.hx" = .ok (Utf8.encode "f(\n") := by
  have hfile : trialFiles.get? (([] : Location) ++ [("x.hx" : Text)]) =
      some (.file (Utf8.encode "f(\n")) := by decide +kernel
  have hsplit : Text.split FileTree.separator "x.hx" = [("x.hx" : Text)] := by decide +kernel
  have hwalk : trialFiles.walk false FileTree.maxLinks [] [("x.hx" : Text)] =
      .ok (.occupied (([] : Location) ++ [("x.hx" : Text)]) (.file (Utf8.encode "f(\n"))) := by
    rw [FileTree.walk, if_neg (by decide), if_neg (by decide), if_neg (by decide),
      if_neg (by decide), if_neg (by decide +kernel), hfile]
    simp only [FileTree.walk]
    rw [hfile]
  have hresolve : trialFiles.resolveWhole false [] "x.hx" =
      .ok (.occupied (([] : Location) ++ [("x.hx" : Text)]) (.file (Utf8.encode "f(\n"))) := by
    unfold FileTree.resolveWhole FileTree.resolve
    rw [if_neg (by decide +kernel), if_neg (by decide), if_neg (by decide), hsplit]
    exact hwalk
  unfold FileTree.read
  rw [hresolve]

theorem inputsOf_trialEngine :
    Shell.inputsOf (.perform (.load "x.hx")) trialEngine = [("f(" : Text)] := by
  have hread : ((Machine.read "x.hx").run trialEngine.tools.machine).value =
      .ok (Utf8.encode "f(\n") := read_trialFiles
  have hblocks : (Script.blocks "f(\n").map Script.Block.text = [("f(" : Text)] := by
    decide +kernel
  simp only [Shell.inputsOf, Shell.inputsLoaded, hread, Shell.textOf_encode, hblocks,
    List.take_succ_cons, List.take_nil]

/-- An unfinished call that stands in a file is taken through a turn when the file is loaded. -/
theorem open_input_loaded :
    let dialogue : Act (Engine (Workshop Unit)) _ := interact true [] trialReadings
    .note (.classified "f(" .expression) ∈ (dialogue.run trialEngine).emitted ∧
      Delimiters.isUnclosed "f(" = true := by
  intro dialogue
  refine ⟨?_, by decide⟩
  have hmoves : moves [] trialReadings =
      [.prompt true, .perform (.load "x.hx"), .prompt true] := rfl
  have hturn : .note (.classified "f(" .expression) ∈
      ((Shell.carryOut true (.perform (.load "x.hx"))).run trialEngine).emitted := by
    obtain ⟨before, after, hemitted, -⟩ :=
      (Shell.takesTurns_carryOut true (.perform (.load "x.hx")) trialEngine).emitted
    rw [hemitted, inputsOf_trialEngine]
    apply List.mem_append_left _ (List.mem_append_right _ _)
    exact Shell.classified_mem_submitAll List.mem_cons_self trialEngine
  have hdialogue : dialogue = _ := interact_eq true [] trialReadings
  rw [hdialogue, hmoves, carryOutAll_cons true rfl, carryOutAll_cons true rfl]
  simp only [Act.run_bind]
  exact List.mem_append_left _ (List.mem_append_right _ (List.mem_append_left _ hturn))

end Dialogue

end HaxePrompt

import HaxePrompt.Proofs.Session.Requests
import Mathlib.Data.List.DropRight

/-! # The history is what was accepted

`History.accepted` reads a history off the events of a session: the sources of the import
declarations that gave their result since the session was last forgotten, and those of the
declarations of variables and expressions.  The history of an engine is exactly this, whatever
the compiler and the evaluator answer (`history_eq_accepted`).

Each request changes the history by `History.after`, and a session by all of them in turn
(`history_serveAll`); `foldl_after` sums them up. -/

namespace HaxePrompt

/-- The source of an entry of one of the kinds, if the event is that it gave its result. -/
def Event.sourceOf? (kinds : List Entry.Kind) : Event → Option Text
  | .answered input answer =>
    if (Entry.read input).kind ∈ kinds ∧ answer.isValue then some (Entry.read input).source
    else none
  | .cleared => none

namespace History

/-- The events since the session was last forgotten. -/
def sinceClear (events : List Event) : List Event := events.rtakeWhile Event.isAnswer

theorem sinceClear_concat_cleared (events : List Event) :
    sinceClear (events ++ [.cleared]) = [] :=
  List.rtakeWhile_concat_neg _ _ _ Bool.false_ne_true

theorem sinceClear_concat_answered (events : List Event) (input : Text) (answer : Answer) :
    sinceClear (events ++ [.answered input answer]) =
      sinceClear events ++ [.answered input answer] :=
  List.rtakeWhile_concat_pos _ _ _ rfl

/-- The history read off the events of a session. -/
def accepted (events : List Event) : History where
  imports := (sinceClear events).filterMap (Event.sourceOf? [.importing])
  statements := (sinceClear events).filterMap (Event.sourceOf? [.binding, .expression])

def after (history : History) : Event → History
  | .answered input answer =>
    if answer.isValue then history.keep (Entry.read input) else history
  | .cleared => {}

theorem get_accepted (events : List Event) (part : Part) :
    (accepted events).get part =
      (sinceClear events).filterMap (Event.sourceOf? (keptKinds part)) := by
  cases part <;> rfl

/-- An answer adds the source of its entry to the part that keeps its kind, if it is a result. -/
theorem get_after (history : History) (input : Text) (answer : Answer) (part : Part) :
    (history.after (.answered input answer)).get part = history.get part ++
      (Event.sourceOf? (keptKinds part) (.answered input answer)).toList := by
  unfold Event.sourceOf? after
  cases hv : answer.isValue with
  | false => simp [hv]
  | true =>
      simp only [hv, if_true, get_keep, and_true]
      split <;> rfl

/-- One more event changes what is accepted as it changes a history. -/
theorem accepted_concat (events : List Event) (event : Event) :
    accepted (events ++ [event]) = (accepted events).after event := by
  cases event with
  | cleared => simp only [accepted, sinceClear_concat_cleared, List.filterMap_nil, after]
  | answered input answer =>
      apply ext_get
      intro part
      rw [get_after, get_accepted, get_accepted, sinceClear_concat_answered,
        List.filterMap_append, List.filterMap_cons, List.filterMap_nil]
      cases Event.sourceOf? (keptKinds part) (.answered input answer) <;> rfl

theorem foldl_after (events : List Event) : events.foldl after {} = accepted events := by
  induction events using List.reverseRecOn with
  | nil => rfl
  | append_singleton events event ih =>
      rw [List.foldl_append, ih, accepted_concat, List.foldl_cons, List.foldl_nil]

theorem history_serve {σ : Type} (tools : Toolchain σ) (request : Request) (engine : Engine σ) :
    ((Engine.serve tools request).run engine).state.history =
      engine.history.after ((Engine.serve tools request).run engine).value := by
  cases request with
  | submit input =>
      obtain ⟨calls, h⟩ := Engine.turnsTo_submit tools input engine
      exact h.history
  | clear => rfl

/-- A session changes the history by its events, one after the other. -/
theorem history_serveAll {σ : Type} (tools : Toolchain σ) (requests : List Request)
    (engine : Engine σ) :
    ((Engine.serveAll tools requests).run engine).state.history =
      ((Engine.serveAll tools requests).run engine).value.foldl after engine.history := by
  induction requests generalizing engine with
  | nil => rfl
  | cons request rest ih =>
      rw [Engine.state_serveAll_cons, Engine.value_serveAll_cons, ih, history_serve,
        List.foldl_cons]

/-- **The history is what was accepted.**  After any requests to a fresh engine, its history is
read off the answers they got: the sources, in order, of the import declarations since the
session was last forgotten that gave their result, and those of the declarations of variables
and the expressions.  Nothing else leaves a trace. -/
theorem history_eq_accepted {σ : Type} (tools : Toolchain σ) (s : σ) (showWarnings : Bool)
    (requests : List Request) :
    ((Engine.serveAll tools requests).run (.fresh showWarnings s)).value.map Event.request =
        requests ∧
      ((Engine.serveAll tools requests).run (.fresh showWarnings s)).state.history =
        accepted ((Engine.serveAll tools requests).run (.fresh showWarnings s)).value := by
  constructor
  · exact Engine.requests_serveAll tools requests (.fresh showWarnings s)
  · rw [history_serveAll]
    exact foldl_after _

/-- A session that is forgotten once; then an import, a declaration and an expression are accepted,
an entry is refused, and a type is asked for. -/
example :
    let tools := Toolchain.ofFunctions
      (fun source => if Text.occursIn "bad" source then .error [.other "bad"]
        else .ok { output := Marker.token ++ Marker.token })
      fun _ => .ok none
    let requests : List Request := [.submit "b", .clear, .submit "import a.B", .submit "var a = 1",
      .submit "bad", .submit "$type(a)", .submit "a"]
    ((Engine.serveAll tools requests).run (.fresh true ())).state.history =
      { imports := ["import a.B;"], statements := ["var a = 1;", "a;"] } := by
  decide +kernel

end History

end HaxePrompt

import HaxePrompt.Console.Emission

/-! # Actions

An `Act σ α` is an action on a state of type `σ`: run in a state, it gives a value and the next
state, and leaves emissions at the terminal.  An action cannot see what was emitted before.
`Act.on` lets an action work on a component of a larger state. -/

namespace HaxePrompt

/-- What an action comes to. -/
structure Step (σ α : Type) where
  value : α
  state : σ
  /-- What it left at the terminal, oldest first. -/
  emitted : List Emission

/-- An action on a state. -/
def Act (σ α : Type) := σ → Step σ α

namespace Act

variable {σ τ α β : Type}

def run (act : Act σ α) (s : σ) : Step σ α := act s

@[ext] theorem ext {x y : Act σ α} (h : ∀ s, x.run s = y.run s) : x = y := funext h

protected def pure (a : α) : Act σ α := fun s => ⟨a, s, []⟩

/-- One action after the other. -/
protected def bind (x : Act σ α) (f : α → Act σ β) : Act σ β := fun s =>
  let one := x s
  let two := f one.value one.state
  ⟨two.value, two.state, one.emitted ++ two.emitted⟩

instance : Monad (Act σ) where
  pure := Act.pure
  bind := Act.bind

@[simp] theorem run_pure (a : α) (s : σ) : (pure a : Act σ α).run s = ⟨a, s, []⟩ := rfl

@[simp] theorem run_bind (x : Act σ α) (f : α → Act σ β) (s : σ) :
    (x >>= f).run s =
      ⟨((f (x.run s).value).run (x.run s).state).value,
        ((f (x.run s).value).run (x.run s).state).state,
        (x.run s).emitted ++ ((f (x.run s).value).run (x.run s).state).emitted⟩ := rfl

instance : LawfulMonad (Act σ) := LawfulMonad.mk' (Act σ)
  (fun x => Act.ext fun s => by
    change (x >>= fun a => pure (id a)).run s = x.run s
    simp)
  (fun a f => Act.ext fun s => by simp)
  (fun x f g => Act.ext fun s => by simp)

@[simp] theorem run_map (f : α → β) (x : Act σ α) (s : σ) :
    (f <$> x).run s = ⟨f (x.run s).value, (x.run s).state, (x.run s).emitted⟩ := by
  rw [map_eq_pure_bind, run_bind]
  simp

def get : Act σ σ := fun s => ⟨s, s, []⟩

def modify (f : σ → σ) : Act σ Unit := fun s => ⟨(), f s, []⟩

def emit (emission : Emission) : Act σ Unit := fun s => ⟨(), s, [emission]⟩

def emitAll (emissions : List Emission) : Act σ Unit := fun s => ⟨(), s, emissions⟩

/-- Tells something in the log. -/
def note (notice : Notice) : Act σ Unit := emit (.note notice)

/-- Lets an action work on a component of the state. -/
def on (part : σ → τ) (put : τ → σ → σ) (act : Act τ α) : Act σ α := fun s =>
  let inner := act (part s)
  ⟨inner.value, put inner.state s, inner.emitted⟩

@[simp] theorem run_get (s : σ) : (get : Act σ σ).run s = ⟨s, s, []⟩ := rfl

@[simp] theorem run_modify (f : σ → σ) (s : σ) : (modify f).run s = ⟨(), f s, []⟩ := rfl

@[simp] theorem run_emit (emission : Emission) (s : σ) :
    (emit emission).run s = ⟨(), s, [emission]⟩ := rfl

@[simp] theorem run_emitAll (emissions : List Emission) (s : σ) :
    (emitAll emissions).run s = ⟨(), s, emissions⟩ := rfl

@[simp] theorem run_note (notice : Notice) (s : σ) :
    (note notice).run s = ⟨(), s, [.note notice]⟩ := rfl

@[simp] theorem run_on (part : σ → τ) (put : τ → σ → σ) (act : Act τ α) (s : σ) :
    (on part put act).run s =
      ⟨(act.run (part s)).value, put (act.run (part s)).state s, (act.run (part s)).emitted⟩ := rfl

end Act

end HaxePrompt

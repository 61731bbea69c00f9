/-
  MediaGraph.Action — a step that changes a state and may fail.

  A failing action keeps the changes made before it failed; what follows it does
  not run.
-/

import MediaGraph.Error

namespace MediaGraph

def Action (σ α : Type) : Type := σ → Except Error α × σ

namespace Action

variable {σ τ α β : Type}

def run (x : Action σ α) (s : σ) : Except Error α × σ := x s

instance : Monad (Action σ) where
  pure a := fun s => (.ok a, s)
  bind x f := fun s =>
    match x s with
    | (.ok a, s') => f a s'
    | (.error e, s') => (.error e, s')

instance : MonadStateOf σ (Action σ) where
  get := fun s => (.ok s, s)
  set s := fun _ => (.ok (), s)
  modifyGet f := fun s => (.ok (f s).1, (f s).2)

def fail (e : Error) : Action σ α := fun s => (.error e, s)

/-- A value read off the state. -/
def read (f : σ → α) : Action σ α := fun s => (.ok (f s), s)

/-- A value read off the state that the state vouches for. -/
def expect (f : σ → Option α) : Action σ α := fun s =>
  match f s with
  | some a => (.ok a, s)
  | none => (.error .corrupt, s)

def update (f : σ → σ) : Action σ Unit := fun s => (.ok (), f s)

/-- Change the state at the end of an action, whether it fails or not. -/
def always (x : Action σ α) (f : σ → σ) : Action σ α := fun s => ((x.run s).1, f (x.run s).2)

/-- Do something about a failure, and fail all the same. -/
def onFailure (x : Action σ α) (f : Error → Action σ Unit) : Action σ α := fun s =>
  match x.run s with
  | (.ok a, s') => (.ok a, s')
  | (.error e, s') => (.error e, ((f e).run s').2)

/-- Run an action on a part of the state. -/
def onPart (get : σ → τ) (set : τ → σ → σ) (x : Action τ α) : Action σ α := fun s =>
  ((x.run (get s)).1, set (x.run (get s)).2 s)

@[simp]
theorem run_pure (a : α) (s : σ) : run (pure a : Action σ α) s = (.ok a, s) := rfl

theorem run_bind (x : Action σ α) (f : α → Action σ β) (s : σ) :
    (x >>= f).run s =
      match x.run s with
      | (.ok a, s') => (f a).run s'
      | (.error e, s') => (.error e, s') := rfl

@[simp]
theorem run_fail (e : Error) (s : σ) : run (fail e : Action σ α) s = (.error e, s) := rfl

@[simp]
theorem run_read (f : σ → α) (s : σ) : run (read f) s = (.ok (f s), s) := rfl

@[simp]
theorem run_update (f : σ → σ) (s : σ) : run (update f) s = (.ok (), f s) := rfl

@[simp]
theorem run_expect (f : σ → Option α) (s : σ) :
    run (expect f) s = match f s with
      | some a => (.ok a, s)
      | none => (.error .corrupt, s) := rfl

@[simp]
theorem run_always (x : Action σ α) (f : σ → σ) (s : σ) :
    (x.always f).run s = ((x.run s).1, f (x.run s).2) := rfl

@[simp]
theorem run_onPart (get : σ → τ) (set : τ → σ → σ) (x : Action τ α) (s : σ) :
    (onPart get set x).run s = ((x.run (get s)).1, set (x.run (get s)).2 s) := rfl

theorem ext {x y : Action σ α} (h : ∀ s, x.run s = y.run s) : x = y := funext h

theorem id_map_action (x : Action σ α) : id <$> x = x := by
  refine ext fun s => ?_
  show (match x.run s with
    | (.ok a, s') => (Except.ok a, s')
    | (.error e, s') => (.error e, s')) = x.run s
  rcases x.run s with ⟨_ | _, _⟩ <;> rfl

theorem bind_assoc_action {γ : Type} (x : Action σ α) (f : α → Action σ β) (g : β → Action σ γ) :
    x >>= f >>= g = x >>= fun a => f a >>= g := by
  refine ext fun s => ?_
  simp only [run_bind]
  rcases x.run s with ⟨_ | _, _⟩ <;> rfl

instance : LawfulMonad (Action σ) :=
  LawfulMonad.mk' (Action σ) id_map_action (fun _ _ => rfl) bind_assoc_action

end Action

end MediaGraph

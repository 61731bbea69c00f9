/-
  MediaGraph.Proofs.Action — reasoning about actions.

  Four ways to speak of a run.
  - `Keeps P x`: what holds before `x` holds after it, whether `x` fails or not.
    An action made of parts keeps what its parts keep (`keeps_bind`, `keeps_forM`).
  - A run that ended well is taken apart at its binds (`run_bind_ok`). A loop that
    ended well carries an invariant over what is left to do (`forM_ok`), or has done
    for each element what a step does for one (`forM_each`); one whose steps all end
    well ends well itself (`forM_total`). A run that failed did so in one of its parts
    (`run_bind_error`, `forM_error`).
  - `Meets x s E Q`: a run from `s` fails with an error of `E`, or ends well with `Q`.
  - `Tandem R x`: two runs from states related by `R` come to one result, and leave
    related states. Parts that read of the state only what `R` makes equal go on alike
    in both runs, so an action made of such parts is in tandem (`tandem_bind`,
    `tandem_forM`).
-/

import MediaGraph.Action

namespace MediaGraph.Action

variable {σ τ α β : Type}

instance (r : Except Error Unit) : Decidable (r = .ok ()) :=
  match r with
  | .ok () => isTrue rfl
  | .error _ => isFalse nofun

/-! ## What an action keeps -/

def Keeps (P : σ → Prop) (x : Action σ α) : Prop := ∀ s, P s → P (x.run s).2

variable {P : σ → Prop}

theorem keeps_pure (a : α) : Keeps P (pure a : Action σ α) := fun _ h => h

theorem keeps_fail (e : Error) : Keeps P (fail e : Action σ α) := fun _ h => h

theorem keeps_read (f : σ → α) : Keeps P (read f) := fun _ h => h

theorem keeps_expect (f : σ → Option α) : Keeps P (expect f) := by
  intro s h
  rw [run_expect]
  split <;> exact h

theorem keeps_update {f : σ → σ} (hf : ∀ s, P s → P (f s)) : Keeps P (update f) := hf

/-- What is known before the first part may be more than what is known after it. -/
theorem leads_bind {Q R : σ → Prop} (hR : ∀ s, R s → P s) {x : Action σ α} {f : α → Action σ β}
    (hx : ∀ s, Q s → R (x.run s).2) (hf : ∀ a s, R s → P ((f a).run s).2) {s : σ} (h : Q s) :
    P ((x >>= f).run s).2 := by
  have hs := hx s h
  rw [run_bind]
  rcases hr : x.run s with ⟨_ | a, s'⟩ <;> rw [hr] at hs
  · exact hR s' hs
  · exact hf a s' hs

theorem keeps_bind {x : Action σ α} {f : α → Action σ β} (hx : Keeps P x) (hf : ∀ a, Keeps P (f a)) :
    Keeps P (x >>= f) := fun _ => leads_bind (fun _ h => h) hx hf

theorem keeps_forM {f : α → Action σ Unit} (hf : ∀ a, Keeps P (f a)) (l : List α) : Keeps P (l.forM f) := by
  induction l with
  | nil => exact keeps_pure ()
  | cons a l ih => exact keeps_bind (hf a) fun _ => ih

theorem keeps_always {x : Action σ α} {f : σ → σ} (hx : Keeps P x) (hf : ∀ s, P s → P (f s)) :
    Keeps P (x.always f) := fun s h => hf _ (hx s h)

theorem keeps_onFailure {x : Action σ α} {f : Error → Action σ Unit} (hx : Keeps P x) (hf : ∀ e, Keeps P (f e)) :
    Keeps P (x.onFailure f) := by
  intro s h
  have hs := hx s h
  simp only [onFailure, run] at hs ⊢
  rcases hr : x s with ⟨e | a, s'⟩ <;> rw [hr] at hs
  · exact hf e s' hs
  · exact hs

/-! ## Runs that end well -/

theorem run_bind_ok {x : Action σ α} {f : α → Action σ β} {s s'' : σ} {b : β} :
    (x >>= f).run s = (.ok b, s'') ↔ ∃ a s', x.run s = (.ok a, s') ∧ (f a).run s' = (.ok b, s'') := by
  rw [run_bind]
  rcases x.run s with ⟨e | a, s'⟩
  · simp
  · exact ⟨fun h => ⟨a, s', rfl, h⟩, fun ⟨_, _, e, h⟩ => by cases e; exact h⟩

theorem run_eq_of_ok {x : Action σ Unit} {s : σ} (h : (x.run s).1 = .ok ()) : x.run s = (.ok (), (x.run s).2) :=
  Prod.ext h rfl

theorem run_expect_ok {f : σ → Option α} {s s' : σ} {a : α} :
    (expect f).run s = (.ok a, s') ↔ f s = some a ∧ s' = s := by
  rw [run_expect]
  cases f s <;> simp [eq_comm]

theorem run_onPart_ok {get : σ → τ} {set : τ → σ → σ} {x : Action τ α} {s s' : σ} {a : α} :
    (onPart get set x).run s = (.ok a, s') ↔ ∃ t, x.run (get s) = (.ok a, t) ∧ s' = set t s := by
  rw [run_onPart]
  rcases x.run (get s) with ⟨r, t⟩
  refine ⟨fun h => by cases h; exact ⟨t, rfl, rfl⟩, ?_⟩
  intro hrun
  obtain ⟨_, e, rfl⟩ := hrun
  cases e; rfl

/-- An invariant over what is left to do, carried through a loop that ends well. -/
theorem forM_ok {f : α → Action σ Unit} {I : List α → σ → Prop}
    (hf : ∀ a l s s', I (a :: l) s → (f a).run s = (.ok (), s') → I l s') :
    ∀ l s s', I l s → (l.forM f).run s = (.ok (), s') → I [] s' := by
  intro l
  induction l with
  | nil =>
    intro s s' h hr
    cases hr
    exact h
  | cons a l ih =>
    intro s s' h hr
    obtain ⟨_, t, ht, hr⟩ := run_bind_ok.mp hr
    exact ih t s' (hf a l s t h ht) hr

/-- What each step makes of its element stays so to the end of a loop that ends well. -/
theorem forM_each {f : α → Action σ Unit} {P : σ → Prop} {D : α → σ → Prop} {l : List α}
    (hf : ∀ a ∈ l, ∀ s s', P s → (f a).run s = (.ok (), s') → P s' ∧ D a s' ∧ ∀ b, D b s → D b s') :
    ∀ s s', P s → (l.forM f).run s = (.ok (), s') → P s' ∧ (∀ a ∈ l, D a s') ∧ ∀ b, D b s → D b s' := by
  induction l with
  | nil =>
    intro s s' h hr
    cases hr
    exact ⟨h, List.forall_mem_nil _, fun _ hb => hb⟩
  | cons a l ih =>
    intro s s' h hr
    obtain ⟨_, t, ht, hr⟩ := run_bind_ok.mp hr
    obtain ⟨h', made, kept⟩ := hf a List.mem_cons_self s t h ht
    obtain ⟨h'', all, kept'⟩ := ih (fun b hb => hf b (List.mem_cons_of_mem a hb)) t s' h' hr
    exact ⟨h'', List.forall_mem_cons.mpr ⟨kept' a made, all⟩, fun b hb => kept' b (kept b hb)⟩

/-- A loop ends well when every step does and restores the invariant. -/
theorem forM_total {f : α → Action σ Unit} {P : σ → Prop} {l : List α}
    (hf : ∀ a ∈ l, ∀ s, P s → ∃ s', (f a).run s = (.ok (), s') ∧ P s') :
    ∀ s, P s → ∃ s', (l.forM f).run s = (.ok (), s') ∧ P s' := by
  induction l with
  | nil => exact fun s h => ⟨s, rfl, h⟩
  | cons a l ih =>
    intro s h
    obtain ⟨t, ht, h'⟩ := hf a List.mem_cons_self s h
    obtain ⟨s', hs, h''⟩ := ih (fun b hb => hf b (List.mem_cons_of_mem a hb)) t h'
    exact ⟨s', run_bind_ok.mpr ⟨(), t, ht, hs⟩, h''⟩

/-! ## Runs that fail -/

theorem run_bind_of_run {x : Action σ α} {f : α → Action σ β} {s s' : σ} {a : α} (h : x.run s = (.ok a, s')) :
    (x >>= f).run s = (f a).run s' := by
  rw [run_bind, h]

theorem run_bind_error {x : Action σ α} {f : α → Action σ β} {s s'' : σ} {e : Error} :
    (x >>= f).run s = (.error e, s'') ↔
      x.run s = (.error e, s'') ∨ ∃ a s', x.run s = (.ok a, s') ∧ (f a).run s' = (.error e, s'') := by
  rw [run_bind]
  rcases x.run s with ⟨e | a, s'⟩
  · simp
  · exact ⟨fun h => Or.inr ⟨a, s', rfl, h⟩, fun h => by
      rcases h with h | ⟨_, _, h, hf⟩
      · cases h
      · cases h; exact hf⟩

/-- A loop that fails does so at one of its steps, and the invariant held until then. -/
theorem forM_error {f : α → Action σ Unit} {I : List α → σ → Prop}
    (hf : ∀ a l s s', I (a :: l) s → (f a).run s = (.ok (), s') → I l s') {e : Error} :
    ∀ l s s', I l s → (l.forM f).run s = (.error e, s') → ∃ a l' t, I (a :: l') t ∧ (f a).run t = (.error e, s') := by
  intro l
  induction l with
  | nil =>
    intro s s' _ hr
    cases hr
  | cons a l ih =>
    intro s s' h hr
    rcases run_bind_error.mp hr with hr | ⟨_, t, ht, hr⟩
    · exact ⟨a, l, s, h, hr⟩
    · exact ih t s' (hf a l s t h ht) hr

/-- The step that failed is at an element of the list. -/
theorem forM_error_of_mem {f : α → Action σ Unit} {P : σ → Prop} {l : List α}
    (hf : ∀ a ∈ l, ∀ s s', P s → (f a).run s = (.ok (), s') → P s') {e : Error} {s s' : σ} (h : P s)
    (hr : (l.forM f).run s = (.error e, s')) : ∃ a ∈ l, ∃ t, P t ∧ (f a).run t = (.error e, s') := by
  obtain ⟨a, rest, t, ⟨hsub, ht⟩, hr⟩ := forM_error (I := fun rest s => rest ⊆ l ∧ P s)
    (fun a rest s s' hI hr => ⟨List.subset_of_cons_subset hI.1, hf a (hI.1 List.mem_cons_self) s s' hI.2 hr⟩)
    l s s' ⟨List.Subset.refl l, h⟩ hr
  exact ⟨a, hsub List.mem_cons_self, t, ht, hr⟩

/-! ## Runs that may fail -/

def Meets (x : Action σ α) (s : σ) (E : Error → Prop) (Q : α → σ → Prop) : Prop :=
  match x.run s with
  | (.ok a, s') => Q a s'
  | (.error e, _) => E e

section Meets

variable {x : Action σ α} {s s' : σ} {a : α} {e : Error} {E : Error → Prop} {Q : α → σ → Prop}

theorem Meets.ok (h : Meets x s E Q) (hr : x.run s = (.ok a, s')) : Q a s' := by
  rw [Meets, hr] at h
  exact h

theorem Meets.error (h : Meets x s E Q) (hr : x.run s = (.error e, s')) : E e := by
  rw [Meets, hr] at h
  exact h

theorem meets_of_run (hr : x.run s = (.ok a, s')) (h : Q a s') : Meets x s E Q := by
  rw [Meets, hr]
  exact h

theorem meets_of_error (hr : x.run s = (.error e, s')) (h : E e) : Meets x s E Q := by
  rw [Meets, hr]
  exact h

/-- A run that cannot fail ends well. -/
theorem Meets.total (h : Meets x s E Q) (hE : ∀ e, ¬ E e) : ∃ a s', x.run s = (.ok a, s') ∧ Q a s' := by
  rcases hr : x.run s with ⟨e | a, s'⟩
  · exact absurd (h.error hr) (hE e)
  · exact ⟨a, s', rfl, h.ok hr⟩

/-- The error an action ends with, if it fails. -/
def failure? (x : Action σ α) (s : σ) : Option Error :=
  match (x.run s).1 with
  | .error e => some e
  | .ok _ => none

theorem run_eq_of_failure (he : x.failure? s = some e) : x.run s = (.error e, (x.run s).2) := by
  rcases hr : x.run s with ⟨e' | a, s'⟩ <;> rw [failure?, hr] at he <;> cases he
  rfl

theorem Meets.failure (h : Meets x s E Q) (he : x.failure? s = some e) : E e := h.error (run_eq_of_failure he)

theorem Meets.mono {E' : Error → Prop} {R : α → σ → Prop} (h : Meets x s E Q) (hE : ∀ e, E e → E' e)
    (hQ : ∀ a s', Q a s' → R a s') : Meets x s E' R := by
  rcases hr : x.run s with ⟨e | a, s'⟩
  · exact meets_of_error hr (hE e (h.error hr))
  · exact meets_of_run hr (hQ a s' (h.ok hr))

theorem Meets.imp {R : α → σ → Prop} (h : Meets x s E Q) (hQ : ∀ a s', Q a s' → R a s') : Meets x s E R :=
  h.mono (fun _ he => he) hQ

theorem Meets.keeps {P : σ → Prop} (h : Meets x s E Q) (hx : Keeps P x) (hs : P s) :
    Meets x s E fun a s' => P s' ∧ Q a s' := by
  have hk := hx s hs
  rcases hr : x.run s with ⟨e | a, s'⟩ <;> rw [hr] at hk
  · exact meets_of_error hr (h.error hr)
  · exact meets_of_run hr ⟨hk, h.ok hr⟩

theorem meets_bind {f : α → Action σ β} {R : β → σ → Prop} (hx : Meets x s E Q)
    (hf : ∀ a s', Q a s' → Meets (f a) s' E R) : Meets (x >>= f) s E R := by
  rcases hr : x.run s with ⟨e | a, s'⟩
  · exact meets_of_error (by rw [run_bind, hr]) (hx.error hr)
  · have hfa := hf a s' (hx.ok hr)
    rw [Meets, run_bind, hr]
    exact hfa

theorem meets_bind_of_run {f : α → Action σ β} {R : β → σ → Prop} (hr : x.run s = (.ok a, s'))
    (hf : Meets (f a) s' E R) : Meets (x >>= f) s E R := by
  rw [Meets, run_bind, hr]
  exact hf

theorem meets_bind_of_error {f : α → Action σ β} {R : β → σ → Prop} (hr : x.run s = (.error e, s')) (h : E e) :
    Meets (x >>= f) s E R := meets_of_error (by rw [run_bind, hr]) h

/-- What is left to do and the state meet an invariant at every round. -/
theorem meets_forM {f : α → Action σ Unit} {I : List α → σ → Prop}
    (hf : ∀ a l s, I (a :: l) s → Meets (f a) s E fun _ s' => I l s') :
    ∀ l s, I l s → Meets (l.forM f) s E fun _ s' => I [] s' := by
  intro l
  induction l with
  | nil => exact fun s h => h
  | cons a l ih => exact fun s h => meets_bind (hf a l s h) fun _ s' h' => ih s' h'

theorem meets_forM_of_mem {f : α → Action σ Unit} {P : σ → Prop} {l : List α}
    (hf : ∀ a ∈ l, ∀ s, P s → Meets (f a) s E fun _ s' => P s') (h : P s) : Meets (l.forM f) s E fun _ s' => P s' := by
  refine (meets_forM (I := fun rest s => rest ⊆ l ∧ P s) (fun a rest s hI => ?_) l s ⟨List.Subset.refl l, h⟩).imp
    fun _ _ hI => hI.2
  exact (hf a (hI.1 List.mem_cons_self) s hI.2).imp fun _ _ h => ⟨List.subset_of_cons_subset hI.1, h⟩

theorem meets_always {f : σ → σ} (h : Meets x s E fun a s' => Q a (f s')) : Meets (x.always f) s E Q := by
  rcases hr : x.run s with ⟨e | a, s'⟩
  · exact meets_of_error (by rw [run_always, hr]) (h.error hr)
  · exact meets_of_run (by rw [run_always, hr]) (h.ok hr)

theorem meets_onFailure {f : Error → Action σ Unit} (h : Meets x s E Q) : Meets (x.onFailure f) s E Q := by
  rcases hr : x.run s with ⟨e | a, s'⟩
  · exact meets_of_error (by simp only [onFailure, run] at hr ⊢; rw [hr]) (h.error hr)
  · exact meets_of_run (by simp only [onFailure, run] at hr ⊢; rw [hr]) (h.ok hr)

end Meets

/-! ## Two runs side by side -/

/-- From related states the action has one result, a value or an error, and it leaves related states. -/
def Tandem (R : σ → σ → Prop) (x : Action σ α) : Prop :=
  ∀ s t, R s t → (x.run t).1 = (x.run s).1 ∧ R (x.run s).2 (x.run t).2

section Tandem

variable {R : σ → σ → Prop}

theorem tandem_pure (a : α) : Tandem R (pure a : Action σ α) := fun _ _ h => ⟨rfl, h⟩

theorem tandem_fail (e : Error) : Tandem R (fail e : Action σ α) := fun _ _ h => ⟨rfl, h⟩

theorem tandem_read {f : σ → α} (hf : ∀ s t, R s t → f t = f s) : Tandem R (read f) :=
  fun s t h => ⟨congrArg Except.ok (hf s t h), h⟩

theorem tandem_expect {f : σ → Option α} (hf : ∀ s t, R s t → f t = f s) : Tandem R (expect f) := by
  intro s t h
  rw [run_expect, run_expect, hf s t h]
  cases f s <;> exact ⟨rfl, h⟩

theorem tandem_update {f : σ → σ} (hf : ∀ s t, R s t → R (f s) (f t)) : Tandem R (update f) :=
  fun s t h => ⟨rfl, hf s t h⟩

/-- The first part gives both runs one value, so they go on with one action. -/
theorem tandem_bind {x : Action σ α} {f : α → Action σ β} (hx : Tandem R x) (hf : ∀ a, Tandem R (f a)) :
    Tandem R (x >>= f) := by
  intro s t h
  obtain ⟨result, related⟩ := hx s t h
  rw [run_bind, run_bind]
  rcases hs : x.run s with ⟨e | a, s'⟩ <;> rcases ht : x.run t with ⟨e' | b, t'⟩ <;> rw [hs, ht] at result related <;>
    cases result
  · exact ⟨rfl, related⟩
  · exact hf a s' t' related

theorem tandem_forM {f : α → Action σ Unit} (hf : ∀ a, Tandem R (f a)) (l : List α) : Tandem R (l.forM f) := by
  induction l with
  | nil => exact tandem_pure ()
  | cons a l ih => exact tandem_bind (hf a) fun _ => ih

theorem tandem_onFailure {x : Action σ α} {f : Error → Action σ Unit} (hx : Tandem R x) (hf : ∀ e, Tandem R (f e)) :
    Tandem R (x.onFailure f) := by
  intro s t h
  obtain ⟨result, related⟩ := hx s t h
  simp only [onFailure, run] at result related ⊢
  rcases hs : x s with ⟨e | a, s'⟩ <;> rcases ht : x t with ⟨e' | b, t'⟩ <;> rw [hs, ht] at result related <;>
    cases result
  · exact ⟨rfl, (hf e s' t' related).2⟩
  · exact ⟨rfl, related⟩

/-- What is in tandem on a part of the state is so on the whole, if the rest of the state does not hinder. -/
theorem tandem_onPart {get : σ → τ} {set : τ → σ → σ} {Q : τ → τ → Prop} {x : Action τ α}
    (hget : ∀ s t, R s t → Q (get s) (get t)) (hset : ∀ s t a b, R s t → Q a b → R (set a s) (set b t))
    (hx : Tandem Q x) : Tandem R (onPart get set x) := by
  intro s t h
  obtain ⟨result, related⟩ := hx _ _ (hget s t h)
  exact ⟨result, hset s t _ _ h related⟩

end Tandem

end MediaGraph.Action

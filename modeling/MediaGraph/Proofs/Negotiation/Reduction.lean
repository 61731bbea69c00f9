/-
  MediaGraph.Proofs.Negotiation.Reduction — what reducing does to the sets.

  Reducing only pins: a set with a choice is left with one of its candidates, for
  every end that holds it (`Shared.Pinned`). Handles, counts, the graph and the
  record of queries stay as they are. `Reduced` says so of a pass and of any
  number of passes (`reduced_reduce`).
-/

import MediaGraph.Negotiation

namespace MediaGraph

/-- A set stays as it is, or is left with one of several candidates. -/
def Shared.Pinned (s t : Shared) : Prop :=
  t = s ∨ 1 < s.set.size ∧ t.refs = s.refs ∧ t.set.kind = s.set.kind ∧ ∃ f ∈ s.set, t.set.formats = [f]

namespace Shared.Pinned

variable {s t u : Shared}

theorem refl (s : Shared) : Pinned s s := Or.inl rfl

theorem trans (h : Pinned s t) (h' : Pinned t u) : Pinned s u := by
  rcases h with rfl | ⟨h1, hr, hk, f, hf, ht⟩
  · exact h'
  · rcases h' with rfl | ⟨h1', -⟩
    · exact Or.inr ⟨h1, hr, hk, f, hf, ht⟩
    · simp [FormatSet.size, ht] at h1'

theorem refs (h : Pinned s t) : t.refs = s.refs := by
  rcases h with rfl | ⟨-, hr, -⟩
  · rfl
  · exact hr

/-- No candidate is new. -/
theorem subset (h : Pinned s t) {f : Format} (hf : f ∈ t.set) : f ∈ s.set := by
  rcases h with rfl | ⟨-, -, -, g, hg, ht⟩
  · exact hf
  · rw [FormatSet.mem_def, ht, List.mem_singleton] at hf
    exact hf ▸ hg

theorem nonempty (h : Pinned s t) : (∃ f, f ∈ t.set) ↔ ∃ f, f ∈ s.set := by
  refine ⟨fun ⟨f, hf⟩ => ⟨f, h.subset hf⟩, fun hs => ?_⟩
  rcases h with rfl | ⟨-, -, -, f, -, ht⟩
  · exact hs
  · exact ⟨f, by rw [FormatSet.mem_def, ht]; exact List.mem_singleton.mpr rfl⟩

end Shared.Pinned

theorem Arena.pin?_eq_some {a b : Arena} {id : Nat} {f : Format} (h : a.pin? id f = some b) :
    ∃ s t, a.slot? id = some s ∧ f ∈ s.set ∧ t.refs = s.refs ∧ t.set.kind = s.set.kind ∧ t.set.formats = [f] ∧
      b = a.setSlot id (some t) := by
  unfold Arena.pin? at h
  split at h
  · cases h
  · rename_i s hs
    obtain ⟨set, hp, rfl⟩ := Option.map_eq_some_iff.mp h
    obtain ⟨hf, hk, hl⟩ := FormatSet.pin?_eq_some_iff.mp hp
    exact ⟨s, { s with set }, hs, hf, rfl, hk, hl, rfl⟩

theorem Arena.link_pin (a : Arena) (id : Nat) (f : Format) (l : Nat) : ((a.pin? id f).getD a).link l = a.link l := by
  cases hp : a.pin? id f with
  | none => rfl
  | some b =>
    obtain ⟨_, _, -, -, -, -, -, rfl⟩ := pin?_eq_some hp
    rfl

namespace Negotiation

/-- `n'` is `n` with some sets pinned. -/
structure Reduced (n n' : Negotiation) : Prop where
  /-- Notices apart, the session is as it was. -/
  session : n'.session = { n.session with events := n'.session.events }
  converters : n'.converters = n.converters
  surveys : n'.surveys = n.surveys
  links : n'.arena.links = n.arena.links
  slots : n'.arena.slots.length = n.arena.slots.length
  gone : ∀ {id}, n.arena.slot? id = none → n'.arena.slot? id = none
  slot : ∀ {id s}, n.arena.slot? id = some s → ∃ t, n'.arena.slot? id = some t ∧ s.Pinned t

variable {n n' n'' : Negotiation}

theorem Reduced.graph (h : Reduced n n') : n'.session.graph = n.session.graph := by rw [h.session]

theorem Reduced.refl (n : Negotiation) : Reduced n n :=
  ⟨rfl, rfl, rfl, rfl, rfl, fun h => h, fun {_ s} h => ⟨s, h, .refl s⟩⟩

theorem Reduced.trans (h : Reduced n n') (h' : Reduced n' n'') : Reduced n n'' where
  session := by rw [h'.session, h.session]
  converters := h'.converters.trans h.converters
  surveys := h'.surveys.trans h.surveys
  links := h'.links.trans h.links
  slots := h'.slots.trans h.slots
  gone hs := h'.gone (h.gone hs)
  slot hs := by
    obtain ⟨t, ht, hp⟩ := h.slot hs
    obtain ⟨u, hu, hp'⟩ := h'.slot ht
    exact ⟨u, hu, hp.trans hp'⟩

/-- Every slot was there before. -/
theorem Reduced.slot_of (h : Reduced n n') {id : Nat} {t : Shared} (ht : n'.arena.slot? id = some t) :
    ∃ s, n.arena.slot? id = some s ∧ s.Pinned t := by
  cases hs : n.arena.slot? id with
  | none => rw [h.gone hs] at ht; cases ht
  | some s =>
    obtain ⟨t', ht', hp⟩ := h.slot hs
    rw [ht] at ht'
    cases ht'
    exact ⟨s, rfl, hp⟩

theorem Reduced.foldl {α : Type} {f : Negotiation → α → Negotiation} (hf : ∀ n a, Reduced n (f n a)) (l : List α)
    (n : Negotiation) : Reduced n (l.foldl f n) := by
  induction l generalizing n with
  | nil => exact .refl n
  | cons a l ih => exact (hf n a).trans (ih (f n a))

theorem reduced_narrow (format : Format) (n : Negotiation) (output : Nat) : Reduced n (narrow format n output) := by
  unfold narrow
  split
  · split
    · rename_i s hs
      split
      · rename_i hsize
        split
        · rename_i arena hp
          obtain ⟨s', t, hs', hf, hr, hk, ht, rfl⟩ := Arena.pin?_eq_some hp
          simp only [Arena.get?, hs', Option.map_some, Option.some.injEq] at hs
          refine ⟨rfl, rfl, rfl, rfl, by simp [Arena.setSlot], fun {id} hn => ?_, fun {id s₀} h => ?_⟩
          · rw [Arena.slot?_setSlot, if_neg]
            · exact hn
            · intro he
              obtain ⟨rfl, -⟩ := he
              rw [hs'] at hn
              cases hn
          · rw [Arena.slot?_setSlot]
            split
            · rename_i e
              rw [← e.1, hs'] at h
              cases h
              exact ⟨t, rfl, Or.inr ⟨by rw [hs]; exact hsize.2, hr, hk, _, hf, ht⟩⟩
            · exact ⟨s₀, h, .refl s₀⟩
        · exact .refl n
      · exact .refl n
    · exact .refl n
  · exact .refl n

theorem reduced_reduceNode (n : Negotiation) (node : Node) : Reduced n (reduceNode n node) := by
  refine Reduced.foldl (fun n input => ?_) _ n
  split
  · exact Reduced.foldl (reduced_narrow _) _ n
  · exact .refl n

theorem reduced_reducePass (n : Negotiation) : Reduced n n.reducePass := Reduced.foldl reduced_reduceNode _ n

theorem reduced_reduce (n : Negotiation) : Reduced n n.reducePasses.2 := by
  induction n using reducePasses.induct with
  | case1 n next h ih =>
    rw [reducePasses, if_pos h]
    exact (reduced_reducePass n).trans ih
  | case2 n next h =>
    rw [reducePasses, if_neg h]
    exact reduced_reducePass n

end Negotiation

end MediaGraph

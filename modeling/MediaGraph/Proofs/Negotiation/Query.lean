/-
  MediaGraph.Proofs.Negotiation.Query — what one query does to the sets.

  All that a query does is to share sets among ends of their kind that are bound to
  the node asked (`queried_induct`). Where these held nothing before, the query
  leaves every other end and every set there was as it found them (`grown_queried`),
  and each of its own ends holds a set (`held_queried`). A filter that says nothing
  leaves one set at all ends of its kind (`held_passThrough`).
-/

import MediaGraph.Negotiation.Declared
import MediaGraph.Proofs.Graph.Wiring
import MediaGraph.Proofs.Negotiation.Counting

namespace MediaGraph

theorem FormatSet.kind_all (k : MediaKind) : (all k).kind = k := by cases k <;> rfl

/-! ## The pads and ends of a node -/

theorem Node.layout_pads (n : Node) (d : Direction) : n.layout.pads d = (n.pads d).map (·.kind) := by
  cases d <;> rfl

theorem Node.kind_of_pad {n : Node} {d : Direction} {i : Nat} {p : Pad} (hp : (n.pads d)[i]? = some p) :
    (n.layout.pads d)[i]? = some p.kind := by
  rw [layout_pads, List.getElem?_map, hp]
  rfl

/-- One of the node's pads is bound to this end. -/
def Node.Owns (n : Node) (l : Nat) (side : Side) : Prop := ∃ d, d.side = side ∧ ∃ p ∈ n.pads d, p.link = some l

theorem Node.mem_boundEnds {n : Node} {e : BoundEnd} :
    e ∈ n.boundEnds ↔ ∃ d, ∃ p ∈ n.pads d, p.link = some e.link ∧ p.kind = e.kind ∧ d.side = e.side := by
  have single : ∀ d p, Pad.boundEnd? d p = some e ↔ p.link = some e.link ∧ p.kind = e.kind ∧ d.side = e.side := by
    intro d p
    cases e
    cases hp : p.link <;> simp [Pad.boundEnd?, hp, and_left_comm]
  simp only [boundEnds, List.mem_append, List.mem_filterMap, single]
  constructor
  · intro he
    rcases he with h | h
    · exact ⟨.input, h⟩
    · exact ⟨.output, h⟩
  · intro he
    obtain ⟨d, h⟩ := he
    cases d
    · exact Or.inl h
    · exact Or.inr h

theorem Node.owns_of_mem {n : Node} {e : BoundEnd} (h : e ∈ n.boundEnds) : n.Owns e.link e.side := by
  obtain ⟨d, p, hp, hl, -, hs⟩ := mem_boundEnds.mp h
  exact ⟨d, hs, p, hp, hl⟩

theorem Node.Owns.exists_mem {n : Node} {l : Nat} {side : Side} (h : n.Owns l side) :
    ∃ e ∈ n.boundEnds, e.link = l ∧ e.side = side := by
  obtain ⟨d, hs, p, hp, hl⟩ := h
  exact ⟨⟨p.kind, l, side⟩, mem_boundEnds.mpr ⟨d, p, hp, hl, rfl, hs⟩, rfl, rfl⟩

namespace Arena

variable {n : Node} {a b : Arena}

/-! ## Only sharing -/

/-- A declaration for one pad that is not rejected is of the pad's kind. -/
theorem kind_of_accepted {d : Direction} {i : Nat} {s : FormatSet} {p : Pad}
    (h : Declaration.rejection? n.layout (.pad d i s) = none) (hp : (n.pads d)[i]? = some p) : p.kind = s.kind := by
  rw [Declaration.rejection?_pad_eq_none, Node.kind_of_pad hp] at h
  exact Option.some.inj h

section Sharing

variable {P : Arena → Prop}
  (hP : ∀ a s ends, (∀ e ∈ ends, e ∈ n.boundEnds ∧ e.kind = s.kind) → P a → P (a.shareEnds s ends))
include hP

theorem declare_induct (d : Declaration) (h : P a) : P (declare n a d) := by
  unfold declare
  split
  · exact h
  · cases d with
    | pad dir i formats =>
      refine hP _ _ _ (fun e he => ?_) h
      obtain ⟨p, hp, hb⟩ := Option.bind_eq_some_iff.mp (Option.mem_toList.mp he)
      obtain ⟨l, hl, rfl⟩ := Option.map_eq_some_iff.mp hb
      refine ⟨Node.mem_boundEnds.mpr ⟨dir, p, List.mem_of_getElem? hp, hl, rfl, rfl⟩, ?_⟩
      rename_i hr
      rw [Bool.not_eq_true, Option.isSome_eq_false_iff, Option.isNone_iff_eq_none] at hr
      exact kind_of_accepted hr hp
    | common formats =>
      refine hP _ _ _ (fun e he => ?_) h
      obtain ⟨hb, hk⟩ := List.mem_filter.mp he
      exact ⟨(List.mem_filter.mp hb).1, of_decide_eq_true hk⟩

theorem declareAll_induct (ds : List Declaration) (h : P a) : P (a.declareAll n ds) := by
  induction ds generalizing a with
  | nil => exact h
  | cons d ds ih => exact ih (declare_induct hP d h)

theorem fillBare_induct (h : P a) : P (a.fillBare n) := by
  have fold : ∀ (es : List BoundEnd) (b : Arena), (∀ e ∈ es, e ∈ n.boundEnds) → P b →
      P (es.foldl (fun b e => b.shareEnds (.all e.kind) [e]) b) := by
    intro es
    induction es with
    | nil => exact fun _ _ hb => hb
    | cons e es ih =>
      intro b hes hb
      refine ih _ (fun e' he' => hes e' (List.mem_cons_of_mem e he')) (hP b _ [e] (fun e' he' => ?_) hb)
      rw [List.mem_singleton.mp he']
      exact ⟨hes e List.mem_cons_self, (FormatSet.kind_all e.kind).symm⟩
  exact fold _ a (fun e he => (List.mem_filter.mp he).1) h

/-- The sets right after a query in which the filter made these declarations. -/
def queried (a : Arena) (n : Node) (ds : List Declaration) : Arena := (a.declareAll n ds).fillBare n

theorem queried_induct (ds : List Declaration) (h : P a) : P (a.queried n ds) :=
  fillBare_induct hP (declareAll_induct hP ds h)

end Sharing

/-! ## What is left alone -/

/-- `b` is `a` with new sets, all of them held at ends of the node. -/
structure Grown (n : Node) (a b : Arena) : Prop where
  slot : ∀ id < a.slots.length, b.slot? id = a.slot? id
  length : a.slots.length ≤ b.slots.length
  others : ∀ l side, ¬ n.Owns l side → (b.link l).get side = (a.link l).get side
  fresh : ∀ l side id, n.Owns l side → (b.link l).get side = some id → a.slots.length ≤ id

theorem slot?_drop?_of_ne (a : Arena) {h : Option Nat} {j : Nat} (hj : h ≠ some j) :
    (a.drop? h).slot? j = a.slot? j := by
  cases h with
  | none => rfl
  | some id =>
    rw [drop?, slot?_drop, if_neg]
    exact fun e => hj (by rw [e])

theorem Grown.bind (h : a.Grown n b) {l : Nat} {side : Side} {id : Nat} (ho : n.Owns l side)
    (hid : a.slots.length ≤ id) : a.Grown n (b.bind l side id) where
  slot j hj := by
    rw [Arena.bind, slot?_drop?_of_ne, slot?_setLink, slot?_retain, if_neg (by omega), h.slot j hj]
    intro e
    have := h.fresh l side j ho e
    omega
  length := by rw [length_slots_bind]; exact h.length
  others m t hm := by
    rw [get_bind, if_neg, h.others m t hm]
    intro he
    obtain ⟨rfl, rfl⟩ := he
    exact hm ho
  fresh m t j hm hj := by
    rw [get_bind] at hj
    split at hj
    · cases hj; exact hid
    · exact h.fresh m t j hm hj

theorem Grown.push (h : a.Grown n b) (s : FormatSet) : a.Grown n (b.push s) where
  slot j hj := by
    have := h.length
    rw [slot?_push, if_neg (by omega), h.slot j hj]
  length := by rw [length_slots_push]; exact Nat.le_succ_of_le h.length
  others := h.others
  fresh := h.fresh

theorem Grown.bind_all (h : a.Grown n b) {id : Nat} (hid : a.slots.length ≤ id) (ends : List (Nat × Side))
    (ho : ∀ e ∈ ends, n.Owns e.1 e.2) : a.Grown n (ends.foldl (fun b e => b.bind e.1 e.2 id) b) := by
  induction ends generalizing b with
  | nil => exact h
  | cons e ends ih =>
    exact ih (h.bind (ho e List.mem_cons_self) hid) fun e' he' => ho e' (List.mem_cons_of_mem e he')

theorem Grown.shareEnds (h : a.Grown n b) (s : FormatSet) {ends : List BoundEnd} (he : ∀ e ∈ ends, e ∈ n.boundEnds) :
    a.Grown n (b.shareEnds s ends) := by
  unfold Arena.shareEnds share
  split
  · exact h
  · refine (h.push s).bind_all h.length _ fun x hx => ?_
    obtain ⟨e, hm, rfl⟩ := List.mem_map.mp hx
    exact Node.owns_of_mem (he e hm)

/-- No end of the node holds anything. -/
def Bare (n : Node) (a : Arena) : Prop := ∀ l side, n.Owns l side → (a.link l).get side = none

theorem grown_refl (h : Bare n a) : a.Grown n a where
  slot _ _ := rfl
  length := Nat.le_refl _
  others _ _ _ := rfl
  fresh l side id ho he := by rw [h l side ho] at he; cases he

theorem grown_declareAll (h : Bare n a) (ds : List Declaration) : a.Grown n (a.declareAll n ds) :=
  declareAll_induct (P := a.Grown n) (fun _ s _ he hb => hb.shareEnds s fun e h => (he e h).1) ds (grown_refl h)

theorem grown_queried (h : Bare n a) (ds : List Declaration) : a.Grown n (a.queried n ds) :=
  queried_induct (P := a.Grown n) (fun _ s _ he hb => hb.shareEnds s fun e h => (he e h).1) ds (grown_refl h)

/-! ## What is filled -/

theorem get_bind_all (a : Arena) (id : Nat) (ends : List (Nat × Side)) (m : Nat) (t : Side) :
    ((ends.foldl (fun b e => b.bind e.1 e.2 id) a).link m).get t =
      if (m, t) ∈ ends then some id else (a.link m).get t := by
  induction ends generalizing a with
  | nil => simp
  | cons e ends ih =>
    rw [List.foldl_cons, ih, get_bind]
    by_cases h : (m, t) ∈ ends
    · simp [h]
    · by_cases he : e = (m, t)
      · subst he; simp
      · have : ¬ (e.1 = m ∧ e.2 = t) := fun ⟨h1, h2⟩ => he (by rw [← h1, ← h2])
        simp [h, this, Ne.symm he]

/-- The ends of a list hold the new set, the others what they held. -/
theorem get_shareEnds (a : Arena) (s : FormatSet) (ends : List BoundEnd) (m : Nat) (t : Side) :
    ((a.shareEnds s ends).link m).get t =
      if ∃ e ∈ ends, e.link = m ∧ e.side = t then some a.slots.length else (a.link m).get t := by
  have hm : (m, t) ∈ ends.map (fun e => (e.link, e.side)) ↔ ∃ e ∈ ends, e.link = m ∧ e.side = t := by
    simp only [List.mem_map, Prod.mk.injEq]
  unfold shareEnds share
  split
  · rename_i h
    have h' : ends = [] := by simpa using h
    subst h'
    simp
  · rw [get_bind_all, link_push]
    simp only [hm]

theorem isSome_get_shareEnds (a : Arena) (s : FormatSet) (ends : List BoundEnd) {m : Nat} {t : Side}
    (h : ((a.link m).get t).isSome) : (((a.shareEnds s ends).link m).get t).isSome := by
  rw [get_shareEnds]
  split
  · rfl
  · exact h

/-- What an end holds, `fillBare` leaves; what holds nothing, it fills. -/
theorem get_fill (es : List BoundEnd) (a : Arena) {m : Nat} {t : Side}
    (h : ((a.link m).get t).isSome ∨ ∃ e ∈ es, e.link = m ∧ e.side = t) :
    (((es.foldl (fun b e => b.shareEnds (.all e.kind) [e]) a).link m).get t).isSome := by
  induction es generalizing a with
  | nil =>
    rcases h with h | ⟨e, he, -⟩
    · exact h
    · cases he
  | cons e es ih =>
    apply ih
    rcases h with h | ⟨e', he', hl⟩
    · exact Or.inl (isSome_get_shareEnds a _ _ h)
    · rcases List.mem_cons.mp he' with rfl | he'
      · left
        rw [get_shareEnds, if_pos ⟨e', List.mem_singleton.mpr rfl, hl⟩]
        rfl
      · exact Or.inr ⟨e', he', hl⟩

theorem held_queried {l : Nat} {side : Side} (ho : n.Owns l side) (a : Arena) (ds : List Declaration) :
    (((a.queried n ds).link l).get side).isSome := by
  obtain ⟨e, he, rfl, rfl⟩ := ho.exists_mem
  refine get_fill _ _ ?_
  by_cases h : (((a.declareAll n ds).link e.link).get e.side).isSome
  · exact Or.inl h
  · refine Or.inr ⟨e, List.mem_filter.mpr ⟨he, ?_⟩, rfl, rfl⟩
    simpa [held?] using h

/-! ## Saying nothing -/

/-- Ends that hold something are not filled. -/
theorem get_fillBare_of_isSome {m : Nat} {t : Side} (h : ((a.link m).get t).isSome) :
    ((a.fillBare n).link m).get t = (a.link m).get t := by
  have fold : ∀ (es : List BoundEnd) (b : Arena), (∀ e ∈ es, ¬ (e.link = m ∧ e.side = t)) →
      ((es.foldl (fun b e => b.shareEnds (.all e.kind) [e]) b).link m).get t = (b.link m).get t := by
    intro es
    induction es with
    | nil => exact fun _ _ => rfl
    | cons e es ih =>
      intro b hes
      rw [List.foldl_cons, ih _ fun e' he' => hes e' (List.mem_cons_of_mem e he'), get_shareEnds, if_neg]
      intro he
      obtain ⟨e', he', hl⟩ := he
      exact hes e' (List.mem_cons.mpr (Or.inl (List.mem_singleton.mp he'))) hl
  refine fold _ a fun e he hl => ?_
  have hb := (List.mem_filter.mp he).2
  rw [held?, hl.1, hl.2] at hb
  rw [Option.isNone_iff_eq_none.mp hb] at h
  cases h

/-- All ends of the filter's kind hold the one set declared in common. -/
theorem held_passThrough (h : Bare n a) {d : Direction} {p : Pad} (hp : p ∈ n.pads d)
    (hk : p.kind = n.layout.kind) {l : Nat} (hl : p.link = some l) :
    ((a.queried n [n.layout.passThrough]).link l).get d.side = some a.slots.length := by
  have he : (⟨p.kind, l, d.side⟩ : BoundEnd) ∈ n.boundEnds := Node.mem_boundEnds.mpr ⟨d, p, hp, hl, rfl, rfl⟩
  have hd : ((a.declareAll n [n.layout.passThrough]).link l).get d.side = some a.slots.length := by
    show ((a.shareEnds (.all n.layout.kind) _).link l).get d.side = _
    rw [get_shareEnds, if_pos]
    refine ⟨_, List.mem_filter.mpr ⟨List.mem_filter.mpr ⟨he, ?_⟩, ?_⟩, rfl, rfl⟩
    · have := h l d.side ⟨d, rfl, p, hp, hl⟩
      simpa [held?] using this
    · simp [FormatSet.kind_all, hk]
  rw [queried, get_fillBare_of_isSome (by rw [hd]; rfl), hd]

end Arena

end MediaGraph

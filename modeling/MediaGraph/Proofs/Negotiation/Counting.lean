/-
  MediaGraph.Proofs.Negotiation.Counting — a set's count is the number of its holders.

  The operations on shared sets take a handle from an end, or make out a new one,
  before they give it to another end or let it go. `Counted a hand` allows for the
  handles in hand: the count of a live set is the number of ends that hold it plus
  the times it is in hand, and is never 0; only handles handed out are held.
  `LiveAt a hand id`: if this handle is held or in hand, it names a live set. `Live`
  says so of every handle.

  The count survives every operation (`Counted.share`, `Counted.bind`,
  `Counted.release`, `Counted.moveAccepted`, `Counted.merge`, `Counted.of_refs`).
  A set is live as long as it is held, whatever becomes of others (`LiveAt.share` and
  so on); so where only live handles are given out, `Live` survives too.
-/

import Mathlib.Algebra.GroupWithZero.Nat
import MediaGraph.Negotiation.Arena

namespace MediaGraph

/-! ## Holders -/

namespace Ends

/-- How often a link holds a set: at none of its ends, at one or at both. -/
def count (e : Ends) (id : Nat) : Nat := (e.offered.toList ++ e.accepted.toList).count id

theorem get_set (e : Ends) (s t : Side) (h : Option Nat) : (e.set s h).get t = if s = t then h else e.get t := by
  cases s <;> cases t <;> rfl

theorem get_of_current {e : Ends} {id : Nat} (h : e.current = some id) : ∃ s, e.get s = some id := by
  rcases e with ⟨_ | i, j⟩
  · exact ⟨.accepted, h⟩
  · exact ⟨.offered, h⟩

theorem count_set (e : Ends) (s : Side) (h : Option Nat) (id : Nat) :
    (e.set s h).count id + (e.get s).toList.count id = e.count id + h.toList.count id := by
  cases s <;> simp only [count, set, get, List.count_append] <;> omega

theorem count_pos {e : Ends} {id : Nat} : 0 < e.count id ↔ ∃ s, e.get s = some id := by
  rw [count, List.count_pos_iff, List.mem_append, Option.mem_toList, Option.mem_toList]
  refine ⟨fun h => ?_, fun ⟨s, h⟩ => ?_⟩
  · rcases h with h | h
    · exact ⟨.offered, h⟩
    · exact ⟨.accepted, h⟩
  · cases s
    · exact Or.inl h
    · exact Or.inr h

theorem get_redirect (e : Ends) (i j : Nat) (s : Side) :
    (e.redirect j i).get s = if e.get s = some j then some i else e.get s := by
  cases s <;> rfl

theorem count_redirect {i j : Nat} (h : i ≠ j) (e : Ends) (id : Nat) :
    (e.redirect j i).count id = if id = i then e.count i + e.count j else if id = j then 0 else e.count id := by
  have swap : ∀ o : Option Nat, (if o = some j then some i else o).toList.count id =
      if id = i then o.toList.count i + o.toList.count j else if id = j then 0 else o.toList.count id := by
    intro o
    rcases o with _ | k
    · simp
    · by_cases hk : k = j
      · subst hk
        by_cases hi : id = i
        · subst hi; simp [Ne.symm h]
        · simp only [if_true, hi, if_false, Option.toList_some, List.count_singleton, beq_iff_eq, Ne.symm hi]
          split
          · rfl
          · rename_i hj; rw [if_neg (Ne.symm hj)]
      · by_cases hi : id = i
        · subst hi; simp [List.count_singleton, hk]
        · by_cases hj : id = j
          · subst hj; simp [hi, hk]
          · simp [hi, hj, hk]
  simp only [count, redirect, List.count_append, swap]
  split
  · omega
  · split <;> rfl

end Ends

theorem sum_set (xs : List Nat) (i y : Nat) (h : i < xs.length) : (xs.set i y).sum + xs[i] = xs.sum + y := by
  induction xs generalizing i with
  | nil => simp at h
  | cons x xs ih =>
    cases i with
    | zero =>
      simp only [List.set_cons_zero, List.sum_cons, List.getElem_cons_zero]
      omega
    | succ i =>
      have := ih i (by simpa using h)
      simp only [List.set_cons_succ, List.sum_cons, List.getElem_cons_succ]
      omega

namespace Arena

/-- The number of ends that hold a set. -/
def holders (a : Arena) (id : Nat) : Nat := (a.links.map (·.count id)).sum

theorem holders_setLink (a : Arena) (l : Nat) (e : Ends) (id : Nat) :
    (a.setLink l e).holders id + (a.link l).count id = a.holders id + e.count id := by
  let links := a.links ++ List.replicate (l + 1 - a.links.length) ({} : Ends)
  have hl : l < links.length := by simp only [links, List.length_append, List.length_replicate]; omega
  have hsum : (links.map (·.count id)).sum = a.holders id := by
    simp [links, holders, List.map_replicate, Ends.count]
  have hget : links[l] = a.link l := by
    simp only [links, link, List.getElem_append, List.getElem_replicate]
    split
    · rename_i h; rw [List.getElem?_eq_getElem h]; rfl
    · rename_i h; rw [List.getElem?_eq_none (by omega)]; rfl
  have := sum_set (links.map (·.count id)) l (e.count id) (by simpa using hl)
  rw [← List.map_set, hsum, List.getElem_map, hget] at this
  exact this

theorem holders_pos {a : Arena} {id : Nat} : 0 < a.holders id ↔ ∃ l s, (a.link l).get s = some id := by
  constructor
  · intro h
    obtain ⟨c, hc, hpos⟩ := List.sum_pos_iff_exists_pos_nat.mp h
    obtain ⟨e, he, rfl⟩ := List.mem_map.mp hc
    obtain ⟨l, hl, rfl⟩ := List.mem_iff_getElem.mp he
    obtain ⟨s, hs⟩ := Ends.count_pos.mp hpos
    exact ⟨l, s, by rw [link, List.getElem?_eq_getElem hl]; exact hs⟩
  · intro he
    obtain ⟨l, s, hs⟩ := he
    cases hl : a.links[l]? with
    | none => rw [link, hl] at hs; cases s <;> cases hs
    | some e =>
      rw [link, hl] at hs
      exact List.sum_pos_iff_exists_pos_nat.mpr
        ⟨_, List.mem_map.mpr ⟨e, List.mem_of_getElem? hl, rfl⟩, Ends.count_pos.mpr ⟨s, hs⟩⟩

/-! ## Counts -/

theorem slot?_retain (a : Arena) (id j : Nat) :
    (a.retain id).slot? j = if j = id then (a.slot? id).map fun s => { s with refs := s.refs + 1 } else a.slot? j := by
  unfold retain
  cases h : a.slot? id with
  | none => split <;> simp_all
  | some s =>
    simp only [slot?_setSlot, lt_of_slot?_eq_some h, and_true, Option.map_some, eq_comm]

theorem slot?_drop (a : Arena) (id j : Nat) :
    (a.drop id).slot? j = if j = id then
        (a.slot? id).bind fun s => if s.refs ≤ 1 then none else some { s with refs := s.refs - 1 }
      else a.slot? j := by
  unfold drop
  cases h : a.slot? id with
  | none => split <;> simp_all
  | some s =>
    simp only [slot?_setSlot, lt_of_slot?_eq_some h, and_true, Option.bind_some, eq_comm]

@[simp] theorem links_retain (a : Arena) (id : Nat) : (a.retain id).links = a.links := by
  unfold retain; split <;> rfl

@[simp] theorem links_drop (a : Arena) (id : Nat) : (a.drop id).links = a.links := by
  unfold drop; split <;> rfl

@[simp] theorem length_slots_retain (a : Arena) (id : Nat) : (a.retain id).slots.length = a.slots.length := by
  unfold retain; split
  · simp [setSlot]
  · rfl

@[simp] theorem length_slots_drop (a : Arena) (id : Nat) : (a.drop id).slots.length = a.slots.length := by
  unfold drop; split
  · simp [setSlot]
  · rfl

@[simp] theorem length_slots_setLink (a : Arena) (l : Nat) (e : Ends) :
    (a.setLink l e).slots.length = a.slots.length := rfl

@[simp] theorem holders_retain (a : Arena) (id j : Nat) : (a.retain id).holders j = a.holders j := by simp [holders]

@[simp] theorem holders_drop (a : Arena) (id j : Nat) : (a.drop id).holders j = a.holders j := by simp [holders]

/-- The count of a live set is the number of its holders, those in hand included, and is never 0. -/
structure Counted (a : Arena) (hand : List Nat) : Prop where
  exact : ∀ {id s}, a.slot? id = some s → s.refs = a.holders id + hand.count id
  used : ∀ {id s}, a.slot? id = some s → 0 < s.refs
  issued : ∀ {id}, 0 < a.holders id + hand.count id → id < a.slots.length

/-- If a handle is held or in hand, it names a live set. -/
def LiveAt (a : Arena) (hand : List Nat) (id : Nat) : Prop := 0 < a.holders id + hand.count id → (a.slot? id).isSome

/-- A handle held or in hand names a live set. -/
def Live (a : Arena) (hand : List Nat) : Prop := ∀ id, 0 < a.holders id + hand.count id → (a.slot? id).isSome

variable {a : Arena} {hand : List Nat} {id t : Nat}

theorem get?_of_slot? {s : Shared} (h : a.slot? id = some s) : a.get? id = some s.set := by
  rw [get?, h]
  rfl

theorem get?_eq_some {s : FormatSet} : a.get? id = some s ↔ ∃ t, a.slot? id = some t ∧ t.set = s :=
  Option.map_eq_some_iff

/-- A set dropped by one holder is what it was for the others. -/
theorem get?_drop {j : Nat} {s : FormatSet} (h : (a.drop id).get? j = some s) : a.get? j = some s := by
  obtain ⟨t, ht, rfl⟩ := get?_eq_some.mp h
  rw [slot?_drop] at ht
  split at ht
  · rename_i e
    obtain ⟨u, hu, ht⟩ := Option.bind_eq_some_iff.mp ht
    split at ht
    · cases ht
    · cases ht
      rw [e, get?_of_slot? hu]
  · exact get?_of_slot? ht

theorem get?_drop? {h : Option Nat} {j : Nat} {s : FormatSet} (hs : (a.drop? h).get? j = some s) :
    a.get? j = some s := by
  cases h with
  | none => exact hs
  | some id => exact get?_drop hs

theorem Live.held (h : a.Live hand) {l : Nat} {side : Side} (hl : (a.link l).get side = some id) :
    (a.slot? id).isSome :=
  h id (Nat.add_pos_left (holders_pos.mpr ⟨l, side, hl⟩) _)

/-- Where nothing is in hand, a live set is held at an end. -/
theorem Counted.held (h : a.Counted []) {s : Shared} (hs : a.slot? id = some s) :
    ∃ l side, (a.link l).get side = some id := by
  have hexact := h.exact hs
  have hused := h.used hs
  rw [List.count_nil] at hexact
  exact holders_pos.mp (by omega)

theorem counted_empty : Counted {} [] :=
  ⟨fun h => by simp [slot?] at h, fun h => by simp [slot?] at h, fun h => by simp [holders] at h⟩

theorem live_empty : Live {} [] := fun _ h => by simp [holders] at h

/-! ### Handles change hands -/

theorem Counted.retain (h : a.Counted hand) (hid : id < a.slots.length) : (a.retain id).Counted (id :: hand) := by
  constructor
  · intro j s hs
    rw [slot?_retain] at hs
    split at hs
    · rename_i e
      obtain ⟨s₀, hs₀, rfl⟩ := Option.map_eq_some_iff.mp hs
      have := h.exact hs₀
      subst e
      simp only [holders_retain, List.count_cons_self]
      omega
    · rename_i e
      rw [holders_retain, List.count_cons_of_ne (Ne.symm e)]
      exact h.exact hs
  · intro j s hs
    rw [slot?_retain] at hs
    split at hs
    · obtain ⟨s₀, -, rfl⟩ := Option.map_eq_some_iff.mp hs
      exact Nat.succ_pos _
    · exact h.used hs
  · intro j hj
    rw [length_slots_retain]
    by_cases e : j = id
    · rw [e]; exact hid
    · rw [holders_retain, List.count_cons_of_ne (Ne.symm e)] at hj
      exact h.issued hj

/-- What is taken in hand was live, if it is the set in question. -/
theorem LiveAt.retain (h : a.LiveAt hand t) (hid : t = id → (a.slot? id).isSome) :
    (a.retain id).LiveAt (id :: hand) t := by
  intro hj
  rw [slot?_retain]
  split
  · rename_i e
    simpa using hid e
  · rename_i e
    rw [holders_retain, List.count_cons_of_ne (Ne.symm e)] at hj
    exact h hj

theorem Counted.drop (h : a.Counted (id :: hand)) : (a.drop id).Counted hand := by
  constructor
  · intro j s hs
    rw [slot?_drop] at hs
    split at hs
    · rename_i e
      obtain ⟨s₀, hs₀, hs⟩ := Option.bind_eq_some_iff.mp hs
      split at hs
      · cases hs
      · cases hs
        have := h.exact hs₀
        subst e
        rw [List.count_cons_self] at this
        simp only [holders_drop]
        omega
    · rename_i e
      have := h.exact hs
      rw [List.count_cons_of_ne (Ne.symm e)] at this
      rw [holders_drop]
      exact this
  · intro j s hs
    rw [slot?_drop] at hs
    split at hs
    · obtain ⟨s₀, -, hs⟩ := Option.bind_eq_some_iff.mp hs
      split at hs
      · cases hs
      · cases hs
        simp only
        omega
    · exact h.used hs
  · intro j hj
    rw [length_slots_drop]
    refine h.issued (Nat.lt_of_lt_of_le hj ?_)
    rw [holders_drop]
    exact Nat.add_le_add_left (List.count_le_count_cons) _

/-- A set whose last holder lets go is dropped, one that is still held is not. -/
theorem LiveAt.drop (h : a.LiveAt (id :: hand) t) (hc : a.Counted (id :: hand)) : (a.drop id).LiveAt hand t := by
  intro hj
  rw [holders_drop] at hj
  rw [slot?_drop]
  have hj' : (a.slot? t).isSome := h (Nat.lt_of_lt_of_le hj (Nat.add_le_add_left List.count_le_count_cons _))
  split
  · rename_i e
    subst e
    obtain ⟨s, hs⟩ := Option.isSome_iff_exists.mp hj'
    have := hc.exact hs
    rw [List.count_cons_self] at this
    rw [hs, Option.bind_some, if_neg (by omega)]
    rfl
  · exact hj'

theorem Counted.drop? {h : Option Nat} (hc : a.Counted (h.toList ++ hand)) : (a.drop? h).Counted hand := by
  cases h with
  | none => exact hc
  | some id => exact Counted.drop hc

theorem LiveAt.drop? {h : Option Nat} (hl : a.LiveAt (h.toList ++ hand) t) (hc : a.Counted (h.toList ++ hand)) :
    (a.drop? h).LiveAt hand t := by
  cases h with
  | none => exact hl
  | some id => exact LiveAt.drop hl hc

/-- Handles pass between the ends of a link and the hand. -/
theorem holders_exchange {l : Nat} {e : Ends} {hand' : List Nat}
    (he : ∀ id, e.count id + hand'.count id = (a.link l).count id + hand.count id) (id : Nat) :
    (a.setLink l e).holders id + hand'.count id = a.holders id + hand.count id := by
  have h1 := holders_setLink a l e id
  have h2 := he id
  omega

theorem Counted.exchange (h : a.Counted hand) {l : Nat} {e : Ends} {hand' : List Nat}
    (he : ∀ id, e.count id + hand'.count id = (a.link l).count id + hand.count id) :
    (a.setLink l e).Counted hand' :=
  ⟨fun hs => (h.exact hs).trans (holders_exchange he _).symm, h.used,
    fun hj => h.issued (by rw [holders_exchange he] at hj; exact hj)⟩

theorem LiveAt.exchange (h : a.LiveAt hand t) {l : Nat} {e : Ends} {hand' : List Nat}
    (he : ∀ id, e.count id + hand'.count id = (a.link l).count id + hand.count id) :
    (a.setLink l e).LiveAt hand' t := fun hj => h (by rw [holders_exchange he] at hj; exact hj)

/-! ### Giving -/

theorem count_hand (id j : Nat) (hand : List Nat) :
    (id :: hand).count j = (some id).toList.count j + hand.count j := by
  rw [Option.toList_some, ← List.count_append]
  rfl

/-- An end takes what is in hand for what it held. -/
theorem count_give (e : Ends) (side : Side) (id j : Nat) (hand : List Nat) :
    (e.set side (some id)).count j + ((e.get side).toList ++ hand).count j = e.count j + (id :: hand).count j := by
  have h := Ends.count_set e side (some id) j
  rw [List.count_append, count_hand]
  omega

theorem Counted.give (h : a.Counted (id :: hand)) (l : Nat) (side : Side) :
    ((a.setLink l ((a.link l).set side (some id))).drop? ((a.link l).get side)).Counted hand :=
  (h.exchange fun j => count_give (a.link l) side id j hand).drop?

theorem LiveAt.give (h : a.LiveAt (id :: hand) t) (hc : a.Counted (id :: hand)) (l : Nat) (side : Side) :
    ((a.setLink l ((a.link l).set side (some id))).drop? ((a.link l).get side)).LiveAt hand t :=
  (h.exchange fun j => count_give (a.link l) side id j hand).drop?
    (hc.exchange fun j => count_give (a.link l) side id j hand)

@[simp] theorem link_retain (a : Arena) (id l : Nat) : (a.retain id).link l = a.link l := by simp [link]

@[simp] theorem link_drop? (a : Arena) (h : Option Nat) (l : Nat) : (a.drop? h).link l = a.link l := by
  cases h <;> simp [drop?, link]

@[simp] theorem length_slots_drop? (a : Arena) (h : Option Nat) : (a.drop? h).slots.length = a.slots.length := by
  cases h <;> simp [drop?]

theorem link_bind (a : Arena) (l : Nat) (side : Side) (id m : Nat) :
    (a.bind l side id).link m = if l = m then (a.link l).set side (some id) else a.link m := by
  rw [bind, link_drop?, link_setLink]
  split <;> simp

@[simp] theorem length_slots_bind (a : Arena) (l : Nat) (side : Side) (id : Nat) :
    (a.bind l side id).slots.length = a.slots.length := by simp [bind]

theorem Counted.bind (h : a.Counted hand) (hid : id < a.slots.length) (l : Nat) (side : Side) :
    (a.bind l side id).Counted hand := by
  have := (h.retain hid).give l side
  rwa [link_retain] at this

theorem LiveAt.bind (h : a.LiveAt hand t) (hc : a.Counted hand) (hid : id < a.slots.length)
    (hlive : t = id → (a.slot? id).isSome) (l : Nat) (side : Side) : (a.bind l side id).LiveAt hand t := by
  have := (h.retain hlive).give (hc.retain hid) l side
  rwa [link_retain] at this

/-! ### Sharing -/

theorem slot?_push (a : Arena) (s : FormatSet) (j : Nat) :
    (a.push s).slot? j = if j = a.slots.length then some ⟨s, 0⟩ else a.slot? j := by
  simp only [slot?, push]
  split
  · rename_i h; subst h; simp
  · rename_i h
    rw [List.getElem?_append]
    split
    · rfl
    · rw [List.getElem?_eq_none (by simp; omega), List.getElem?_eq_none (by omega)]

@[simp] theorem link_push (a : Arena) (s : FormatSet) (l : Nat) : (a.push s).link l = a.link l := rfl

@[simp] theorem length_slots_push (a : Arena) (s : FormatSet) : (a.push s).slots.length = a.slots.length + 1 := by
  simp [push]

/-- A new set is taken in hand. Nobody held its number before. -/
theorem Counted.issue (h : a.Counted hand) (s : FormatSet) :
    ((a.push s).retain a.slots.length).Counted (a.slots.length :: hand) := by
  have unheld : a.holders a.slots.length + hand.count a.slots.length = 0 :=
    Nat.eq_zero_of_not_pos fun hp => Nat.lt_irrefl _ (h.issued hp)
  constructor
  · intro j t ht
    rw [slot?_retain, slot?_push, slot?_push] at ht
    by_cases e : j = a.slots.length
    · subst e
      simp only [if_true, Option.map_some, Option.some.injEq] at ht
      subst ht
      rw [holders_retain, List.count_cons_self]
      show 0 + 1 = a.holders a.slots.length + (hand.count a.slots.length + 1)
      omega
    · rw [if_neg e, if_neg e] at ht
      rw [holders_retain, List.count_cons_of_ne (Ne.symm e)]
      exact h.exact ht
  · intro j t ht
    rw [slot?_retain, slot?_push, slot?_push] at ht
    by_cases e : j = a.slots.length
    · rw [if_pos e, if_pos rfl, Option.map_some, Option.some.injEq] at ht
      subst ht
      exact Nat.succ_pos _
    · rw [if_neg e, if_neg e] at ht
      exact h.used ht
  · intro j hj
    rw [length_slots_retain, length_slots_push]
    by_cases e : j = a.slots.length
    · omega
    · rw [holders_retain, List.count_cons_of_ne (Ne.symm e)] at hj
      exact Nat.lt_succ_of_lt (h.issued hj)

theorem LiveAt.issue (h : a.LiveAt hand t) (s : FormatSet) :
    ((a.push s).retain a.slots.length).LiveAt (a.slots.length :: hand) t := by
  intro hj
  rw [slot?_retain, slot?_push, slot?_push]
  by_cases e : t = a.slots.length
  · simp [e]
  · rw [if_neg e, if_neg e]
    rw [holders_retain, List.count_cons_of_ne (Ne.symm e)] at hj
    exact h hj

theorem Counted.bind_push (h : a.Counted hand) (s : FormatSet) (l : Nat) (side : Side) :
    ((a.push s).bind l side a.slots.length).Counted hand := by
  have := (h.issue s).give l side
  rwa [link_retain] at this

theorem LiveAt.bind_push (h : a.LiveAt hand t) (hc : a.Counted hand) (s : FormatSet) (l : Nat) (side : Side) :
    ((a.push s).bind l side a.slots.length).LiveAt hand t := by
  have := (h.issue s).give (hc.issue s) l side
  rwa [link_retain] at this

theorem Counted.bind_all (h : a.Counted hand) (hid : id < a.slots.length) (ends : List (Nat × Side)) :
    (ends.foldl (fun b e => b.bind e.1 e.2 id) a).Counted hand := by
  induction ends generalizing a with
  | nil => exact h
  | cons e ends ih => exact ih (h.bind hid e.1 e.2) (by rwa [length_slots_bind])

theorem get_bind (a : Arena) (l : Nat) (side : Side) (id m : Nat) (t : Side) :
    ((a.bind l side id).link m).get t = if l = m ∧ side = t then some id else (a.link m).get t := by
  rw [link_bind]
  by_cases hm : l = m
  · subst hm; simp [Ends.get_set]
  · simp [hm]

/-- A set that an end holds is given to more ends. -/
theorem LiveAt.bind_all (h : a.LiveAt hand t) (hc : a.Counted hand) (hid : 0 < a.holders id) (ends : List (Nat × Side)) :
    (ends.foldl (fun b e => b.bind e.1 e.2 id) a).LiveAt hand t := by
  induction ends generalizing a with
  | nil => exact h
  | cons e ends ih =>
    have hlt := hc.issued (Nat.add_pos_left hid _)
    have hlive : t = id → (a.slot? id).isSome := by
      rintro rfl
      exact h (Nat.add_pos_left hid _)
    refine ih (h.bind hc hlt hlive e.1 e.2) (hc.bind hlt e.1 e.2) ?_
    exact holders_pos.mpr ⟨e.1, e.2, by rw [get_bind, if_pos ⟨rfl, rfl⟩]⟩

theorem Counted.share (h : a.Counted hand) (s : FormatSet) (ends : List (Nat × Side)) :
    (a.share s ends).2.Counted hand := by
  cases ends with
  | nil => exact h
  | cons e ends => exact (h.bind_push s e.1 e.2).bind_all (by simp) ends

theorem LiveAt.share (h : a.LiveAt hand t) (hc : a.Counted hand) (s : FormatSet) (ends : List (Nat × Side)) :
    (a.share s ends).2.LiveAt hand t := by
  cases ends with
  | nil => exact h
  | cons e ends =>
    refine (h.bind_push hc s e.1 e.2).bind_all (hc.bind_push s e.1 e.2) ?_ ends
    exact holders_pos.mpr ⟨e.1, e.2, by rw [get_bind, if_pos ⟨rfl, rfl⟩]⟩

theorem Live.share (h : a.Live hand) (hc : a.Counted hand) (s : FormatSet) (ends : List (Nat × Side)) :
    (a.share s ends).2.Live hand := fun t => LiveAt.share (h t) hc s ends

/-! ### Letting go and moving on -/

theorem link_release (a : Arena) (l m : Nat) : (a.release l).link m = if l = m then {} else a.link m := by
  rw [release, link_drop?, link_drop?, link_setLink]

theorem Counted.release (h : a.Counted hand) (l : Nat) : (a.release l).Counted hand := by
  refine Counted.drop? (Counted.drop? (h.exchange fun j => ?_))
  simp only [List.count_append, Ends.count, Option.toList_none, List.append_nil, List.count_nil]
  omega

theorem LiveAt.release (h : a.LiveAt hand t) (hc : a.Counted hand) (l : Nat) : (a.release l).LiveAt hand t := by
  have he : ∀ j, (({} : Ends).count j) + ((a.link l).offered.toList ++ ((a.link l).accepted.toList ++ hand)).count j =
      (a.link l).count j + hand.count j := by
    intro j
    simp only [List.count_append, Ends.count, Option.toList_none, List.append_nil, List.count_nil]
    omega
  exact ((h.exchange he).drop? (hc.exchange he)).drop? (hc.exchange he).drop?

theorem Live.release (h : a.Live hand) (hc : a.Counted hand) (l : Nat) : (a.release l).Live hand :=
  fun t => LiveAt.release (h t) hc l

/-- An end gives up what it holds. -/
theorem count_take (e : Ends) (side : Side) {id : Nat} (h : e.get side = some id) (j : Nat) (hand : List Nat) :
    (e.set side none).count j + (id :: hand).count j = e.count j + hand.count j := by
  have hs := Ends.count_set e side none j
  rw [h, Option.toList_none, List.count_nil] at hs
  rw [count_hand]
  omega

/-- Moving to a link that holds nothing drops nothing. -/
theorem moveAccepted_eq (a : Arena) {src dst id : Nat} (h : (a.link src).accepted = some id) (hne : src ≠ dst)
    (hd : a.link dst = {}) :
    (∀ j, (a.moveAccepted src dst).slot? j = a.slot? j) ∧
    ∀ m, (a.moveAccepted src dst).link m =
      if m = dst then ⟨none, some id⟩ else if m = src then ⟨(a.link src).offered, none⟩ else a.link m := by
  have hb : (a.setLink src { a.link src with accepted := none }).link dst = {} := by
    rw [link_setLink, if_neg hne, hd]
  unfold moveAccepted
  simp only [h, hb]
  refine ⟨fun _ => rfl, fun m => ?_⟩
  show ((a.setLink src _).setLink dst _).link m = _
  rw [link_setLink, link_setLink]
  by_cases e : m = dst
  · rw [if_pos e.symm, if_pos e]
  · rw [if_neg (Ne.symm e), if_neg e]
    by_cases e' : m = src
    · rw [if_pos e'.symm, if_pos e']
    · rw [if_neg (Ne.symm e'), if_neg e']

/-- What an end holds after a move to a link that held nothing: at that link, what the other link accepted; elsewhere
what it held, and at the other link only what is offered. -/
theorem get_moveAccepted {a : Arena} {src dst m id : Nat} {side : Side} (hne : src ≠ dst) (hd : a.link dst = {})
    (h : ((a.moveAccepted src dst).link m).get side = some id) :
    m = dst ∧ side = .accepted ∧ (a.link src).get .accepted = some id ∨
      m ≠ dst ∧ (m = src → side = .offered) ∧ (a.link m).get side = some id := by
  cases ha : (a.link src).accepted with
  | none =>
    have he : a.moveAccepted src dst = a := by unfold moveAccepted; rw [ha]
    rw [he] at h
    refine Or.inr ⟨fun e => ?_, fun e => ?_, h⟩
    · rw [e, hd] at h
      cases side <;> cases h
    · cases side with
      | offered => rfl
      | accepted =>
        rw [e] at h
        cases ha.symm.trans h
  | some k =>
    rw [(a.moveAccepted_eq ha hne hd).2] at h
    split at h
    · rename_i e
      cases side with
      | offered => cases h
      | accepted => exact Or.inl ⟨e, rfl, ha.trans h⟩
    · rename_i hm
      split at h
      · rename_i e
        cases side with
        | offered => exact Or.inr ⟨hm, fun _ => rfl, e ▸ h⟩
        | accepted => cases h
      · rename_i e
        exact Or.inr ⟨hm, fun e' => absurd e' e, h⟩

theorem Counted.moveAccepted (h : a.Counted hand) (src dst : Nat) : (a.moveAccepted src dst).Counted hand := by
  unfold Arena.moveAccepted
  split
  · exact h
  · rename_i id hid
    exact Counted.give (h.exchange fun j => count_take (a.link src) .accepted hid j hand) dst .accepted

theorem LiveAt.moveAccepted (h : a.LiveAt hand t) (hc : a.Counted hand) (src dst : Nat) :
    (a.moveAccepted src dst).LiveAt hand t := by
  unfold Arena.moveAccepted
  split
  · exact h
  · rename_i id hid
    have he := fun j => count_take (a.link src) .accepted hid j hand
    exact LiveAt.give (h.exchange he) (hc.exchange he) dst .accepted

theorem Live.moveAccepted (h : a.Live hand) (hc : a.Counted hand) (src dst : Nat) :
    (a.moveAccepted src dst).Live hand := fun t => LiveAt.moveAccepted (h t) hc src dst

/-! ### Narrowing -/

theorem Counted.of_refs (h : a.Counted hand) {b : Arena} (hl : b.links = a.links)
    (hn : b.slots.length = a.slots.length)
    (hs : ∀ {id t}, b.slot? id = some t → ∃ s, a.slot? id = some s ∧ t.refs = s.refs) : b.Counted hand := by
  have hh : ∀ id, b.holders id = a.holders id := fun id => by simp only [holders, hl]
  constructor
  · intro id t ht
    obtain ⟨s, hs, e⟩ := hs ht
    rw [hh, e, h.exact hs]
  · intro id t ht
    obtain ⟨s, hs, e⟩ := hs ht
    rw [e]
    exact h.used hs
  · intro id hid
    rw [hh] at hid
    rw [hn]
    exact h.issued hid

theorem LiveAt.of_slot (h : a.LiveAt hand t) {b : Arena} (hl : b.links = a.links)
    (hs : (a.slot? t).isSome → (b.slot? t).isSome) : b.LiveAt hand t := by
  intro ht
  simp only [holders, hl] at ht
  exact hs (h ht)

theorem Live.of_slots (h : a.Live hand) {b : Arena} (hl : b.links = a.links)
    (hs : ∀ {id}, (a.slot? id).isSome → (b.slot? id).isSome) : b.Live hand := fun t => LiveAt.of_slot (h t) hl hs

/-- A live set is written anew. -/
theorem slot?_rewrite {s : Shared} (hs : a.slot? id = some s) (t : Shared) (j : Nat) :
    (a.setSlot id (some t)).slot? j = if j = id then some t else a.slot? j := by
  rw [slot?_setSlot]
  simp only [lt_of_slot?_eq_some hs, and_true, eq_comm]

theorem Counted.rewrite (h : a.Counted hand) {s t : Shared} (hs : a.slot? id = some s) (ht : t.refs = s.refs) :
    (a.setSlot id (some t)).Counted hand := by
  refine h.of_refs rfl (by simp [setSlot]) ?_
  intro j u hu
  rw [slot?_rewrite hs] at hu
  split at hu
  · rename_i e
    cases hu
    rw [e]
    exact ⟨s, hs, ht⟩
  · exact ⟨u, hu, rfl⟩

theorem LiveAt.rewrite (h : a.LiveAt hand t) {s : Shared} (hs : a.slot? id = some s) (u : Shared) :
    (a.setSlot id (some u)).LiveAt hand t := by
  refine h.of_slot rfl fun ht => ?_
  rw [slot?_rewrite hs]
  split
  · rfl
  · exact ht

theorem Live.rewrite (h : a.Live hand) {s : Shared} (hs : a.slot? id = some s) (u : Shared) :
    (a.setSlot id (some u)).Live hand := fun t => LiveAt.rewrite (h t) hs u

theorem merge_eq_some {i j : Nat} {b : Arena} (h : a.merge i j = some b) :
    (i = j ∧ b = a ∧ (a.slot? i).isSome) ∨
      (i ≠ j ∧ ∃ s t, a.slot? i = some s ∧ a.slot? j = some t ∧ (∃ f, f ∈ s.set.intersect t.set) ∧
        (∀ id, b.slot? id = if id = i then some ⟨s.set.intersect t.set, s.refs + t.refs⟩
          else if id = j then none else a.slot? id) ∧
        b.slots.length = a.slots.length ∧ b.links = a.links.map (·.redirect j i)) := by
  unfold merge at h
  split at h
  · rename_i e
    obtain ⟨s, hs, rfl⟩ := Option.map_eq_some_iff.mp h
    exact Or.inl ⟨e, rfl, by rw [hs]; rfl⟩
  · rename_i hne
    refine Or.inr ⟨hne, ?_⟩
    split at h
    · rename_i s t hs ht
      split at h
      · cases h
      · rename_i hc
        cases h
        refine ⟨s, t, hs, ht, FormatSet.isEmpty_eq_false_iff.mp (by simpa using hc), fun id => ?_, by simp, rfl⟩
        show ((a.setSlot j none).setSlot i _).slot? id = _
        rw [slot?_setSlot, slot?_setSlot]
        have hi := lt_of_slot?_eq_some hs
        have hj := lt_of_slot?_eq_some ht
        by_cases e : id = i
        · subst e; simp [setSlot, hi]
        · by_cases e' : id = j
          · subst e'; simp [hj, Ne.symm e, e]
          · simp [Ne.symm e, Ne.symm e', e, e']
    · cases h

theorem merge_of_common {i j : Nat} {s t : Shared} {f : Format} (hs : a.slot? i = some s)
    (ht : a.slot? j = some t) (hfs : f ∈ s.set) (hft : f ∈ t.set) : ∃ b, a.merge i j = some b := by
  unfold merge
  split
  · exact ⟨a, by rw [hs]; rfl⟩
  · rw [hs, ht]
    have : (s.set.intersect t.set).isEmpty = false :=
      FormatSet.isEmpty_eq_false_iff.mpr ⟨f, FormatSet.mem_intersect.mpr ⟨hfs, hft⟩⟩
    simp [this]

theorem link_of_redirect {i j : Nat} {b : Arena} (h : b.links = a.links.map (·.redirect j i)) (m : Nat) :
    b.link m = (a.link m).redirect j i := by
  rw [link, link, h, List.getElem?_map]
  cases a.links[m]? <;> rfl

/-- What held either set holds the first. -/
theorem holders_redirect {i j : Nat} (h : i ≠ j) {b : Arena} (hb : b.links = a.links.map (·.redirect j i)) (id : Nat) :
    b.holders id = if id = i then a.holders i + a.holders j else if id = j then 0 else a.holders id := by
  simp only [holders, hb]
  induction a.links with
  | nil => simp
  | cons e es ih =>
    simp only [List.map_cons, List.sum_cons, ih, Ends.count_redirect h]
    split
    · omega
    · split <;> omega

theorem Counted.merge (h : a.Counted []) {i j : Nat} {b : Arena} (hb : a.merge i j = some b) : b.Counted [] := by
  rcases merge_eq_some hb with ⟨-, rfl, -⟩ | ⟨hne, s, t, hs, ht, -, hslot, hlen, hlinks⟩
  · exact h
  · have hh := holders_redirect hne hlinks
    have h0 := h.exact hs
    have h1 := h.exact ht
    simp only [List.count_nil, Nat.add_zero] at h0 h1
    constructor
    · intro id u hu
      rw [hslot] at hu
      rw [hh]
      split at hu
      · rename_i e
        cases hu
        rw [if_pos e, ← h0, ← h1]
        rfl
      · rename_i e
        split at hu
        · cases hu
        · rename_i e'
          rw [if_neg e, if_neg e']
          exact h.exact hu
    · intro id u hu
      rw [hslot] at hu
      split at hu
      · cases hu
        exact Nat.add_pos_left (h.used hs) _
      · split at hu
        · cases hu
        · exact h.used hu
    · intro id hid
      rw [hlen]
      rw [hh] at hid
      split at hid
      · rename_i e
        rw [e]
        exact lt_of_slot?_eq_some hs
      · split at hid
        · exact absurd hid (Nat.lt_irrefl 0)
        · exact h.issued hid

theorem Live.merge (h : a.Live []) {i j : Nat} {b : Arena} (hb : a.merge i j = some b) : b.Live [] := by
  rcases merge_eq_some hb with ⟨-, rfl, -⟩ | ⟨hne, s, t, hs, ht, -, hslot, hlen, hlinks⟩
  · exact h
  · intro id hid
    rw [holders_redirect hne hlinks] at hid
    rw [hslot]
    split
    · rfl
    · rename_i e
      rw [if_neg e] at hid
      split
      · rename_i e'
        rw [if_pos e'] at hid
        exact absurd hid (Nat.lt_irrefl 0)
      · rename_i e'
        rw [if_neg e'] at hid
        exact h id hid

end Arena

end MediaGraph

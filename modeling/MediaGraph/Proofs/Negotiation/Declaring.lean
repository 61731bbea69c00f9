/-
  MediaGraph.Proofs.Negotiation.Declaring — what a query depends on.

  A query numbers its sets after those there are, and puts them at the ends of the
  links its node is bound to. Seen from the pads neither matters. Two nodes that
  differ only in which links their pads are bound to (`Node.Twins`) and make the same
  declarations are left alike: the same pads get a set, pads get one set at the one
  where they do at the other, and what they get are the same formats (`Alike`).

  Both queries are sequences of sets shared among ends, the ends of the one at the
  same pads as those of the other (`EndTwins`). So what is shown of one set shared
  (`Alike.share`) carries over to a declaration, to filling what is bare, and to a
  whole query (`alike_queried`).
-/

import Mathlib.Data.List.Forall2
import MediaGraph.Proofs.Negotiation.Classes

namespace MediaGraph

open Arena

/-! ## Pads -/

namespace Node

/-- The link a pad is bound to. -/
def linkAt? (n : Node) (d : Direction) (pad : Nat) : Option Nat := (n.pads d)[pad]? >>= (·.link)

/-- What the end holds that a pad is bound to. -/
def handle? (n : Node) (a : Arena) (d : Direction) (pad : Nat) : Option Nat :=
  n.linkAt? d pad >>= fun l => (a.link l).get d.side

/-- No two pads of a direction are bound to one link. -/
def Apart (n : Node) : Prop := ∀ {d i j l}, n.linkAt? d i = some l → n.linkAt? d j = some l → i = j

/-- The nodes differ only in the links that their pads are bound to. -/
structure Twins (n n' : Node) : Prop where
  detached : n'.detached = n.detached
  bound : ∀ d pad, (n'.linkAt? d pad).isSome = (n.linkAt? d pad).isSome
  apart : n.Apart
  apart' : n'.Apart

variable {n n' : Node}

theorem linkAt?_eq_some {d : Direction} {pad l : Nat} :
    n.linkAt? d pad = some l ↔ ∃ p, (n.pads d)[pad]? = some p ∧ p.link = some l := Option.bind_eq_some_iff

theorem linkAt?_of_pad {d : Direction} {pad : Nat} {p : Pad} (hp : (n.pads d)[pad]? = some p) :
    n.linkAt? d pad = p.link := by
  rw [linkAt?, hp]
  rfl

/-- Where no end of the node holds anything, no pad does. -/
theorem handle?_of_bare {a : Arena} (h : Bare n a) (d : Direction) (pad : Nat) : n.handle? a d pad = none := by
  rw [handle?]
  cases hl : n.linkAt? d pad with
  | none => rfl
  | some l =>
    obtain ⟨p, hp, hpl⟩ := linkAt?_eq_some.mp hl
    exact h l d.side ⟨d, rfl, p, List.mem_of_getElem? hp, hpl⟩

/-- The pads of a node without their bindings. -/
theorem pads_detached (n : Node) (d : Direction) : n.detached.pads d = (n.pads d).map ({ · with link := none }) := by
  cases d <;> rfl

theorem serial_of_detached (h : n'.detached = n.detached) : n'.serial = n.serial := by
  have hserial := congrArg Node.serial h
  exact hserial

theorem layout_of_detached (h : n'.detached = n.detached) : n'.layout = n.layout := by
  have hlayout := congrArg Node.layout h
  simpa [layout, detached, Function.comp_def] using hlayout

namespace Twins

variable (ht : n.Twins n')
include ht

theorem symm : n'.Twins n := ⟨ht.detached.symm, fun d pad => (ht.bound d pad).symm, ht.apart', ht.apart⟩

/-- A pad of the one and a pad of the other, of one direction and number. -/
theorem kind_eq {d : Direction} {pad : Nat} {p p' : Pad} (hp : (n.pads d)[pad]? = some p)
    (hp' : (n'.pads d)[pad]? = some p') : p'.kind = p.kind := by
  have hkinds := congrArg (fun n : Node => ((n.pads d)[pad]?).map (·.kind)) ht.detached
  simpa [pads_detached, hp, hp'] using hkinds

theorem length_pads (d : Direction) : (n'.pads d).length = (n.pads d).length := by
  have hlength := congrArg (fun n : Node => (n.pads d).length) ht.detached
  simpa [pads_detached] using hlength

end Twins

end Node

variable {n n' : Node} {a b : Arena} {E E' : List BoundEnd}

/-! ## Ends -/

/-- The ends are bound to one pad, by either node. -/
def EndTwins (n n' : Node) (e e' : BoundEnd) : Prop :=
  e'.kind = e.kind ∧ ∃ d pad, n.linkAt? d pad = some e.link ∧ n'.linkAt? d pad = some e'.link ∧
    e.side = d.side ∧ e'.side = d.side

theorem EndTwins.symm {e e' : BoundEnd} (h : EndTwins n n' e e') : EndTwins n' n e' e := by
  obtain ⟨hk, d, pad, hl, hl', hs, hs'⟩ := h
  exact ⟨hk.symm, d, pad, hl', hl, hs', hs⟩

theorem endTwins_pad (ht : n.Twins n') {d : Direction} {pad : Nat} {p p' : Pad} (hp : (n.pads d)[pad]? = some p)
    (hp' : (n'.pads d)[pad]? = some p') : Option.Rel (EndTwins n n') (p.boundEnd? d) (p'.boundEnd? d) := by
  have hl : n.linkAt? d pad = p.link := Node.linkAt?_of_pad hp
  have hl' : n'.linkAt? d pad = p'.link := Node.linkAt?_of_pad hp'
  have hbound := ht.bound d pad
  rw [hl, hl'] at hbound
  have hkind := ht.kind_eq hp hp'
  unfold Pad.boundEnd?
  cases h : p.link <;> cases h' : p'.link <;> rw [h, h'] at hbound
  · exact .none
  · cases hbound
  · cases hbound
  · exact .some ⟨hkind, d, pad, hl.trans h, hl'.trans h', rfl, rfl⟩

/-- A declaration for one pad concerns the ends at that pad. -/
theorem endTwins_at (ht : n.Twins n') (d : Direction) (pad : Nat) :
    Option.Rel (EndTwins n n') ((n.pads d)[pad]? >>= Pad.boundEnd? d) ((n'.pads d)[pad]? >>= Pad.boundEnd? d) := by
  have hlen := ht.length_pads d
  rcases Nat.lt_or_ge pad (n.pads d).length with hlt | hge
  · have hp := List.getElem?_eq_getElem hlt
    have hp' := List.getElem?_eq_getElem (hlen.symm ▸ hlt)
    rw [hp, hp']
    exact endTwins_pad ht hp hp'
  · rw [List.getElem?_eq_none hge, List.getElem?_eq_none (hlen.symm ▸ hge)]
    exact .none

theorem endTwins_boundEnds (ht : n.Twins n') : List.Forall₂ (EndTwins n n') n.boundEnds n'.boundEnds := by
  have pads : ∀ d, List.Forall₂ (fun p p' => ∃ pad : Nat, (n.pads d)[pad]? = some p ∧ (n'.pads d)[pad]? = some p')
      (n.pads d) (n'.pads d) := by
    intro d
    refine List.forall₂_iff_get.mpr ⟨(ht.length_pads d).symm, fun i hi hi' => ⟨i, ?_, ?_⟩⟩
    · exact List.getElem?_eq_getElem hi
    · exact List.getElem?_eq_getElem hi'
  have ends : ∀ d, List.Forall₂ (EndTwins n n') ((n.pads d).filterMap (Pad.boundEnd? d))
      ((n'.pads d).filterMap (Pad.boundEnd? d)) := by
    intro d
    refine List.rel_filterMap ?_ (pads d)
    rintro p p' ⟨pad, hp, hp'⟩
    exact endTwins_pad ht hp hp'
  exact List.rel_append (ends .input) (ends .output)

/-- The end that the pad is bound to is listed. -/
def Node.Listed (n : Node) (E : List BoundEnd) (d : Direction) (pad : Nat) : Prop :=
  ∃ e ∈ E, n.linkAt? d pad = some e.link ∧ e.side = d.side

theorem Node.Listed.twin (ht : n.Twins n') (hE : List.Forall₂ (EndTwins n n') E E') {d : Direction} {pad : Nat}
    (h : n.Listed E d pad) : n'.Listed E' d pad := by
  obtain ⟨e, he, hl, hs⟩ := h
  induction hE with
  | nil => cases he
  | @cons x x' E E' hx _ ih =>
    rcases List.mem_cons.mp he with rfl | he
    · obtain ⟨-, d', pad', hl', hl'', hs', hs''⟩ := hx
      obtain rfl := Direction.side_injective (hs.symm.trans hs')
      obtain rfl := ht.apart hl hl'
      exact ⟨x', List.mem_cons_self, hl'', hs''⟩
    · obtain ⟨e', he', h'⟩ := ih he
      exact ⟨e', List.mem_cons_of_mem x' he', h'⟩

theorem listed_iff (ht : n.Twins n') (hE : List.Forall₂ (EndTwins n n') E E') (d : Direction) (pad : Nat) :
    n'.Listed E' d pad ↔ n.Listed E d pad :=
  ⟨.twin ht.symm (List.Forall₂.flip (hE.imp fun _ _ h => h.symm)), .twin ht hE⟩

/-! ## One set shared -/

theorem handle?_of_listed (a : Arena) (s : FormatSet) {d : Direction} {pad : Nat} (h : n.Listed E d pad) :
    n.handle? (a.shareEnds s E) d pad = some a.slots.length := by
  obtain ⟨e, he, hl, hs⟩ := h
  rw [Node.handle?, hl]
  exact (get_shareEnds a s E e.link d.side).trans (if_pos ⟨e, he, rfl, hs⟩)

theorem handle?_of_not_listed (a : Arena) (s : FormatSet) {d : Direction} {pad : Nat} (h : ¬ n.Listed E d pad) :
    n.handle? (a.shareEnds s E) d pad = n.handle? a d pad := by
  unfold Node.handle?
  cases hl : n.linkAt? d pad with
  | none => rfl
  | some l =>
    refine (get_shareEnds a s E l d.side).trans (if_neg fun hE => h ?_)
    obtain ⟨e, he, rfl, hs⟩ := hE
    exact ⟨e, he, hl, hs⟩

/-- The sets the node's pads hold are numbered. -/
def Node.Numbered (n : Node) (a : Arena) : Prop := ∀ d pad id, n.handle? a d pad = some id → id < a.slots.length

/-- The pads of one node hold in one arena what those of another hold in another, numbers apart. -/
structure Alike (n n' : Node) (a b : Arena) : Prop where
  numbered : n.Numbered a
  numbered' : n'.Numbered b
  holds : ∀ d pad, (n'.handle? b d pad).isSome = (n.handle? a d pad).isSome
  same : ∀ d i e j, n'.handle? b d i = n'.handle? b e j ↔ n.handle? a d i = n.handle? a e j
  sets : ∀ {d pad id id' s s'}, n.handle? a d pad = some id → n'.handle? b d pad = some id' →
    a.get? id = some s → b.get? id' = some s' → s' = s

theorem alike_of_bare (ha : Bare n a) (hb : Bare n' b) : Alike n n' a b := by
  have hn := Node.handle?_of_bare ha
  have hn' := Node.handle?_of_bare hb
  exact ⟨by simp [Node.Numbered, hn], by simp [Node.Numbered, hn'], by simp [hn, hn'], by simp [hn, hn'], by simp [hn]⟩

/-- What can still be looked up after a set was bound is what it was. -/
theorem get?_bind_all {id : Nat} (ends : List (Nat × Side)) {i : Nat} {s : FormatSet}
    (h : (ends.foldl (fun b e => b.bind e.1 e.2 id) a).get? i = some s) : a.get? i = some s := by
  induction ends generalizing a with
  | nil => exact h
  | cons e ends ih =>
    obtain ⟨t, ht, rfl⟩ := get?_eq_some.mp (get?_drop? (ih h))
    rw [slot?_setLink, slot?_retain] at ht
    split at ht
    · rename_i hi
      obtain ⟨u, hu, rfl⟩ := Option.map_eq_some_iff.mp ht
      rw [hi]
      have hget := get?_of_slot? hu
      exact hget
    · exact get?_of_slot? ht

theorem get?_shareEnds {s t : FormatSet} {i : Nat} (h : (a.shareEnds s E).get? i = some t) :
    i = a.slots.length ∧ t = s ∨ i < a.slots.length ∧ a.get? i = some t := by
  have lt : a.get? i = some t → i < a.slots.length := by
    intro hi
    obtain ⟨u, hu, -⟩ := get?_eq_some.mp hi
    exact lt_of_slot?_eq_some hu
  unfold shareEnds Arena.share at h
  split at h
  · exact .inr ⟨lt h, h⟩
  · obtain ⟨u, hu, rfl⟩ := get?_eq_some.mp (get?_bind_all _ h)
    rw [slot?_push] at hu
    split at hu
    · cases hu
      exact .inl ⟨‹_›, rfl⟩
    · exact .inr ⟨lt_of_slot?_eq_some hu, get?_of_slot? hu⟩

theorem eq_of_get?_shareEnds {s t : FormatSet} (h : (a.shareEnds s E).get? a.slots.length = some t) : t = s := by
  rcases get?_shareEnds h with ⟨-, rfl⟩ | ⟨hlt, -⟩
  · rfl
  · exact absurd hlt (Nat.lt_irrefl _)

theorem get?_of_shareEnds {s t : FormatSet} {i : Nat} (hlt : i < a.slots.length)
    (h : (a.shareEnds s E).get? i = some t) : a.get? i = some t := by
  rcases get?_shareEnds h with ⟨rfl, -⟩ | ⟨-, h⟩
  · exact absurd hlt (Nat.lt_irrefl _)
  · exact h

theorem length_slots_bind_all (id : Nat) (ends : List (Nat × Side)) :
    (ends.foldl (fun b e => b.bind e.1 e.2 id) a).slots.length = a.slots.length := by
  induction ends generalizing a with
  | nil => rfl
  | cons e ends ih => rw [List.foldl_cons, ih, length_slots_bind]

theorem length_slots_shareEnds (a : Arena) (s : FormatSet) (E : List BoundEnd) :
    (a.shareEnds s E).slots.length = if E = [] then a.slots.length else a.slots.length + 1 := by
  unfold shareEnds Arena.share
  cases E with
  | nil => rfl
  | cons e E =>
    show (List.foldl _ (a.push s) _).slots.length = _
    rw [length_slots_bind_all, length_slots_push, if_neg (List.cons_ne_nil e E)]

theorem Node.Numbered.share (h : n.Numbered a) (s : FormatSet) (E : List BoundEnd) : n.Numbered (a.shareEnds s E) := by
  intro d pad id hid
  rw [length_slots_shareEnds]
  by_cases hl : n.Listed E d pad
  · rw [handle?_of_listed a s hl] at hid
    cases hid
    obtain ⟨e, he, -⟩ := hl
    rw [if_neg (List.ne_nil_of_mem he)]
    exact Nat.lt_succ_self _
  · rw [handle?_of_not_listed a s hl] at hid
    have hlt := h d pad id hid
    split <;> omega

/-- The pads listed are left one set, which no other pad holds. -/
theorem Node.Numbered.share_eq_iff (h : n.Numbered a) (s : FormatSet) (E : List BoundEnd) (d e : Direction) (i j : Nat) :
    n.handle? (a.shareEnds s E) d i = n.handle? (a.shareEnds s E) e j ↔
      n.Listed E d i ∧ n.Listed E e j ∨ ¬ n.Listed E d i ∧ ¬ n.Listed E e j ∧ n.handle? a d i = n.handle? a e j := by
  have new : ∀ d i, n.handle? a d i ≠ some a.slots.length := fun d i hid => Nat.lt_irrefl _ (h d i _ hid)
  by_cases hi : n.Listed E d i <;> by_cases hj : n.Listed E e j
  · simp [handle?_of_listed, hi, hj]
  · simp [handle?_of_listed, handle?_of_not_listed, hi, hj, Ne.symm (new e j)]
  · simp [handle?_of_listed, handle?_of_not_listed, hi, hj, new d i]
  · simp [handle?_of_not_listed, hi, hj]

theorem Alike.share (h : Alike n n' a b) (ht : n.Twins n') (s : FormatSet)
    (hE : List.Forall₂ (EndTwins n n') E E') : Alike n n' (a.shareEnds s E) (b.shareEnds s E') := by
  have listed := listed_iff ht hE
  refine ⟨h.numbered.share s E, h.numbered'.share s E', fun d pad => ?holds, fun d i e j => ?same, ?sets⟩
  case holds =>
    by_cases hl : n.Listed E d pad
    · rw [handle?_of_listed a s hl, handle?_of_listed b s ((listed d pad).mpr hl)]
      rfl
    · rw [handle?_of_not_listed a s hl, handle?_of_not_listed b s (mt (listed d pad).mp hl), h.holds]
  case same =>
    rw [h.numbered.share_eq_iff, h.numbered'.share_eq_iff, listed, listed, h.same]
  case sets =>
    intro d pad id id' t t' hid hid' ht' ht''
    by_cases hl : n.Listed E d pad
    · rw [handle?_of_listed a s hl] at hid
      rw [handle?_of_listed b s ((listed d pad).mpr hl)] at hid'
      cases hid
      cases hid'
      rw [eq_of_get?_shareEnds ht', eq_of_get?_shareEnds ht'']
    · rw [handle?_of_not_listed a s hl] at hid
      rw [handle?_of_not_listed b s (mt (listed d pad).mp hl)] at hid'
      exact h.sets hid hid' (get?_of_shareEnds (h.numbered _ _ _ hid) ht') (get?_of_shareEnds (h.numbered' _ _ _ hid') ht'')

/-! ## A whole query -/

theorem held?_twin (h : Alike n n' a b) {e e' : BoundEnd} (he : EndTwins n n' e e') :
    (b.held? e').isSome = (a.held? e).isSome := by
  obtain ⟨-, d, pad, hl, hl', hs, hs'⟩ := he
  have hholds := h.holds d pad
  rw [Node.handle?, Node.handle?, hl, hl'] at hholds
  rw [Arena.held?, Arena.held?, hs, hs']
  exact hholds

theorem forall₂_toList {α β : Type} {r : α → β → Prop} {o : Option α} {o' : Option β} (h : Option.Rel r o o') :
    List.Forall₂ r o.toList o'.toList := by
  cases h with
  | none => exact .nil
  | some h => exact .cons h .nil

theorem Alike.bare (h : Alike n n' a b) (ht : n.Twins n') :
    List.Forall₂ (EndTwins n n') (a.bare n) (b.bare n') := by
  refine List.rel_filter (fun e e' he => ?_) (endTwins_boundEnds ht)
  show (a.held? e).isNone = true ↔ (b.held? e').isNone = true
  rw [← Option.not_isSome, ← Option.not_isSome, held?_twin h he]

theorem Alike.declare (h : Alike n n' a b) (ht : n.Twins n') (d : Declaration) :
    Alike n n' (Arena.declare n a d) (Arena.declare n' b d) := by
  unfold Arena.declare
  rw [Node.layout_of_detached ht.detached]
  split
  · exact h
  · cases d with
    | pad dir i s => exact h.share ht s (forall₂_toList (endTwins_at ht dir i))
    | common s =>
      refine h.share ht s (List.rel_filter (fun e e' he => ?_) (h.bare ht))
      show decide (e.kind = s.kind) = true ↔ decide (e'.kind = s.kind) = true
      rw [he.1]

theorem Alike.declareAll (h : Alike n n' a b) (ht : n.Twins n') (ds : List Declaration) :
    Alike n n' (a.declareAll n ds) (b.declareAll n' ds) := by
  induction ds generalizing a b with
  | nil => exact h
  | cons d ds ih => exact ih (h.declare ht d)

theorem Alike.fillBare (h : Alike n n' a b) (ht : n.Twins n') : Alike n n' (a.fillBare n) (b.fillBare n') := by
  refine List.rel_foldl (P := Alike n n') (fun a b h e e' he => ?_) h (h.bare ht)
  rw [he.1]
  exact h.share ht _ (.cons he .nil)

/-- Two nodes that differ only in what they are bound to and make the same declarations are left alike. -/
theorem alike_queried (ht : n.Twins n') (ha : Bare n a) (hb : Bare n' b) (ds : List Declaration) :
    Alike n n' (a.queried n ds) (b.queried n' ds) :=
  ((alike_of_bare ha hb).declareAll ht ds).fillBare ht

end MediaGraph

/-
  MediaGraph.Proofs.Negotiation.Classes — the pads that have to agree on a format.

  What a pad's node left for it when it was asked is on record (`left?`). Two pads
  are tied when a link runs between them, or when one query left the same set for
  both (`Tied`); pads that a chain of ties connects are of one class (`SameClass`).

  `Coherent` is what negotiation keeps up between queries and the end of merging:
  the set a pad holds has the formats that were left for every pad holding it
  (`members`), in the order of one of them (`order`); pads that were left one set
  still hold one (`together`); and pads that hold one set are of one class through
  shared queries and links whose ends hold one set already (`joined`).
-/

import Mathlib.Logic.Relation
import MediaGraph.Proofs.Negotiation.Query
import MediaGraph.Negotiation

namespace MediaGraph

theorem Direction.side_injective {d e : Direction} (h : d.side = e.side) : d = e := by
  cases d <;> cases e <;> first | rfl | cases h

/-- The handle left for a pad. -/
def Survey.handle? (s : Survey) (d : Direction) (pad : Nat) : Option Nat :=
  (s.asked.pads d)[pad]? >>= (·.link) >>= fun l => (s.arena.link l).get d.side

namespace Negotiation

/-! ## Views by pad -/

/-- The last query a node answered. -/
def survey? (n : Negotiation) (node : Nat) : Option Survey := n.surveys.find? (·.node = node)

/-- The set the query of its node left for a pad, as a handle of that time. -/
def leftHandle? (n : Negotiation) (p : Port) : Option Nat := n.survey? p.node >>= (·.handle? p.direction p.pad)

/-- The set the query of its node left for a pad. -/
def left? (n : Negotiation) (p : Port) : Option FormatSet :=
  n.survey? p.node >>= fun s => s.handle? p.direction p.pad >>= s.arena.get?

/-- The query of the pad's node left this format for it. -/
def Allows (n : Negotiation) (p : Port) (f : Format) : Prop := ∃ s, n.left? p = some s ∧ f ∈ s

/-- What a pad holds now. -/
def held? (n : Negotiation) (p : Port) : Option Nat :=
  n.session.graph.bound? p >>= fun l => (n.arena.link l).get p.direction.side

/-- Both ends of a link hold the same set. -/
def Settled (n : Negotiation) (link : Nat) : Prop := ∃ h, n.arena.link link = ⟨some h, some h⟩

/-! ## Classes -/

inductive Tied (n : Negotiation) : Port → Port → Prop
  | link {l : Link} (d e : Direction) : l ∈ n.session.graph.links → Tied n (l.port d) (l.port e)
  | shared {p q : Port} {h : Nat} : p.node = q.node → n.leftHandle? p = some h → n.leftHandle? q = some h → Tied n p q

abbrev SameClass (n : Negotiation) : Port → Port → Prop := Relation.EqvGen (Tied n)

/-- The ties that took effect so far. -/
inductive Joined (n : Negotiation) : Port → Port → Prop
  | link {i : Nat} {l : Link} (d e : Direction) : n.session.graph.links[i]? = some l → n.Settled i →
      Joined n (l.port d) (l.port e)
  | shared {p q : Port} {h : Nat} : p.node = q.node → n.leftHandle? p = some h → n.leftHandle? q = some h → Joined n p q

theorem Joined.tied {n : Negotiation} {p q : Port} (h : Joined n p q) : Tied n p q := by
  cases h with
  | link d e hl _ => exact .link d e (List.mem_of_getElem? hl)
  | shared hn hp hq => exact .shared hn hp hq

/-- The records of bindings and of handles are right. -/
structure Accounted (n : Negotiation) : Prop where
  wired : n.session.graph.Wired
  counted : n.arena.Counted []
  live : n.arena.Live []
  known : ∀ {l side h}, (n.arena.link l).get side = some h → l < n.session.graph.links.length

structure Coherent (n : Negotiation) : Prop extends Accounted n where
  asked : ∀ {i}, (n.survey? i).isSome → i < n.session.graph.nodes.length
  origin : ∀ {sv}, sv ∈ n.surveys → ∃ a : Arena, a.Bare sv.asked ∧ sv.arena = a.queried sv.asked sv.declared
  filled : ∀ p, (n.held? p).isSome ↔ (n.session.graph.bound? p).isSome ∧ (n.survey? p.node).isSome
  handle : ∀ p, (n.leftHandle? p).isSome ↔ (n.held? p).isSome
  left : ∀ {p}, (n.leftHandle? p).isSome → (n.left? p).isSome
  members : ∀ {p h s}, n.held? p = some h → n.arena.get? h = some s →
    ∀ f, f ∈ s ↔ ∀ q, n.held? q = some h → n.Allows q f
  order : ∀ {p h s}, n.held? p = some h → n.arena.get? h = some s →
    ∃ q t, n.held? q = some h ∧ n.left? q = some t ∧ s.formats.Sublist t.formats
  together : ∀ {p q h}, p.node = q.node → n.leftHandle? p = some h → n.leftHandle? q = some h → n.held? p = n.held? q
  joined : ∀ {p q h}, n.held? p = some h → n.held? q = some h → Relation.EqvGen (Joined n) p q

variable {n n' : Negotiation}

/-! ## Reading the records -/

theorem held?_of_bound {p : Port} {l : Nat} (h : n.session.graph.bound? p = some l) :
    n.held? p = (n.arena.link l).get p.direction.side := by
  rw [held?, h]
  rfl

theorem held?_eq_some {p : Port} {h : Nat} :
    n.held? p = some h ↔ ∃ l, n.session.graph.bound? p = some l ∧ (n.arena.link l).get p.direction.side = some h :=
  Option.bind_eq_some_iff

theorem survey?_congr (h : n'.surveys = n.surveys) (i : Nat) : n'.survey? i = n.survey? i := by
  rw [survey?, h]
  rfl

theorem leftHandle?_congr {p : Port} (h : n'.survey? p.node = n.survey? p.node) :
    n'.leftHandle? p = n.leftHandle? p := by
  rw [leftHandle?, h]
  rfl

theorem left?_congr {p : Port} (h : n'.survey? p.node = n.survey? p.node) : n'.left? p = n.left? p := by
  rw [left?, h]
  rfl

namespace Accounted

variable (h : Accounted n)
include h

theorem held?_port {i : Nat} {l : Link} (hl : n.session.graph.links[i]? = some l) (d : Direction) :
    n.held? (l.port d) = (n.arena.link i).get d.side := by
  rw [held?_of_bound (h.wired.ends hl d), Link.port_direction]

/-- A link whose pads hold sets holds one at either end. -/
theorem ends_of_held {i : Nat} {l : Link} (hl : n.session.graph.links[i]? = some l)
    (hh : ∀ d, (n.held? (l.port d)).isSome) : ∃ a b, n.arena.link i = ⟨some a, some b⟩ := by
  have hout := hh .output
  have hin := hh .input
  rw [h.held?_port hl] at hout hin
  obtain ⟨a, ha⟩ := Option.isSome_iff_exists.mp hout
  obtain ⟨b, hb⟩ := Option.isSome_iff_exists.mp hin
  exact ⟨a, b, congrArg₂ Ends.mk ha hb⟩

theorem slot?_of_held {p : Port} {id : Nat} (hp : n.held? p = some id) : ∃ s, n.arena.slot? id = some s := by
  obtain ⟨l, -, hl⟩ := held?_eq_some.mp hp
  exact Option.isSome_iff_exists.mp (h.live.held hl)

theorem get?_of_held {p : Port} {id : Nat} (hp : n.held? p = some id) : ∃ s, n.arena.get? id = some s := by
  obtain ⟨s, hs⟩ := h.slot?_of_held hp
  exact ⟨s.set, by rw [Arena.get?, hs]; rfl⟩

theorem lt_of_held {p : Port} {id : Nat} (hp : n.held? p = some id) : id < n.arena.slots.length := by
  obtain ⟨s, hs⟩ := h.slot?_of_held hp
  exact Arena.lt_of_slot?_eq_some hs

theorem settled_lt {m : Nat} (hm : n.Settled m) : m < n.session.graph.links.length := by
  obtain ⟨id, hid⟩ := hm
  exact h.known (show (n.arena.link m).get .offered = some id by rw [hid]; rfl)

/-- A link that does not exist holds nothing. -/
theorem bare_link {l : Nat} (hl : n.session.graph.links.length ≤ l) : n.arena.link l = {} := by
  have none : ∀ side, (n.arena.link l).get side = none := by
    intro side
    cases hs : (n.arena.link l).get side with
    | none => rfl
    | some id => exact absurd (h.known hs) (Nat.not_lt_of_le hl)
  exact congrArg₂ Ends.mk (none .offered) (none .accepted)

end Accounted

namespace Coherent

variable (h : Coherent n)
include h

/-- A tie in effect: both pads hold one set. -/
theorem held?_joined {p q : Port} (hj : Joined n p q) : n.held? p = n.held? q := by
  cases hj with
  | link d e hl hs =>
    obtain ⟨id, hs⟩ := hs
    rw [h.held?_port hl, h.held?_port hl, hs]
    cases d <;> cases e <;> rfl
  | shared hn hp hq => exact h.together hn hp hq

theorem held?_class {p q : Port} (hj : Relation.EqvGen (Joined n) p q) : n.held? p = n.held? q := by
  induction hj with
  | rel _ _ hj => exact h.held?_joined hj
  | refl _ => rfl
  | symm _ _ _ ih => exact ih.symm
  | trans _ _ _ _ _ ih ih' => exact ih.trans ih'

end Coherent

end Negotiation

end MediaGraph

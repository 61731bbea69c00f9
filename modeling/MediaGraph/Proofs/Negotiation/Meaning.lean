/-
  MediaGraph.Proofs.Negotiation.Meaning — what a filter's declarations mean.

  Declarations go through handles at the ends of links, where one replaces or skips
  what another put there. Seen from the pads there is a plain rule (`Layout.origin`):
  a pad has what was last declared for it alone; else what was first declared in
  common for its kind; else every format of its kind. Two pads have one set just where
  it is that of one declaration in common.

  One declaration more changes the origins of the pads (`origin_concat`) as it changes
  the ends (`Reads.share`), so the rule holds after any number of them
  (`said_declareAll`), and filling what is bare does the rest (`decided_queried`). A
  query leaves the pads of other nodes alone, so what the rule says of a node stays true
  in the queries to come (`Polled`), in whatever order they come
  (`declarations_decide`).
-/

import Mathlib.Data.List.Induction
import MediaGraph.Proofs.Negotiation.Repetition

namespace MediaGraph

open Arena MediaGraph.Action

/-! ## The rule -/

/-- Where the formats of a pad come from. -/
inductive Origin where
  /-- A declaration for this pad alone. -/
  | alone (formats : FormatSet)
  /-- A declaration in common, with its number. -/
  | common (number : Nat) (formats : FormatSet)
  | unsaid
  deriving DecidableEq, Repr

namespace Origin

def formats (kind : MediaKind) : Origin → FormatSet
  | alone s => s
  | common _ s => s
  | unsaid => .all kind

/-- Both are the same declaration in common. -/
def Shared (o o' : Origin) : Prop := ∃ k s, o = common k s ∧ o' = common k s

theorem Shared.symm {o o' : Origin} (h : o.Shared o') : o'.Shared o := by
  obtain ⟨k, s, ho, ho'⟩ := h
  exact ⟨k, s, ho', ho⟩

theorem Shared.ne_unsaid {o o' : Origin} (h : o.Shared o') : o ≠ unsaid := by
  obtain ⟨k, s, rfl, -⟩ := h
  nofun

end Origin

namespace Declaration

def formats : Declaration → FormatSet
  | pad _ _ s => s
  | common s => s

/-- It is for this pad alone, and accepted. -/
def Concerns (l : Layout) (d : Direction) (i : Nat) : Declaration → Prop
  | pad e j s => e = d ∧ j = i ∧ (pad e j s).rejection? l = none
  | common _ => False

/-- It is in common for pads of the pad's kind. -/
def Covers (l : Layout) (d : Direction) (i : Nat) : Declaration → Prop
  | pad .. => False
  | common s => (l.pads d)[i]? = some s.kind

instance (l : Layout) (d : Direction) (i : Nat) : DecidablePred (Concerns l d i)
  | pad e j s => inferInstanceAs (Decidable (e = d ∧ j = i ∧ (pad e j s).rejection? l = none))
  | common _ => inferInstanceAs (Decidable False)

instance (l : Layout) (d : Direction) (i : Nat) : DecidablePred (Covers l d i)
  | pad .. => inferInstanceAs (Decidable False)
  | common s => inferInstanceAs (Decidable ((l.pads d)[i]? = some s.kind))

end Declaration

namespace Layout

variable {l : Layout} {d : Direction} {i : Nat}

/-- The last declaration for the pad alone counts, else the first in common for its kind. -/
def origin (l : Layout) (ds : List Declaration) (d : Direction) (i : Nat) : Origin :=
  match (ds.filter (·.Concerns l d i)).getLast? with
  | some x => .alone x.formats
  | none =>
    match ds.zipIdx.find? (·.1.Covers l d i) with
    | some (x, k) => .common k x.formats
    | none => .unsaid

theorem origin_concat (ds : List Declaration) (c : Declaration) :
    l.origin (ds ++ [c]) d i =
      if c.Concerns l d i then .alone c.formats
      else if c.Covers l d i ∧ l.origin ds d i = .unsaid then .common ds.length c.formats
      else l.origin ds d i := by
  unfold origin
  rw [List.filter_append]
  by_cases hs : c.Concerns l d i
  · simp [hs]
  · have single : [c].filter (·.Concerns l d i) = [] := by simp [hs]
    rw [single, List.append_nil, if_neg hs]
    cases (ds.filter (·.Concerns l d i)).getLast? with
    | some x => simp
    | none =>
      rw [List.zipIdx_append, List.find?_append]
      cases ds.zipIdx.find? (·.1.Covers l d i) with
      | some x => simp
      | none => by_cases hc : c.Covers l d i <;> simp [hc]

/-- A declaration in common that counts is one of those made. -/
theorem number_lt {ds : List Declaration} {k : Nat} {s : FormatSet} (h : l.origin ds d i = .common k s) :
    k < ds.length := by
  unfold origin at h
  split at h
  · cases h
  · split at h
    · rename_i x m hx
      cases h
      exact (List.mem_zipIdx' (List.mem_of_find?_eq_some hx)).1
    · cases h

end Layout

/-! ## Ends and pads -/

namespace Node

variable {n : Node} {a : Arena} {d e : Direction} {i j : Nat} {p : Pad}

theorem exists_pad_of_handle {id : Nat} (h : n.handle? a d i = some id) :
    ∃ p l, (n.pads d)[i]? = some p ∧ p.link = some l := by
  obtain ⟨l, hl, -⟩ := Option.bind_eq_some_iff.mp h
  obtain ⟨p, hp, hpl⟩ := linkAt?_eq_some.mp hl
  exact ⟨p, l, hp, hpl⟩

theorem Listed.exists_pad {E : List BoundEnd} (h : n.Listed E d i) :
    ∃ p l, (n.pads d)[i]? = some p ∧ p.link = some l := by
  obtain ⟨x, -, hl, -⟩ := h
  obtain ⟨p, hp, hpl⟩ := linkAt?_eq_some.mp hl
  exact ⟨p, x.link, hp, hpl⟩

/-- An end is at one pad only. -/
theorem Listed.unique (hn : n.Apart) {x : BoundEnd} (h : n.Listed [x] d i) (h' : n.Listed [x] e j) : d = e ∧ i = j := by
  obtain ⟨y, hy, hl, hs⟩ := h
  obtain ⟨z, hz, hl', hs'⟩ := h'
  rw [List.mem_singleton.mp hy] at hl hs
  rw [List.mem_singleton.mp hz] at hl' hs'
  obtain rfl := Direction.side_injective (hs.symm.trans hs')
  exact ⟨rfl, hn hl hl'⟩

section Listed

variable {l : Nat} (hn : n.Apart) (hp : (n.pads d)[i]? = some p) (hl : p.link = some l)
include hn hp hl

/-- One of the node's ends is at the pad: the pad's own. -/
theorem listed_filter {P : BoundEnd → Bool} : n.Listed (n.boundEnds.filter P) d i ↔ P ⟨p.kind, l, d.side⟩ = true := by
  have hlink : n.linkAt? d i = some l := (linkAt?_of_pad hp).trans hl
  constructor
  · intro h
    obtain ⟨x, hx, hlx, hsx⟩ := h
    obtain ⟨hmem, hP⟩ := List.mem_filter.mp hx
    obtain ⟨e, q, hq, hql, hqk, hes⟩ := mem_boundEnds.mp hmem
    obtain rfl := Direction.side_injective (hes.trans hsx)
    obtain ⟨j, hj⟩ := List.getElem?_of_mem hq
    obtain rfl := hn ((linkAt?_of_pad hj).trans hql) hlx
    obtain rfl := Option.some.inj (hp.symm.trans hj)
    obtain rfl := Option.some.inj (hlink.symm.trans hlx)
    rw [hqk, hes]
    exact hP
  · intro hP
    have hmem : (⟨p.kind, l, d.side⟩ : BoundEnd) ∈ n.boundEnds :=
      mem_boundEnds.mpr ⟨d, p, List.mem_of_getElem? hp, hl, rfl, rfl⟩
    exact ⟨_, List.mem_filter.mpr ⟨hmem, hP⟩, hlink, rfl⟩

/-- A node's end is of the kind of its pad. -/
theorem kind_of_listed {x : BoundEnd} (hx : x ∈ n.boundEnds) (h : n.Listed [x] d i) : x.kind = p.kind := by
  have hlisted : n.Listed (n.boundEnds.filter (· = x)) d i := by
    obtain ⟨y, hy, hy'⟩ := h
    obtain rfl := List.mem_singleton.mp hy
    exact ⟨y, List.mem_filter.mpr ⟨hx, decide_eq_true rfl⟩, hy'⟩
  exact (congrArg BoundEnd.kind (of_decide_eq_true ((listed_filter hn hp hl).mp hlisted))).symm

theorem listed_bare : n.Listed (a.bare n) d i ↔ n.handle? a d i = none := by
  have hlink : n.linkAt? d i = some l := (linkAt?_of_pad hp).trans hl
  rw [Arena.bare, listed_filter hn hp hl, Option.isNone_iff_eq_none, handle?, hlink]
  exact Iff.rfl

theorem listed_common {kind : MediaKind} :
    n.Listed ((a.bare n).filter (·.kind = kind)) d i ↔ n.handle? a d i = none ∧ p.kind = kind := by
  have hlink : n.linkAt? d i = some l := (linkAt?_of_pad hp).trans hl
  rw [Arena.bare, List.filter_filter, listed_filter hn hp hl, handle?, hlink]
  simp [Arena.held?, and_comm]

theorem listed_single : n.Listed ((n.pads e)[j]? >>= Pad.boundEnd? e).toList d i ↔ e = d ∧ j = i := by
  have hlink : n.linkAt? d i = some l := (linkAt?_of_pad hp).trans hl
  constructor
  · intro h
    obtain ⟨x, hx, hlx, hsx⟩ := h
    obtain ⟨q, hq, hx⟩ := Option.bind_eq_some_iff.mp (Option.mem_toList.mp hx)
    obtain ⟨m, hm, rfl⟩ := Option.map_eq_some_iff.mp hx
    obtain rfl := Direction.side_injective hsx
    exact ⟨rfl, hn ((linkAt?_of_pad hq).trans hm) hlx⟩
  · rintro ⟨rfl, rfl⟩
    refine ⟨⟨p.kind, l, e.side⟩, ?_, hlink, rfl⟩
    rw [hp, Option.mem_toList, Option.bind_eq_bind, Option.bind_some, Pad.boundEnd?, hl]
    rfl

end Listed

end Node

/-! ## One set shared -/

/-- The sets that the node's pads hold are those of their origins, and pads hold one set just where they share an
origin. -/
structure Reads (n : Node) (a : Arena) (o : Direction → Nat → Origin) : Prop where
  numbered : n.Numbered a
  sets : ∀ {d i p id s}, (n.pads d)[i]? = some p → n.handle? a d i = some id → a.get? id = some s →
    s = (o d i).formats p.kind
  same : ∀ {d i e j id id'}, (d, i) ≠ (e, j) → n.handle? a d i = some id → n.handle? a e j = some id' →
    (id = id' ↔ (o d i).Shared (o e j))

variable {n : Node} {a b : Arena} {o o' : Direction → Nat → Origin}

/-- A set is shared among the pads listed: their origins change to fit it. -/
theorem Reads.share (h : Reads n a o) (s : FormatSet) (E : List BoundEnd)
    (listed : ∀ {d i p}, (n.pads d)[i]? = some p → n.Listed E d i → (o' d i).formats p.kind = s)
    (kept : ∀ {d i id}, n.handle? a d i = some id → ¬ n.Listed E d i → o' d i = o d i)
    (joined : ∀ {d i e j}, (d, i) ≠ (e, j) → n.Listed E d i → n.Listed E e j → (o' d i).Shared (o' e j))
    (parted : ∀ {d i e j id}, n.Listed E d i → n.handle? a e j = some id → ¬ n.Listed E e j →
      ¬ (o' d i).Shared (o' e j)) : Reads n (a.shareEnds s E) o' := by
  refine ⟨h.numbered.share s E, ?sets, ?same⟩
  case sets =>
    intro d i p id t hp hid ht
    by_cases hE : n.Listed E d i
    · rw [handle?_of_listed a s hE] at hid
      cases hid
      rw [eq_of_get?_shareEnds ht, listed hp hE]
    · rw [handle?_of_not_listed a s hE] at hid
      rw [kept hid hE]
      exact h.sets hp hid (get?_of_shareEnds (h.numbered _ _ _ hid) ht)
  case same =>
    intro d i e j id id' hne hid hid'
    have hiff := h.numbered.share_eq_iff s E d e i j
    rw [hid, hid', Option.some.injEq] at hiff
    rw [hiff]
    by_cases hi : n.Listed E d i <;> by_cases hj : n.Listed E e j
    · simp [hi, hj, joined hne hi hj]
    · rw [handle?_of_not_listed a s hj] at hid'
      simp [hi, hj, parted hi hid' hj]
    · rw [handle?_of_not_listed a s hi] at hid
      simp [hi, hj, mt Origin.Shared.symm (parted hj hid hi)]
    · rw [handle?_of_not_listed a s hi] at hid
      rw [handle?_of_not_listed a s hj] at hid'
      simp [hi, hj, hid, hid', kept hid hi, kept hid' hj, h.same hne hid hid']

/-! ## All declarations -/

/-- What the declarations made so far left: bound pads of which nothing was said hold nothing. -/
structure Said (n : Node) (a : Arena) (ds : List Declaration) : Prop where
  reads : Reads n a (n.layout.origin ds)
  bare : ∀ {d i p l}, (n.pads d)[i]? = some p → p.link = some l →
    (n.handle? a d i = none ↔ n.layout.origin ds d i = .unsaid)

theorem said_nil (h : Bare n a) : Said n a [] := by
  have none := Node.handle?_of_bare h
  exact ⟨⟨by simp [Node.Numbered, none], by simp [none], by simp [none]⟩, fun _ _ => iff_of_true (none _ _) rfl⟩

theorem Said.rejected {ds : List Declaration} (h : Said n a ds) {c : Declaration} {r : Rejection}
    (hc : c.rejection? n.layout = some r) : Said n a (ds ++ [c]) := by
  have same : n.layout.origin (ds ++ [c]) = n.layout.origin ds := by
    funext d i
    rw [Layout.origin_concat]
    cases c with
    | pad e j s => simp [Declaration.Concerns, Declaration.Covers, hc]
    | common s => cases hc
  exact ⟨by rw [same]; exact h.reads, by rw [same]; exact h.bare⟩

/-- A declaration for one pad replaces what the pad held. -/
theorem Said.single {ds : List Declaration} (h : Said n a ds) (hn : n.Apart) {e : Direction} {j : Nat} {s : FormatSet}
    (hc : (Declaration.pad e j s).rejection? n.layout = none) :
    Said n (a.shareEnds s ((n.pads e)[j]? >>= Pad.boundEnd? e).toList) (ds ++ [.pad e j s]) := by
  have origin : ∀ d i, n.layout.origin (ds ++ [.pad e j s]) d i =
      if e = d ∧ j = i then .alone s else n.layout.origin ds d i := by
    intro d i
    have concerns : (Declaration.pad e j s).Concerns n.layout d i ↔ e = d ∧ j = i :=
      ⟨fun h => ⟨h.1, h.2.1⟩, fun h => ⟨h.1, h.2, hc⟩⟩
    simp [Layout.origin_concat, concerns, Declaration.Covers, Declaration.formats]
  have listed : ∀ {d i}, n.Listed ((n.pads e)[j]? >>= Pad.boundEnd? e).toList d i → e = d ∧ j = i := by
    intro d i hE
    obtain ⟨p, l, hp, hl⟩ := hE.exists_pad
    exact (Node.listed_single hn hp hl).mp hE
  refine ⟨h.reads.share s _ ?listed ?kept ?joined ?parted, ?bare⟩
  case listed =>
    intro d i p _ hE
    rw [origin, if_pos (listed hE)]
    rfl
  case kept =>
    intro d i id hid hE
    obtain ⟨p, l, hp, hl⟩ := Node.exists_pad_of_handle hid
    rw [origin, if_neg (mt (Node.listed_single hn hp hl).mpr hE)]
  case joined =>
    intro d i d' i' hne hE hE'
    obtain ⟨rfl, rfl⟩ := listed hE
    obtain ⟨rfl, rfl⟩ := listed hE'
    exact absurd rfl hne
  case parted =>
    intro d i d' i' id hE _ _ hshared
    obtain ⟨k, t, hk, -⟩ := hshared
    rw [origin, if_pos (listed hE)] at hk
    cases hk
  case bare =>
    intro d i p l hp hl
    rw [origin]
    by_cases hi : e = d ∧ j = i
    · rw [if_pos hi, handle?_of_listed a s ((Node.listed_single hn hp hl).mpr hi)]
      exact iff_of_false nofun nofun
    · rw [if_neg hi, handle?_of_not_listed a s (mt (Node.listed_single hn hp hl).mp hi)]
      exact h.bare hp hl

/-- A declaration in common goes to the pads of its kind that hold nothing. -/
theorem Said.common {ds : List Declaration} (h : Said n a ds) (hn : n.Apart) (s : FormatSet) :
    Said n (a.shareEnds s ((a.bare n).filter (·.kind = s.kind))) (ds ++ [.common s]) := by
  have origin : ∀ {d i p l}, (n.pads d)[i]? = some p → p.link = some l →
      n.layout.origin (ds ++ [.common s]) d i =
        if p.kind = s.kind ∧ n.layout.origin ds d i = .unsaid then .common ds.length s else n.layout.origin ds d i := by
    intro d i p l hp hl
    simp [Layout.origin_concat, Declaration.Concerns, Declaration.Covers, Declaration.formats, Node.kind_of_pad hp]
  have listed_iff : ∀ {d i p l}, (n.pads d)[i]? = some p → p.link = some l →
      (n.Listed ((a.bare n).filter (·.kind = s.kind)) d i ↔ p.kind = s.kind ∧ n.layout.origin ds d i = .unsaid) := by
    intro d i p l hp hl
    rw [Node.listed_common hn hp hl, h.bare hp hl, and_comm]
  have listed : ∀ {d i}, n.Listed ((a.bare n).filter (·.kind = s.kind)) d i →
      n.layout.origin (ds ++ [.common s]) d i = .common ds.length s := by
    intro d i hE
    obtain ⟨p, l, hp, hl⟩ := hE.exists_pad
    rw [origin hp hl, if_pos ((listed_iff hp hl).mp hE)]
  have kept : ∀ {d i p l}, (n.pads d)[i]? = some p → p.link = some l →
      ¬ n.Listed ((a.bare n).filter (·.kind = s.kind)) d i →
      n.layout.origin (ds ++ [.common s]) d i = n.layout.origin ds d i := by
    intro d i p l hp hl hE
    rw [origin hp hl, if_neg (mt (listed_iff hp hl).mpr hE)]
  refine ⟨h.reads.share s _ ?listed ?kept ?joined ?parted, ?bare⟩
  case listed =>
    intro d i p _ hE
    rw [listed hE]
    rfl
  case kept =>
    intro d i id hid hE
    obtain ⟨p, l, hp, hl⟩ := Node.exists_pad_of_handle hid
    exact kept hp hl hE
  case joined =>
    intro d i d' i' _ hE hE'
    exact ⟨_, _, listed hE, listed hE'⟩
  case parted =>
    -- what was declared before has a lower number
    intro d i d' i' id hE hid hE' hshared
    obtain ⟨p, l, hp, hl⟩ := Node.exists_pad_of_handle hid
    obtain ⟨k, t, hk, hk'⟩ := hshared
    rw [listed hE] at hk
    rw [kept hp hl hE'] at hk'
    cases hk
    exact Nat.lt_irrefl _ (Layout.number_lt hk')
  case bare =>
    intro d i p l hp hl
    by_cases hE : n.Listed ((a.bare n).filter (·.kind = s.kind)) d i
    · rw [listed hE, handle?_of_listed a s hE]
      exact iff_of_false nofun nofun
    · rw [kept hp hl hE, handle?_of_not_listed a s hE]
      exact h.bare hp hl

theorem Said.declare {ds : List Declaration} (h : Said n a ds) (hn : n.Apart) (c : Declaration) :
    Said n (declare n a c) (ds ++ [c]) := by
  unfold Arena.declare
  cases hc : c.rejection? n.layout with
  | some r => exact h.rejected hc
  | none =>
    cases c with
    | pad e j s => exact h.single hn hc
    | common s => exact h.common hn s

theorem said_declareAll (h : Bare n a) (hn : n.Apart) (ds : List Declaration) : Said n (a.declareAll n ds) ds := by
  induction ds using List.reverseRecOn with
  | nil => exact said_nil h
  | append_singleton ds c ih =>
    rw [declareAll, List.foldl_append]
    exact ih.declare hn c

/-! ## A whole query -/

/-- Pads of which nothing was said get a set of their own each. -/
theorem Said.fillBare {ds : List Declaration} (h : Said n a ds) (hn : n.Apart) :
    Reads n (a.fillBare n) (n.layout.origin ds) := by
  have fold : ∀ (es : List BoundEnd) (b : Arena), (∀ e ∈ es, e ∈ a.bare n) → Reads n b (n.layout.origin ds) →
      Reads n (es.foldl (fun b e => b.shareEnds (.all e.kind) [e]) b) (n.layout.origin ds) := by
    intro es
    induction es with
    | nil => exact fun _ _ hb => hb
    | cons e es ih =>
      intro b hes hb
      refine ih _ (fun e' he' => hes e' (List.mem_cons_of_mem e he')) ?_
      have he := hes e List.mem_cons_self
      have unsaid : ∀ {d i}, n.Listed [e] d i → n.layout.origin ds d i = .unsaid := by
        intro d i hE
        obtain ⟨p, l, hp, hl⟩ := hE.exists_pad
        obtain ⟨x, hx, hlx⟩ := hE
        rw [List.mem_singleton.mp hx] at hlx
        exact (h.bare hp hl).mp ((Node.listed_bare hn hp hl).mp ⟨e, he, hlx⟩)
      refine hb.share _ _ ?listed (fun _ _ => rfl) ?joined fun hE _ _ hshared => hshared.ne_unsaid (unsaid hE)
      case listed =>
        intro d i p hp hE
        rw [unsaid hE]
        obtain ⟨q, l, hq, hl⟩ := hE.exists_pad
        obtain rfl := Option.some.inj (hp.symm.trans hq)
        exact congrArg FormatSet.all (Node.kind_of_listed hn hp hl (List.mem_filter.mp he).1 hE).symm
      case joined =>
        intro d i d' i' hne hE hE'
        obtain ⟨rfl, rfl⟩ := hE.unique hn hE'
        exact absurd rfl hne
  exact fold _ a (fun _ he => he) h.reads

/-- The rule: a bound pad's end holds the set of its origin, and two pads hold one set just where they share it. -/
structure Node.Decided (n : Node) (ds : List Declaration) (a : Arena) : Prop where
  set : ∀ {d i p l}, (n.pads d)[i]? = some p → p.link = some l →
    ∃ id, (a.link l).get d.side = some id ∧ a.get? id = some ((n.layout.origin ds d i).formats p.kind)
  same : ∀ {d i p l e j q m}, (n.pads d)[i]? = some p → p.link = some l → (n.pads e)[j]? = some q → q.link = some m →
    (d, i) ≠ (e, j) → ((a.link l).get d.side = (a.link m).get e.side ↔
      (n.layout.origin ds d i).Shared (n.layout.origin ds e j))

theorem decided_queried (h : Bare n a) (hn : n.Apart) {ds : List Declaration} (hlive : (a.queried n ds).Live []) :
    n.Decided ds (a.queried n ds) := by
  have reads : Reads n (a.queried n ds) (n.layout.origin ds) := (said_declareAll h hn ds).fillBare hn
  have handle : ∀ {d i p l}, (n.pads d)[i]? = some p → p.link = some l →
      ∃ id, n.handle? (a.queried n ds) d i = some id ∧ ((a.queried n ds).link l).get d.side = some id := by
    intro d i p l hp hl
    obtain ⟨id, hid⟩ := Option.isSome_iff_exists.mp (held_queried ⟨d, rfl, p, List.mem_of_getElem? hp, hl⟩ a ds)
    exact ⟨id, by rw [Node.handle?, Node.linkAt?_of_pad hp, hl]; exact hid, hid⟩
  constructor
  · intro d i p l hp hl
    obtain ⟨id, hid, hlink⟩ := handle hp hl
    obtain ⟨s, hs⟩ := Option.isSome_iff_exists.mp (hlive.held hlink)
    have hget := get?_of_slot? hs
    exact ⟨id, hlink, by rw [hget, reads.sets hp hid hget]⟩
  · intro d i p l e j q m hp hl hq hm hne
    obtain ⟨id, hid, hlink⟩ := handle hp hl
    obtain ⟨id', hid', hlink'⟩ := handle hq hm
    rw [hlink, hlink', Option.some.injEq]
    exact reads.same hne hid hid'

/-- What the rule says of a node stays true in the queries of others. -/
theorem Node.Decided.grown {m : Node} {ds : List Declaration} (h : m.Decided ds a) (hg : a.Grown n b)
    (apart : ∀ {d : Direction} {i : Nat} {p : Pad} {l : Nat}, (m.pads d)[i]? = some p → p.link = some l →
      ¬ n.Owns l d.side) : m.Decided ds b := by
  constructor
  · intro d i p l hp hl
    obtain ⟨id, hid, hget⟩ := h.set hp hl
    obtain ⟨s, hs, -⟩ := get?_eq_some.mp hget
    refine ⟨id, (hg.others l _ (apart hp hl)).trans hid, ?_⟩
    rw [Arena.get?, hg.slot id (lt_of_slot?_eq_some hs)]
    exact hget
  · intro d i p l e j q k hp hl hq hk hne
    rw [hg.others l _ (apart hp hl), hg.others k _ (apart hq hk)]
    exact h.same hp hl hq hk hne

/-! ## Rejections -/

/-- Rejected are the declarations for a pad that is not there or is of another kind: these change nothing. -/
theorem rejected_iff (n : Node) (d : Direction) (i : Nat) (s : FormatSet) :
    (∃ r, (Declaration.pad d i s).rejection? n.layout = some r ∧ r.report.cls = .invalidArgument ∧
      ∀ a, declare n a (.pad d i s) = a) ↔ ∀ p, (n.pads d)[i]? = some p → p.kind ≠ s.kind := by
  have accepted : (Declaration.pad d i s).rejection? n.layout = none ↔
      ∃ p, (n.pads d)[i]? = some p ∧ p.kind = s.kind := by
    rw [Declaration.rejection?_pad_eq_none, Node.layout_pads, List.getElem?_map, Option.map_eq_some_iff]
  cases hr : (Declaration.pad d i s).rejection? n.layout with
  | none =>
    obtain ⟨p, hp, hk⟩ := accepted.mp hr
    exact iff_of_false (fun ⟨r, h, _⟩ => by cases h) fun h => h p hp hk
  | some r =>
    refine iff_of_true ⟨r, rfl, rfl, fun a => ?_⟩ fun p hp hk => ?_
    · rw [declare, hr]
      rfl
    · cases hr.symm.trans (accepted.mpr ⟨p, hp, hk⟩)

namespace Negotiation

/-! ## Many queries -/

/-- The set that a pad's end holds. -/
def padSet? (n : Negotiation) (p : Port) : Option FormatSet := n.held? p >>= n.arena.get?

/-- Some nodes of the graph were asked once each, and nothing else was done. -/
structure Polled (g : Graph) (n : Negotiation) : Prop where
  coherent : Coherent n
  graph : n.session.graph = g
  decided : ∀ {i sv}, n.survey? i = some sv → g.nodes[i]? = some sv.asked ∧ sv.asked.Decided sv.declared n.arena
  apart : ∀ {p q id}, n.held? p = some id → n.held? q = some id → p.node = q.node

variable {g : Graph} {n n' : Negotiation} {i : Nat} {node : Node}

theorem polled_start {s : Session} (h : s.graph.Wired) : Polled s.graph { session := s } := by
  have coherent := coherent_start h
  refine ⟨coherent, rfl, nofun, fun {p q id} hp _ => ?_⟩
  have hf := (coherent.filled p).mp (by rw [hp]; rfl)
  cases hf.2

theorem Accounted.padSet?_of_grown (h : Accounted n) (hn : n.session.graph.nodes[i]? = some node) {m : Negotiation}
    (hg : m.session.graph = n.session.graph) (hm : n.arena.Grown node m.arena) {p : Port} (hp : p.node ≠ i) :
    m.padSet? p = n.padSet? p := by
  rw [padSet?, padSet?, h.held?_of_grown hn hg hm hp]
  cases hid : n.held? p with
  | none => rfl
  | some id => exact congrArg (Option.map _) (hm.slot id (h.lt_of_held hid))

theorem Polled.query (h : Polled g n) (hi : n.survey? i = none) (hr : (queryNode i).run n = (.ok (), n')) :
    Polled g n' := by
  obtain ⟨node, ds, hn, rfl⟩ := run_queryNode_ok hr
  have h' := h.coherent.aside _ (Session.graph_asked node n.session) n.converters
  have hg : (n.session.asked node).graph = g := (Session.graph_asked node n.session).trans h.graph
  have hn' := Session.node_asked hn
  have ha := h'.asked_query hn' hi ds
  have coherent := h'.query hn' hi ds
  have hbare := h'.bare hn' hi
  refine ⟨coherent, hg, ?decided, ?apart⟩
  case decided =>
    intro j sv hsv
    rw [survey?_answered] at hsv
    split at hsv
    · rename_i e
      cases hsv
      exact ⟨by rw [← e, ← hg]; exact hn', decided_queried hbare (h'.wired.apart hn') coherent.live⟩
    · rename_i e
      obtain ⟨hj, hdecided⟩ := h.decided hsv
      refine ⟨hj, hdecided.grown (grown_queried hbare ds) fun {d k p l} hp hl => ?_⟩
      refine h'.not_owns hn' (p := ⟨j, d, k⟩) ?_ (Ne.symm e)
      show (n.session.asked node).graph.bound? _ = _
      rw [hg, Graph.bound?_eq_linkAt? hj, Node.linkAt?_of_pad hp, hl]
  case apart =>
    have before : ∀ p, held? { n with session := n.session.asked node } p = n.held? p := fun p => by
      rw [held?, held?, Session.graph_asked]
    intro p q id hp hq
    by_cases hpi : p.node = i
    · rw [hpi, ha.node_of_held h' hp hq hpi]
    · have hqi : q.node ≠ i := fun e => hpi (ha.node_of_held h' hq hp e)
      rw [(ha.others hpi).2, before] at hp
      rw [(ha.others hqi).2, before] at hq
      exact h.apart hp hq

theorem polled_queryIn {s : Session} (h : s.graph.Wired) {order : List Nat} (hnodup : order.Nodup)
    (hr : (queryIn order).run { session := s } = (.ok (), n)) :
    Polled s.graph n ∧ ∀ j, (n.survey? j).isSome ↔ j ∈ order :=
  queryIn_ok (P := Polled s.graph) (fun hm hi => hm.query hi) (polled_start (s := s.tell _) h) hnodup hr

/-- One more node is asked. -/
theorem Polled.ask (h : Polled g n) (hi : n.survey? i = none) (hn : g.nodes[i]? = some node)
    {ds : List Declaration} {answer : Answer}
    (hq : node.filter.query n.session.history node.serial node.layout = (ds, answer)) :
    (((queryNode i).run n).1 = .ok () ↔ answer = .done) ∧
      (answer = .done → node.Decided ds ((queryNode i).run n).2.arena ∧
        (∀ p q id, ((queryNode i).run n).2.held? p = some id → ((queryNode i).run n).2.held? q = some id →
          p.node = q.node) ∧ (((queryNode i).run n).2.survey? i).map (·.declared) = some ds) ∧
      ∀ p : Port, p.node ≠ i → ((queryNode i).run n).2.held? p = n.held? p ∧
        ((queryNode i).run n).2.padSet? p = n.padSet? p := by
  have hacc := h.coherent.toAccounted
  have hbare : n.arena.Bare node := h.coherent.bare (h.graph ▸ hn) hi
  have others : ∀ m : Negotiation, m.session.graph = n.session.graph → n.arena.Grown node m.arena →
      ∀ p : Port, p.node ≠ i → m.held? p = n.held? p ∧ m.padSet? p = n.padSet? p :=
    fun m hg hm p hp => ⟨hacc.held?_of_grown (h.graph ▸ hn) hg hm hp, hacc.padSet?_of_grown (h.graph ▸ hn) hg hm hp⟩
  have hgraph := Session.graph_asked node n.session
  rcases hrun : (queryNode i).run n with ⟨r, m⟩
  have hrun' := hrun
  rw [run_queryNode, h.graph, hn] at hrun'
  simp only [hq] at hrun'
  cases answer with
  | done =>
    cases hrun'
    have survey := survey?_answered { n with session := n.session.asked node } i node ds i
    rw [if_pos rfl] at survey
    have polled := h.query hi hrun
    exact ⟨iff_of_true rfl rfl, fun _ => ⟨(polled.decided survey).2, fun _ _ _ => polled.apart, congrArg _ survey⟩,
      others _ hgraph (grown_queried hbare ds)⟩
  | refused rep =>
    cases hrun'
    exact ⟨iff_of_false nofun nofun, nofun, others _ hgraph (grown_declareAll hbare ds)⟩

/-! ## In whatever order -/

namespace Polled

variable {p q : Port}

/-- A pad that holds a set is a bound pad of a node that was asked. -/
theorem exists_pad (h : Polled g n) (hp : (n.held? p).isSome) : ∃ sv pad l, n.survey? p.node = some sv ∧
    (sv.asked.pads p.direction)[p.pad]? = some pad ∧ pad.link = some l := by
  obtain ⟨hb, hs⟩ := (h.coherent.filled p).mp hp
  obtain ⟨l, hb⟩ := Option.isSome_iff_exists.mp hb
  obtain ⟨sv, hs⟩ := Option.isSome_iff_exists.mp hs
  rw [h.graph, Graph.bound?_eq_linkAt? (h.decided hs).1] at hb
  obtain ⟨pad, hpad, hl⟩ := Node.linkAt?_eq_some.mp hb
  exact ⟨sv, pad, l, hs, hpad, hl⟩

theorem held?_pad (h : Polled g n) {sv : Survey} {pad : Pad} {l : Nat} (hs : n.survey? p.node = some sv)
    (hp : (sv.asked.pads p.direction)[p.pad]? = some pad) (hl : pad.link = some l) :
    n.held? p = (n.arena.link l).get p.direction.side := by
  refine held?_of_bound ?_
  rw [h.graph, Graph.bound?_eq_linkAt? (h.decided hs).1, Node.linkAt?_of_pad hp, hl]

section Orders

variable (h : Polled g n) (h' : Polled g n')
  (hsame : ∀ i, (n'.survey? i).map (·.declared) = (n.survey? i).map (·.declared))
include h h' hsame

theorem exists_survey {sv : Survey} (hs : n.survey? i = some sv) :
    ∃ sv', n'.survey? i = some sv' ∧ sv'.asked = sv.asked ∧ sv'.declared = sv.declared := by
  have hdeclared := hsame i
  rw [hs, Option.map_some, Option.map_eq_some_iff] at hdeclared
  obtain ⟨sv', hs', hds⟩ := hdeclared
  exact ⟨sv', hs', Option.some.inj ((h'.decided hs').1.symm.trans (h.decided hs).1), hds⟩

theorem isSome_held? (p : Port) : (n'.held? p).isSome ↔ (n.held? p).isSome := by
  have hasked := congrArg Option.isSome (hsame p.node)
  rw [Option.isSome_map, Option.isSome_map] at hasked
  rw [h.coherent.filled, h'.coherent.filled, h.graph, h'.graph, hasked]

theorem held?_eq_none_iff (p : Port) : n'.held? p = none ↔ n.held? p = none := by
  rw [← Option.not_isSome_iff_eq_none, ← Option.not_isSome_iff_eq_none, isSome_held? h h' hsame]

/-- The set that a pad holds follows from what its node declared. -/
theorem padSet?_eq (p : Port) : n'.padSet? p = n.padSet? p := by
  cases hp : n.held? p with
  | none =>
    rw [padSet?, padSet?, hp, (held?_eq_none_iff h h' hsame p).mpr hp]
    rfl
  | some k =>
    obtain ⟨sv, pad, l, hs, hpad, hl⟩ := h.exists_pad (by rw [hp]; rfl)
    obtain ⟨sv', hs', hasked, hds⟩ := exists_survey h h' hsame hs
    have hpad' : (sv'.asked.pads p.direction)[p.pad]? = some pad := by rw [hasked]; exact hpad
    obtain ⟨id, hid, hget⟩ := (h.decided hs).2.set hpad hl
    obtain ⟨id', hid', hget'⟩ := (h'.decided hs').2.set hpad' hl
    rw [padSet?, padSet?, h.held?_pad hs hpad hl, h'.held?_pad hs' hpad' hl, hid, hid']
    show n'.arena.get? id' = n.arena.get? id
    rw [hget, hget', hasked, hds]

/-- So does which pads of a node hold one set. -/
theorem held?_eq_iff_of_node (hne : p ≠ q) (hnode : p.node = q.node) (hp : (n.held? p).isSome)
    (hq : (n.held? q).isSome) : n'.held? p = n'.held? q ↔ n.held? p = n.held? q := by
  obtain ⟨sv, pad, l, hs, hpad, hl⟩ := h.exists_pad hp
  obtain ⟨sv₂, pad₂, m, hs₂, hpad₂, hm⟩ := h.exists_pad hq
  have hs₂' := hs₂
  rw [← hnode, hs] at hs₂
  obtain rfl := Option.some.inj hs₂
  obtain ⟨sv', hs', hasked, hds⟩ := exists_survey h h' hsame hs
  have hdiffer : (p.direction, p.pad) ≠ (q.direction, q.pad) := by
    intro e
    obtain ⟨hd, hi⟩ := Prod.mk.inj e
    exact hne (by cases p; cases q; simp_all)
  have pad' : (sv'.asked.pads p.direction)[p.pad]? = some pad := by rw [hasked]; exact hpad
  have pad₂' : (sv'.asked.pads q.direction)[q.pad]? = some pad₂ := by rw [hasked]; exact hpad₂
  rw [h.held?_pad hs hpad hl, h.held?_pad hs₂' hpad₂ hm, h'.held?_pad hs' pad' hl,
    h'.held?_pad (hnode ▸ hs') pad₂' hm, (h.decided hs).2.same hpad hl hpad₂ hm hdiffer,
    (h'.decided hs').2.same pad' hl pad₂' hm hdiffer, hasked, hds]

theorem held?_eq_iff (p q : Port) : n'.held? p = n'.held? q ↔ n.held? p = n.held? q := by
  have none := held?_eq_none_iff h h' hsame
  by_cases hpq : p = q
  · rw [hpq]
    exact iff_of_true rfl rfl
  cases hp : n.held? p with
  | none =>
    rw [(none p).mpr hp, eq_comm, none q]
    exact eq_comm
  | some id =>
    cases hq : n.held? q with
    | none =>
      rw [(none q).mpr hq, none p, hp]
    | some id' =>
      by_cases hnode : p.node = q.node
      · rw [← hp, ← hq]
        exact held?_eq_iff_of_node h h' hsame hpq hnode (by rw [hp]; rfl) (by rw [hq]; rfl)
      · -- pads of different nodes hold different sets
        refine iff_of_false (fun e => ?_) fun e => ?_
        · obtain ⟨k, hk⟩ := Option.isSome_iff_exists.mp ((isSome_held? h h' hsame p).mpr (by rw [hp]; rfl))
          exact hnode (h'.apart hk (e.symm.trans hk))
        · rw [Option.some.inj e] at hp
          exact hnode (h.apart hp hq)

end Orders

end Polled

/-- What declarations mean. The query phase asks the nodes by number; say it asked some nodes, in any order, and comes
to one more. Unless this one refuses, each of its bound pads is left the set that was last declared for it alone, else
first in common for its kind, else all of its kind; two of its pads have one set just where it is of one declaration in
common, and no pad of another node has it. Rejected are the declarations for a pad that is missing or of another kind,
and they do nothing. Pads of other nodes keep what they hold. So where the nodes declare the same, another order leaves
the pads the same sets, and the same pads one set. -/
theorem declarations_decide {s : Session} (h : s.Reachable) {order : List Nat} (hnodup : order.Nodup)
    (hr : (queryIn order).run { session := s } = (.ok (), n)) :
    query.run { session := s } = (queryIn (List.range s.graph.nodes.length)).run { session := s } ∧
    (∀ i node, i ∉ order → s.graph.nodes[i]? = some node →
      let (ds, answer) := node.filter.query n.session.history node.serial node.layout
      let r := (queryNode i).run n
      (r.1 = .ok () ↔ answer = .done) ∧
      (answer = .done → node.Decided ds r.2.arena ∧
        (∀ p q id, r.2.held? p = some id → r.2.held? q = some id → p.node = q.node) ∧
        (r.2.survey? i).map (·.declared) = some ds) ∧
      ∀ p : Port, p.node ≠ i → r.2.held? p = n.held? p ∧ r.2.padSet? p = n.padSet? p) ∧
    (∀ node ∈ s.graph.nodes, ∀ d i set, (∃ r, (Declaration.pad d i set).rejection? node.layout = some r ∧
      r.report.cls = .invalidArgument ∧ ∀ a, declare node a (.pad d i set) = a) ↔
        ∀ p, (node.pads d)[i]? = some p → p.kind ≠ set.kind) ∧
    ∀ order' n', order'.Perm order → (queryIn order').run { session := s } = (.ok (), n') →
      (∀ i, (n'.survey? i).map (·.declared) = (n.survey? i).map (·.declared)) →
      ∀ p, n'.padSet? p = n.padSet? p ∧ ∀ q, n'.held? p = n'.held? q ↔ n.held? p = n.held? q := by
  obtain ⟨polled, hasked⟩ := polled_queryIn h.wired hnodup hr
  refine ⟨rfl, fun i node hi hn => ?_, fun node _ => rejected_iff node, fun order' n' hperm hr' hsame p => ?_⟩
  · have hnone : n.survey? i = none := by
      rw [← Option.not_isSome_iff_eq_none, hasked]
      exact hi
    exact polled.ask hnone hn rfl
  · obtain ⟨polled', -⟩ := polled_queryIn h.wired (hperm.nodup_iff.mpr hnodup) hr'
    exact ⟨polled.padSet?_eq polled' hsame p, polled.held?_eq_iff polled' hsame p⟩

end Negotiation

namespace Studio

/-- Formats of pixels. -/
def pixels (formats : List PixelFormat) : FormatSet := .ofList .video (formats.map .video)

/-- Declares in common, for a pad that is not there, in common again, and for its first input. -/
def desk : FilterType where
  name := "desk"
  inputs := [⟨.input, "in0", .video⟩, ⟨.input, "in1", .video⟩]
  outputs := [⟨.output, "out0", .video⟩]
  fresh := .custom { query := fun _ _ _ =>
    ([.common (pixels [.i420]), .pad .input 5 (pixels [.rgb24]), .common (pixels [.rgb24]),
      .pad .input 0 (pixels [.nv12])], .done) }

/-- A camera feeds a desk, whose output is fed back to it. -/
def feedback : Session :=
  after [.openNode camera none, .openNode desk none, .addNode 0, .addNode 0, .link 0 0 1 0, .link 1 0 1 1]

end Studio

namespace Negotiation

/-- Asked after the camera, the desk leaves its first input what it declared for it, and the link fed back one set at
either end: what it declared in common first. -/
theorem feedback_decided :
    Studio.feedback.Reachable ∧ ∃ n, (queryIn [0]).run { session := Studio.feedback } = (.ok (), n) ∧
      let a := ((queryNode 1).run n).2.arena
      (∃ id, (a.link 0).accepted = some id ∧ a.get? id = some (Studio.pixels [.nv12])) ∧
        (∃ id, (a.link 1).accepted = some id ∧ a.get? id = some (Studio.pixels [.i420])) ∧
        (a.link 1).accepted = (a.link 1).offered := by
  have reachable : Studio.feedback.Reachable := Studio.after_reachable _
  have hr : ((queryIn [0]).run { session := Studio.feedback }).1 = .ok () := by decide +kernel
  refine ⟨reachable, _, run_eq_of_ok hr, ?_⟩
  obtain ⟨-, asked, -⟩ := declarations_decide reachable (by decide : [0].Nodup) (run_eq_of_ok hr)
  obtain ⟨-, decided, -⟩ := asked 1 _ (by decide) rfl
  obtain ⟨⟨set, same⟩, -⟩ := decided rfl
  refine ⟨set (d := .input) (i := 0) rfl rfl, set (d := .input) (i := 1) rfl rfl, ?_⟩
  exact (same (d := .input) (i := 1) (e := .output) (j := 0) rfl rfl rfl rfl nofun).mpr ⟨0, _, rfl, rfl⟩

end Negotiation

end MediaGraph

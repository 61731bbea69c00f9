/-
  MediaGraph.Proofs.Session.Validation — what a valid graph is.

  Validation looks at the pads alone. A pad is bound just where a link runs from it or
  to it, so the pads it passes are those at a link, and the one it complains of is the
  first that is at none (`Graph.first_free`). Of a valid graph every pad is at just one
  link, and the other way round (`valid_iff_fully_linked`).

  Negotiating keeps a valid graph valid. Where a link ended that has a converter now,
  the one behind the converter ends, and a converter with one pad of each direction
  has both at a link (`Graph.Converted.touched`).
-/

import MediaGraph.Proofs.Negotiation.Converters
import MediaGraph.Proofs.Session.Completion

namespace MediaGraph

open MediaGraph.Action

/-- Nodes in order, the inputs of a node before its outputs, pads of one direction in order. -/
def Port.Before (q p : Port) : Prop :=
  q.node < p.node ∨ q.node = p.node ∧
    (q.direction = .input ∧ p.direction = .output ∨ q.direction = p.direction ∧ q.pad < p.pad)

/-- Of a node's pads none before the free one is free. -/
theorem Node.first_free {n : Node} {d : Direction} {p : Pad} (h : n.freePad? = some (d, p)) :
    ∃ pad : Nat, (n.pads d)[pad]? = some p ∧ p.link = none ∧
      (∀ j < pad, ∀ q : Pad, (n.pads d)[j]? = some q → q.link.isSome) ∧
      (d = .output → ∀ q ∈ n.pads .input, q.link.isSome) := by
  have first : ∀ {ps : List Pad}, ps.find? (! ·.isLinked) = some p → ∃ pad : Nat, ps[pad]? = some p ∧ p.link = none ∧
      ∀ j < pad, ∀ q : Pad, ps[j]? = some q → q.link.isSome := by
    intro ps hp
    obtain ⟨hfree, pad, hlt, hpad, hbefore⟩ := List.find?_eq_some_iff_getElem.mp hp
    refine ⟨pad, List.getElem?_eq_some_iff.mpr ⟨hlt, hpad⟩, by simpa [Pad.isLinked] using hfree, fun j hj q hq => ?_⟩
    obtain ⟨hj', rfl⟩ := List.getElem?_eq_some_iff.mp hq
    simpa [Pad.isLinked] using hbefore j hj
  unfold freePad? at h
  split at h
  · rename_i hin
    cases h
    obtain ⟨pad, hpad, hfree, hbefore⟩ := first hin
    exact ⟨pad, hpad, hfree, hbefore, fun hd => by cases hd⟩
  · rename_i hin
    obtain ⟨q, hout, e⟩ := Option.map_eq_some_iff.mp h
    cases e
    obtain ⟨pad, hpad, hfree, hbefore⟩ := first hout
    refine ⟨pad, hpad, hfree, hbefore, fun _ q hq => ?_⟩
    simpa [Pad.isLinked, Option.isSome_iff_ne_none] using List.find?_eq_none.mp hin q hq

namespace Graph

variable {g g' : Graph} {origins : List Nat} {added : List Node} {p : Port} {i : Nat}

/-- The link runs from this pad, or to it. -/
def Touches (g : Graph) (i : Nat) (p : Port) : Prop := ∃ l, g.links[i]? = some l ∧ l.port p.direction = p

/-- Every output pad is the source of just one link, every input pad the destination of just one. -/
def Linked (g : Graph) : Prop := ∀ p, (g.padAt? p).isSome → ∃! i, g.Touches i p

theorem Wired.touches_iff (h : g.Wired) : g.Touches i p ↔ g.bound? p = some i := by
  constructor
  · intro ht
    obtain ⟨l, hl, hp⟩ := ht
    rw [← hp]
    exact h.ends hl p.direction
  · exact h.pads

/-- No pad is at two links. -/
theorem Wired.linked_iff (h : g.Wired) : g.Linked ↔ ∀ p, (g.padAt? p).isSome → ∃ i, g.Touches i p := by
  refine ⟨fun hl p hp => (hl p hp).exists, fun hl p hp => ?_⟩
  obtain ⟨i, hi⟩ := hl p hp
  refine ⟨i, hi, fun j hj => ?_⟩
  exact Option.some.inj ((h.touches_iff.mp hj).symm.trans (h.touches_iff.mp hi))

theorem padAt?_eq_some_iff {pad : Pad} :
    g.padAt? p = some pad ↔ ∃ n, g.nodes[p.node]? = some n ∧ (n.pads p.direction)[p.pad]? = some pad := by
  simp only [padAt?, pad?, Option.bind_eq_bind, Option.bind_eq_some_iff]

theorem bound?_eq_link {pad : Pad} (hp : g.padAt? p = some pad) : g.bound? p = pad.link := by
  rw [bound?, hp]
  rfl

theorem bound_of_freePad? (h : g.freePad? = none) (hp : (g.padAt? p).isSome) : ∃ i, g.bound? p = some i := by
  obtain ⟨pad, hpad⟩ := Option.isSome_iff_exists.mp hp
  obtain ⟨n, hn, hmem⟩ := padAt?_eq_some_iff.mp hpad
  have hfree := List.findSome?_eq_none_iff.mp h n (List.mem_of_getElem? hn)
  obtain ⟨i, hi⟩ := Node.isLinked_of_freePad? (Option.map_eq_none_iff.mp hfree) (List.mem_of_getElem? hmem)
  exact ⟨i, (bound?_eq_link hpad).trans hi⟩

/-- Of all pads none before the one complained of is free. -/
theorem first_free {n : Node} {d : Direction} {pad : Pad} (h : g.freePad? = some (n, d, pad)) :
    ∃ k i, g.nodes[k]? = some n ∧ (n.pads d)[i]? = some pad ∧ g.bound? ⟨k, d, i⟩ = none ∧
      ∀ q : Port, (g.padAt? q).isSome → q.Before ⟨k, d, i⟩ → (g.bound? q).isSome := by
  obtain ⟨before, m, after, hnodes, hm, hlinked⟩ := List.findSome?_eq_some_iff.mp h
  obtain ⟨_, hfree, e⟩ := Option.map_eq_some_iff.mp hm
  cases e
  obtain ⟨i, hpad, hnone, hpads, hinputs⟩ := Node.first_free hfree
  have hk : g.nodes[before.length]? = some n := by rw [hnodes]; simp
  refine ⟨before.length, i, hk, hpad, ?_, fun q hq hbefore => ?_⟩
  · rw [bound?_eq_link (padAt?_eq_some_iff.mpr ⟨n, hk, hpad⟩), hnone]
  obtain ⟨other, hother⟩ := Option.isSome_iff_exists.mp hq
  obtain ⟨m, hm, hmem⟩ := padAt?_eq_some_iff.mp hother
  rw [bound?_eq_link hother]
  rcases hbefore with hlt | ⟨hnode, hbefore⟩
  · have earlier : m ∈ before := by
      rw [hnodes, List.getElem?_append_left hlt] at hm
      exact List.mem_of_getElem? hm
    have hnfree := Option.map_eq_none_iff.mp (hlinked m earlier)
    exact Option.isSome_iff_exists.mpr (Node.isLinked_of_freePad? hnfree (List.mem_of_getElem? hmem))
  · have hnode : q.node = before.length := hnode
    rw [hnode, hk] at hm
    obtain rfl : n = m := Option.some.inj hm
    rcases hbefore with ⟨hin, hout⟩ | ⟨hd, hlt⟩
    · rw [hin] at hmem
      exact hinputs hout other (List.mem_of_getElem? hmem)
    · rw [hd] at hmem
      exact hpads q.pad hlt other hmem

/-! ## Converters -/

/-- The nodes there were have the pads they had. -/
theorem Converted.padAt?_isSome (h : g.Converted origins added g') (hp : p.node < g.nodes.length) :
    (g'.padAt? p).isSome = (g.padAt? p).isSome := by
  have kinds : g'.kindAt? p = kindAt? { g with nodes := g.nodes ++ added } p := kindAt?_congr h.nodes p
  have same : padAt? { g with nodes := g.nodes ++ added } p = g.padAt? p := by
    simp only [padAt?, pad?, List.getElem?_append_left hp]
  rw [kindAt?, kindAt?, same] at kinds
  simpa using congrArg Option.isSome kinds

/-- Every pad is at a link again, those of the converters too. -/
theorem Converted.touched (h : g.Converted origins added g') (hl : ∀ p, (g.padAt? p).isSome → ∃ i, g.Touches i p)
    (hone : ∀ n ∈ g'.nodes.drop g.nodes.length, ∀ d, (n.pads d).length = 1) (hp : (g'.padAt? p).isSome) :
    ∃ i, g'.Touches i p := by
  rcases Nat.lt_or_ge p.node g.nodes.length with hold | hnew
  · rw [h.padAt?_isSome hold] at hp
    obtain ⟨i, l, hi, hport⟩ := hl p hp
    by_cases hmem : i ∈ origins
    · obtain ⟨x, hx⟩ := List.mem_iff_getElem?.mp hmem
      obtain ⟨l', hl', hup, hdown⟩ := h.spliced hx
      obtain rfl : l = l' := Option.some.inj (hi.symm.trans hl')
      obtain ⟨k, d, pad⟩ := p
      cases d with
      | output => exact ⟨i, _, hup, hport⟩
      | input => exact ⟨_, _, hdown, hport⟩
    · exact ⟨i, l, (h.kept (List.getElem?_eq_some_iff.mp hi).1 hmem).trans hi, hport⟩
  · obtain ⟨pad, hpad⟩ := Option.isSome_iff_exists.mp hp
    obtain ⟨n, hn, hmem⟩ := padAt?_eq_some_iff.mp hpad
    have hlt := (List.getElem?_eq_some_iff.mp hn).1
    rw [h.length_nodes] at hlt
    obtain ⟨x, hx⟩ := Nat.exists_eq_add_of_le hnew
    have hdrop : n ∈ g'.nodes.drop g.nodes.length := by
      refine List.mem_of_getElem? (i := x) ?_
      rw [List.getElem?_drop, ← hx, hn]
    have hzero : p.pad = 0 := by
      have := (List.getElem?_eq_some_iff.mp hmem).1
      rw [hone n hdrop] at this
      omega
    obtain ⟨l, -, hup, hdown⟩ := h.spliced (List.getElem?_eq_getElem (l := origins) (i := x) (by omega))
    obtain ⟨k, d, i⟩ := p
    obtain rfl : k = g.nodes.length + x := hx
    obtain rfl : i = 0 := hzero
    cases d with
    | input => exact ⟨_, _, hup, rfl⟩
    | output => exact ⟨_, _, hdown, rfl⟩

/-- Only where links run matters. -/
theorem Touches.of_ports (h : g.Touches i p)
    (hp : ∀ i : Nat, (g'.links[i]?).map Link.port = (g.links[i]?).map Link.port) : g'.Touches i p := by
  obtain ⟨l, hl, hport⟩ := h
  have hi := hp i
  rw [hl] at hi
  obtain ⟨l', hl', e⟩ := Option.map_eq_some_iff.mp hi
  exact ⟨l', hl', by rw [e, hport]⟩

end Graph

namespace Session

variable {s t : Session}

/-! ## Validity -/

theorem validate_ok_iff (hw : s.graph.Wired) : (validate.run s).1 = .ok () ↔ s.graph.Linked := by
  rw [hw.linked_iff]
  constructor
  · intro hv p hp
    obtain ⟨i, hi⟩ := Graph.bound_of_freePad? (freePad?_of_validate hv) hp
    exact ⟨i, hw.touches_iff.mpr hi⟩
  · intro hl
    cases hfree : s.graph.freePad? with
    | none => rw [run_validate, hfree]
    | some found =>
      obtain ⟨k, i, hk, hpad, hnone, -⟩ := Graph.first_free hfree
      obtain ⟨j, hj⟩ := hl ⟨k, found.2.1, i⟩ (by rw [Graph.padAt?_eq_some_iff.mpr ⟨_, hk, hpad⟩]; rfl)
      rw [hw.touches_iff, hnone] at hj
      cases hj

/-- Converters with one pad of each direction leave no pad free. -/
theorem linked_of_negotiate (hw : s.graph.Wired) (hl : s.graph.Linked) (hn : negotiate.run s = (.ok (), t))
    (hone : ∀ n ∈ t.graph.nodes.drop s.graph.nodes.length, ∀ d, (n.pads d).length = 1) : t.graph.Linked := by
  obtain ⟨hwt, g, origins, added, converted, hnodes, hports⟩ := converted_of_negotiate hw hn
  rw [hwt.linked_iff]
  intro p hp
  have hp' : (g.padAt? p).isSome := by
    rwa [Graph.padAt?, Graph.pad?, hnodes] at hp
  obtain ⟨i, hi⟩ := converted.touched (hw.linked_iff.mp hl) (hnodes ▸ hone) hp'
  exact ⟨i, hi.of_ports hports⟩

/-- A graph is valid if and only if every pad is at just one link. Otherwise the error, one of configuration, names the
first pad that is at none. A valid graph is valid after a negotiation that ends well, if the registered types of the
converters it added have one input and one output. -/
theorem valid_iff_fully_linked (h : s.Reachable) :
    ((validate.run s).1 = .ok () ↔ s.graph.Linked) ∧
    (¬ s.graph.Linked → ∃ (p : Port) (n : Node) (pad : Pad) (e : Error), s.graph.nodes[p.node]? = some n ∧
      (n.pads p.direction)[p.pad]? = some pad ∧ (∀ i, ¬ s.graph.Touches i p) ∧
      (∀ q : Port, (s.graph.padAt? q).isSome → q.Before p → ∃ i, s.graph.Touches i q) ∧
      (validate.run s).1 = .error e ∧
      e.report = ⟨.configuration, Error.unconnectedText p.direction pad.name n.display n.type.name⟩) ∧
    ((validate.run s).1 = .ok () → (negotiate.run s).1 = .ok () →
      (∀ n ∈ (negotiate.run s).2.graph.nodes.drop s.graph.nodes.length, ∀ t,
        s.registry.lookup n.type.name = some t → t.inputs.length = 1 ∧ t.outputs.length = 1) →
      (validate.run (negotiate.run s).2).1 = .ok ()) := by
  have hw := h.wired
  refine ⟨validate_ok_iff hw, fun hl => ?_, fun hv hn hone => ?_⟩
  · cases hfree : s.graph.freePad? with
    | none => exact absurd ((validate_ok_iff hw).mp (by rw [run_validate, hfree])) hl
    | some found =>
      obtain ⟨n, d, pad⟩ := found
      obtain ⟨k, i, hk, hpad, hnone, hbefore⟩ := Graph.first_free hfree
      refine ⟨⟨k, d, i⟩, n, pad, _, hk, hpad, fun j hj => ?_, fun q hq hqp => ?_, by rw [run_validate, hfree], rfl⟩
      · rw [hw.touches_iff, hnone] at hj
        cases hj
      · obtain ⟨j, hj⟩ := Option.isSome_iff_exists.mp (hbefore q hq hqp)
        exact ⟨j, hw.touches_iff.mpr hj⟩
  · have outfitted := keeps_outfitted_negotiate s (.refl s)
    have kept : Keeps (Changes s) negotiate := keeps_negotiate
    refine (validate_ok_iff ((kept s .refl).wired hw)).mpr ?_
    refine linked_of_negotiate hw ((validate_ok_iff hw).mp hv) (run_eq_of_ok hn) fun n hmem d => ?_
    have converter := outfitted.of_drop hmem
    obtain ⟨hin, hout⟩ := hone n hmem _ converter.registered
    rw [converter.length_pads d]
    cases d
    · exact hin
    · exact hout

/-- The scaler's pads are at links. -/
theorem mismatched_stays_valid :
    Studio.mismatched.graph.Linked ∧ (negotiate.run Studio.mismatched).2.graph.nodes.length = 4 ∧
      (validate.run (negotiate.run Studio.mismatched).2).1 = .ok () := by
  obtain ⟨linked, -, kept⟩ := valid_iff_fully_linked Studio.mismatched_reachable
  have valid : (validate.run Studio.mismatched).1 = .ok () := by decide +kernel
  refine ⟨linked.mp valid, by decide +kernel, kept valid (by decide +kernel) fun n hn t ht => ?_⟩
  have names : ((negotiate.run Studio.mismatched).2.graph.nodes.drop Studio.mismatched.graph.nodes.length).map
      (·.type.name) = [scaleType] := by decide +kernel
  have hname : n.type.name ∈ [scaleType] := names ▸ List.mem_map_of_mem hn
  rw [List.mem_singleton.mp hname] at ht
  obtain rfl := Option.some.inj (ht.symm.trans Registry.lookup_standard_scale)
  exact ⟨rfl, rfl⟩

end Session

end MediaGraph

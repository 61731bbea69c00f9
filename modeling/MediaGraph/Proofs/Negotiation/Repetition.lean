/-
  MediaGraph.Proofs.Negotiation.Repetition — negotiating what was negotiated.

  A negotiation that ended well leaves a graph in which every class has a format in
  common: the one its links have got. Another one asks the filters anew. Where they
  say what they said before, their pads are left the same sets, in the same classes,
  though the links at the pads may be others by now and the converters are asked with
  the rest (`Again`). So every class still has that format in common, and no link
  needs a converter (`renegotiation_adds_nothing`).
-/

import MediaGraph.Proofs.Negotiation.Declaring
import MediaGraph.Proofs.Negotiation.Outcome

namespace MediaGraph

open MediaGraph.Action

/-! ## What filters said -/

/-- What was said to a query: the declarations made, and whether it was refused. -/
def Record.said? (r : Record) : Option (List Declaration × Answer) :=
  match r.call with
  | .query _ declared answer => some (declared, answer)
  | _ => none

/-- What an instance said whenever it was asked for its formats. -/
def History.said (h : History) (serial : Nat) : List (List Declaration × Answer) :=
  (h.filter fun r => decide (r.serial = serial)).filterMap Record.said?

/-- It said the same each time. -/
def History.Steady (h : History) (serial : Nat) : Prop := ∀ x ∈ h.said serial, ∀ y ∈ h.said serial, x = y

instance (h : History) (serial : Nat) : Decidable (h.Steady serial) := List.decidableBAll _ (h.said serial)

theorem History.mem_said {h : History} {serial : Nat} {layout : Layout} {ds : List Declaration} {answer : Answer}
    (hr : ⟨serial, .query layout ds answer⟩ ∈ h) : (ds, answer) ∈ h.said serial :=
  List.mem_filterMap.mpr ⟨_, List.mem_filter.mpr ⟨hr, decide_eq_true rfl⟩, rfl⟩

theorem History.Steady.of_later {h h' : History} {serial : Nat} (hs : h'.Steady serial) (hsub : h.Sublist h') :
    h.Steady serial := by
  have kept : ∀ x ∈ h.said serial, x ∈ h'.said serial := ((hsub.filter _).filterMap _).subset
  exact fun x hx y hy => hs x (kept x hx) y (kept y hy)

/-! ## Queries on record -/

/-- The node asked is one of the graph, bindings apart, and its answer is on record. -/
structure Survey.Filed (sv : Survey) (s : Session) : Prop where
  node : (s.graph.nodes.map Node.detached)[sv.node]? = some sv.asked.detached
  call : ⟨sv.asked.serial, .query sv.asked.layout sv.declared .done⟩ ∈ s.history
  apart : sv.asked.Apart

theorem Survey.Filed.later {sv : Survey} {s s' : Session} (h : sv.Filed s) (hs : s.Changes s') : sv.Filed s' := by
  obtain ⟨calls, hh⟩ := hs.later.history
  refine ⟨?_, by rw [hh]; exact List.mem_append_right calls h.call, h.apart⟩
  obtain ⟨rest, e⟩ := hs.detached
  rw [← e, List.getElem?_append_left (List.getElem?_eq_some_iff.mp h.node).1, h.node]

/-- The instance asked is one of the graph. -/
theorem Survey.Filed.exists_node {sv : Survey} {s : Session} (h : sv.Filed s) :
    ∃ n ∈ s.graph.nodes, n.serial = sv.asked.serial := by
  obtain ⟨n, hn, e⟩ := List.mem_map.mp (List.mem_of_getElem? h.node)
  exact ⟨n, hn, Node.serial_of_detached e⟩

theorem Graph.bound?_eq_linkAt? {g : Graph} {i : Nat} {n : Node} (hn : g.nodes[i]? = some n) (d : Direction)
    (pad : Nat) : g.bound? ⟨i, d, pad⟩ = n.linkAt? d pad := by
  simp [bound?, padAt?, pad?, hn, Node.linkAt?]

theorem Graph.Wired.apart {g : Graph} (h : g.Wired) {i : Nat} {n : Node} (hn : g.nodes[i]? = some n) : n.Apart := by
  intro d p q l hp hq
  rw [← bound?_eq_linkAt? hn] at hp hq
  obtain ⟨k, hk, hport⟩ := h.pads hp
  obtain ⟨k', hk', hport'⟩ := h.pads hq
  obtain rfl := Option.some.inj (hk.symm.trans hk')
  exact congrArg Port.pad (hport.symm.trans hport')

namespace Negotiation

variable {n n' k : Negotiation}

/-- Every query answered is on record. -/
structure Filed (n : Negotiation) : Prop where
  wired : n.session.graph.Wired
  surveys : ∀ sv ∈ n.surveys, sv.Filed n.session

theorem filed_start {s : Session} (h : s.graph.Wired) : Filed { session := s } := ⟨h, nofun⟩

theorem stable_filed : Stable Filed := by
  intro n n' hm h
  have hc := hm.steps.changes
  have old : ∀ sv ∈ n.surveys, sv.Filed n'.session := fun sv hsv => (h.surveys sv hsv).later hc
  refine ⟨hc.wired h.wired, ?_⟩
  cases hm with
  | @answer i node ds hn hq =>
    intro sv hsv
    rcases List.mem_cons.mp hsv with rfl | hsv
    · obtain ⟨hg, -, hh⟩ := Session.asked_eq node n.session
      rw [hq] at hh
      refine ⟨?_, by rw [hh]; exact List.mem_cons_self, h.wired.apart hn⟩
      rw [hg, List.getElem?_map, hn]
      rfl
    · exact old sv hsv
  | reduce =>
    rw [(reduced_reduce n).surveys]
    exact old
  | tell | plan | refuse | create | splice | merge | pick => exact old

/-! ## Pads asked -/

theorem leftHandle?_of_survey {sv : Survey} {p : Port} (hs : n.survey? p.node = some sv) :
    n.leftHandle? p = sv.asked.handle? sv.arena p.direction p.pad := by
  rw [leftHandle?, hs]
  rfl

theorem left?_of_survey {sv : Survey} {p : Port} (hs : n.survey? p.node = some sv) :
    n.left? p = sv.asked.handle? sv.arena p.direction p.pad >>= sv.arena.get? := by
  rw [left?, hs]
  rfl

/-- A pad was bound when its node was asked just where it is now. -/
theorem Coherent.isSome_linkAt? (h : Coherent n) {sv : Survey} {p : Port} (hs : n.survey? p.node = some sv) :
    (sv.asked.linkAt? p.direction p.pad).isSome = (n.session.graph.bound? p).isSome := by
  have hheld := h.filled p
  rw [← h.handle p, leftHandle?_of_survey hs, hs] at hheld
  rw [Bool.eq_iff_iff]
  constructor
  · intro hl
    obtain ⟨l, hl⟩ := Option.isSome_iff_exists.mp hl
    obtain ⟨pad, hpad, hpl⟩ := Node.linkAt?_eq_some.mp hl
    obtain ⟨a, -, ha⟩ := h.origin (List.mem_of_find?_eq_some hs)
    refine (hheld.mp ?_).1
    rw [Node.handle?, hl, ha]
    exact Arena.held_queried ⟨p.direction, rfl, pad, List.mem_of_getElem? hpad, hpl⟩ a sv.declared
  · intro hb
    obtain ⟨id, hid⟩ := Option.isSome_iff_exists.mp (hheld.mpr ⟨hb, rfl⟩)
    obtain ⟨l, hl, -⟩ := Option.bind_eq_some_iff.mp hid
    rw [hl]
    rfl

theorem Coherent.bound_of_leftHandle? (h : Coherent n) {p : Port} {id : Nat} (hp : n.leftHandle? p = some id) :
    (n.session.graph.bound? p).isSome := by
  have hheld := (h.handle p).mp (by rw [hp]; rfl)
  exact ((h.filled p).mp hheld).1

theorem Coherent.bound_of_allows (h : Coherent n) {p : Port} {f : Format} (hf : n.Allows p f) :
    (n.session.graph.bound? p).isSome := by
  obtain ⟨set, hset, -⟩ := hf
  obtain ⟨sv, hs, hset⟩ := Option.bind_eq_some_iff.mp hset
  obtain ⟨id, hid, -⟩ := Option.bind_eq_some_iff.mp hset
  exact h.bound_of_leftHandle? ((leftHandle?_of_survey hs).trans hid)

/-! ## Asked again -/

/-- `k` asked the nodes `n` asked, in a graph with the same bindings, and they declared the same. -/
structure Again (n k : Negotiation) : Prop where
  bound : ∀ p, k.session.graph.bound? p = n.session.graph.bound? p
  links : ∀ l ∈ k.session.graph.links, ∃ m ∈ n.session.graph.links, m.port = l.port
  surveys : ∀ {i sv sv'}, n.survey? i = some sv → k.survey? i = some sv' →
    sv'.asked.detached = sv.asked.detached ∧ sv'.declared = sv.declared ∧ sv.asked.Apart ∧ sv'.asked.Apart

namespace Again

variable (h : Again n k) (hn : Ready n) (hk : Ready k)
include h hn hk

/-- What a pad was left by the one it was left by the other. -/
theorem alike {p : Port} (hp : (k.session.graph.bound? p).isSome) :
    ∃ sv sv', n.survey? p.node = some sv ∧ k.survey? p.node = some sv' ∧
      Alike sv.asked sv'.asked sv.arena sv'.arena := by
  obtain ⟨i, hi⟩ := Option.isSome_iff_exists.mp hp
  obtain ⟨sv', hs'⟩ := Option.isSome_iff_exists.mp (hk.surveyed _ (Graph.node_lt_of_bound hi))
  rw [h.bound] at hi
  obtain ⟨sv, hs⟩ := Option.isSome_iff_exists.mp (hn.surveyed _ (Graph.node_lt_of_bound hi))
  obtain ⟨hd, hds, hapart, hapart'⟩ := h.surveys hs hs'
  have twins : sv.asked.Twins sv'.asked := by
    refine ⟨hd, fun d pad => ?_, hapart, hapart'⟩
    have hb := hn.coherent.isSome_linkAt? (p := ⟨p.node, d, pad⟩) hs
    have hb' := hk.coherent.isSome_linkAt? (p := ⟨p.node, d, pad⟩) hs'
    rw [hb, hb', h.bound]
  obtain ⟨a, ha, horigin⟩ := hn.coherent.origin (List.mem_of_find?_eq_some hs)
  obtain ⟨b, hb, horigin'⟩ := hk.coherent.origin (List.mem_of_find?_eq_some hs')
  refine ⟨sv, sv', hs, hs', ?_⟩
  rw [horigin, horigin', hds]
  exact alike_queried twins ha hb sv.declared

/-- The classes are those there were. -/
theorem tied {p q : Port} (hpq : Tied k p q) : Tied n p q := by
  cases hpq with
  | @link l d e hl =>
    obtain ⟨m, hm, hport⟩ := h.links l hl
    rw [← hport]
    exact .link d e hm
  | @shared _ _ id hnode hp hq =>
    obtain ⟨sv, sv', hs, hs', ha⟩ := h.alike hn hk (hk.coherent.bound_of_leftHandle? hp)
    rw [leftHandle?_of_survey hs'] at hp
    rw [leftHandle?_of_survey (by rw [← hnode]; exact hs')] at hq
    have hholds := ha.holds p.direction p.pad
    rw [hp] at hholds
    obtain ⟨id', hp'⟩ := Option.isSome_iff_exists.mp hholds.symm
    have hq' := (ha.same p.direction p.pad q.direction q.pad).mp (hp.trans hq.symm)
    refine .shared hnode (h := id') ?_ ?_
    · rw [leftHandle?_of_survey hs, hp']
    · rw [leftHandle?_of_survey (by rw [← hnode]; exact hs), ← hq', hp']

/-- The formats left for a pad are those there were. -/
theorem allows {p : Port} {f : Format} (hf : n.Allows p f) : k.Allows p f := by
  have hb := hn.coherent.bound_of_allows hf
  rw [← h.bound] at hb
  obtain ⟨sv, sv', hs, hs', ha⟩ := h.alike hn hk hb
  obtain ⟨set, hset, hf⟩ := hf
  rw [left?_of_survey hs] at hset
  obtain ⟨id, hid, hget⟩ := Option.bind_eq_some_iff.mp hset
  have hleft : (k.leftHandle? p).isSome := by
    rw [leftHandle?_of_survey hs', ha.holds, hid]
    rfl
  obtain ⟨set', hset'⟩ := Option.isSome_iff_exists.mp (hk.coherent.left hleft)
  refine ⟨set', hset', ?_⟩
  rw [left?_of_survey hs'] at hset'
  obtain ⟨id', hid', hget'⟩ := Option.bind_eq_some_iff.mp hset'
  rw [ha.sets hid hid' hget hget']
  exact hf

end Again

/-- The formats a negotiation settled on will do for another one, where the filters say the same. -/
theorem Outcome.satisfiable {m : Negotiation} (ho : Outcome n m) (hn : Merged n) (hk : Ready k) (h : Again n k)
    (hg : k.session.graph = m.session.graph) : Satisfiable k := by
  intro l hl d
  rw [hg] at hl
  obtain ⟨i, hi⟩ := List.mem_iff_getElem?.mp hl
  obtain ⟨f, -, hf⟩ := ho.allows hn hi
  exact ⟨f, fun q hq => h.allows hn.toReady hk (hf d q (hq.mono fun _ _ => h.tied hn.toReady hk))⟩

/-! ## Two negotiations -/

/-- What happened to a negotiation whose query phase ended well happened after that. -/
theorem steps_of_query {s : Session} (hq : query.run { session := s } = (.ok (), n)) : Steps n s.negotiation := by
  have hP := stable_steps n
  have hrest := keeps_bind (keeps_merge hP) (fun _ => keeps_bind (keeps_reduce hP) fun passes =>
    keeps_bind (keeps_notice hP (.reductionDone passes)) fun _ => keeps_pick hP) n .refl
  rw [Session.negotiation, runPhases, run_bind_of_run hq]
  exact hrest

theorem filed_negotiation {s : Session} (h : s.graph.Wired) : Filed s.negotiation :=
  keeps_runPhases stable_filed _ (filed_start h)

theorem node_of_survey? {sv : Survey} {i : Nat} (h : n.survey? i = some sv) : sv.node = i := by
  simpa using List.find?_some h

/-- Each node was asked, and did not refuse. -/
theorem Outcome.answer_on_record {m : Negotiation} (ho : Outcome n m) (hn : Ready n) (hm : Filed m) {node : Node}
    (hnode : node ∈ m.session.graph.nodes) :
    ∃ ds, ⟨node.serial, .query node.layout ds .done⟩ ∈ m.session.history := by
  obtain ⟨i, hi⟩ := List.mem_iff_getElem?.mp hnode
  have hlt := (List.getElem?_eq_some_iff.mp hi).1
  rw [ho.nodes] at hlt
  obtain ⟨sv, hs⟩ := Option.isSome_iff_exists.mp (hn.surveyed i hlt)
  have hfiled := hm.surveys sv (by rw [ho.surveys]; exact List.mem_of_find?_eq_some hs)
  have hd := hfiled.node
  rw [node_of_survey? hs, List.getElem?_map, hi] at hd
  have hd := Option.some.inj hd
  rw [Node.serial_of_detached hd, Node.layout_of_detached hd]
  exact ⟨sv.declared, hfiled.call⟩

/-- Steady filters asked in the graph that a negotiation left are asked again. -/
theorem again_of_steady {m : Negotiation} (ho : Outcome n m) (hm : Filed m) (hk : Filed k)
    (hg : k.session.graph = m.session.graph) (past : ∀ r ∈ m.session.history, r ∈ k.session.history)
    (hsteady : ∀ node ∈ m.session.graph.nodes, k.session.history.Steady node.serial) : Again n k := by
  refine ⟨fun p => by rw [hg, ho.bound?_eq], ?links, ?surveys⟩
  case links =>
    intro l hl
    rw [hg] at hl
    obtain ⟨i, hi⟩ := List.mem_iff_getElem?.mp hl
    obtain ⟨l', hl', hport⟩ := ho.link_of hi
    exact ⟨l', List.mem_of_getElem? hl', hport⟩
  intro i sv sv' hs hs'
  have first := hm.surveys sv (by rw [ho.surveys]; exact List.mem_of_find?_eq_some hs)
  have second := hk.surveys sv' (List.mem_of_find?_eq_some hs')
  have detached : sv'.asked.detached = sv.asked.detached := by
    have hd := first.node
    rw [node_of_survey? hs, ← hg, ← node_of_survey? hs', second.node] at hd
    exact Option.some.inj hd
  obtain ⟨node, hnode, hserial⟩ := first.exists_node
  have said := History.mem_said (past _ first.call)
  have said' := History.mem_said second.call
  rw [Node.serial_of_detached detached] at said'
  rw [← hserial] at said said'
  have hsame := hsteady node hnode _ said' _ said
  exact ⟨detached, congrArg Prod.fst hsame, first.apart, second.apart⟩

end Negotiation

namespace Session

open MediaGraph.Negotiation

variable {s : Session}

/-- Where each filter of the graph says the same whenever it is asked for its formats, negotiating again what was
negotiated well ends well too, and changes nothing but formats: no node and no link is added, and the ends of every link
stay where they are. -/
theorem renegotiation_adds_nothing (h : s.Reachable) (hok : (negotiate.run s).1 = .ok ())
    (hsteady : ∀ n ∈ (negotiate.run s).2.graph.nodes,
      (negotiate.run (negotiate.run s).2).2.history.Steady n.serial) :
    (negotiate.run (negotiate.run s).2).1 = .ok () ∧
      (negotiate.run (negotiate.run s).2).2.graph.unformatted = (negotiate.run s).2.graph.unformatted := by
  obtain ⟨-, n, -, -, -, -, merged, -, hout⟩ := run_ok h.wired hok
  have filed := filed_negotiation h.wired
  let s₁ := s.negotiation.session
  change ∀ n ∈ s₁.graph.nodes, s₁.negotiation.session.history.Steady n.serial at hsteady
  change (negotiate.run s₁).1 = .ok () ∧ (negotiate.run s₁).2.graph.unformatted = s₁.graph.unformatted
  -- what was said in the first negotiation is still on record when the queries of the second are over
  have past : ∀ r ∈ s₁.history, r ∈ (query.run { session := s₁ }).2.session.history := by
    have hsteps := keeps_query (stable_steps { session := s₁ }) _ .refl
    obtain ⟨calls, hh⟩ := hsteps.changes.later.history
    exact fun r hr => by rw [hh]; exact List.mem_append_right calls hr
  rcases hq : query.run { session := s₁ } with ⟨e | ⟨⟩, k⟩
  · -- a filter that refuses now did not refuse before
    rw [hq] at past
    have hstop : s₁.negotiation = k := by
      rw [Session.negotiation, runPhases, run_bind, hq]
    obtain ⟨node, hnode, calls, ds, r, -, -, -, hhistory⟩ := query_stops hq
    obtain ⟨ds', hcall⟩ := hout.answer_on_record merged.toReady filed hnode
    have said := History.mem_said (past _ hcall)
    have said' : (ds, Answer.refused r) ∈ k.session.history.said node.serial :=
      History.mem_said (by rw [hhistory]; exact List.mem_cons_self)
    rw [hstop] at hsteady
    cases hsteady node hnode _ said _ said'
  · -- those asked say what they said, and the formats settled on before will do
    rw [hq] at past
    obtain ⟨ready, hg⟩ := query_ok filed.wired hq
    have filed' : Filed k := by
      have hfiled := keeps_query stable_filed _ (filed_start filed.wired)
      rwa [hq] at hfiled
    obtain ⟨calls, later⟩ := (steps_of_query hq).changes.later.history
    have steady : ∀ n ∈ s₁.graph.nodes, k.session.history.Steady n.serial := by
      intro node hnode
      have hlater := hsteady node hnode
      rw [later] at hlater
      exact hlater.of_later (List.sublist_append_right calls _)
    have again := again_of_steady hout filed filed' hg past steady
    exact (hout.satisfiable merged ready again hg).negotiate filed.wired hq

/-- The scaler put in the first time is asked with the rest the second time, and stays the only one. -/
theorem mismatched_again :
    (negotiate.run Studio.mismatched).2.graph.nodes.length = 4 ∧
      (negotiate.run (negotiate.run Studio.mismatched).2).1 = .ok () ∧
      (negotiate.run (negotiate.run Studio.mismatched).2).2.graph.nodes.length = 4 := by
  have four : (negotiate.run Studio.mismatched).2.graph.nodes.length = 4 := by decide +kernel
  obtain ⟨hok, hgraph⟩ := renegotiation_adds_nothing Studio.mismatched_reachable (by decide +kernel) (by decide +kernel)
  exact ⟨four, hok, by rw [Graph.nodes_of_unformatted hgraph, four]⟩

end Session

end MediaGraph

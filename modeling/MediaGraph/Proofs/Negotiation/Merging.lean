/-
  MediaGraph.Proofs.Negotiation.Merging — what querying and merging come to.

  A query phase stops at the first filter that refuses (`query_stops`). After one that
  ended well every node is on record and each end holds a set (`Ready`, `query_ok`).
  What the first query of a node keeps the phase keeps, whatever the order of the nodes
  (`Asking`, `queryIn_ok`). Merging one link settles it, by way of a
  converter or not, and keeps settled what was (`mergeLink_ok`). A link not settled
  yet leads to the node it led to before, so going over the nodes in order settles
  every link, those appended on the way included (`merge_ok`).

  Where every class has a format in common no link needs a converter, and merging
  ends well (`merge_total`).
-/

import MediaGraph.Proofs.Negotiation.Coherence
import MediaGraph.Proofs.Negotiation.Steps

namespace MediaGraph

open MediaGraph.Action

namespace Negotiation

variable {n n' n'' : Negotiation}

/-! ## After the queries -/

/-- Every node was asked. -/
structure Ready (n : Negotiation) : Prop where
  coherent : Coherent n
  surveyed : ∀ i < n.session.graph.nodes.length, (n.survey? i).isSome

section Binds

variable {α β : Type} {b : β}

theorem run_onSession_bind_ok {x : Action Session α} {f : α → Action Negotiation β} :
    (onSession x >>= f).run n = (.ok b, n') ↔
      ∃ a s, x.run n.session = (.ok a, s) ∧ (f a).run { n with session := s } = (.ok b, n') := by
  rw [run_bind_ok]
  constructor
  · intro hrun
    obtain ⟨a, _, hx, hf⟩ := hrun
    obtain ⟨s, hs, rfl⟩ := run_onPart_ok.mp hx
    exact ⟨a, s, hs, hf⟩
  · intro hrun
    obtain ⟨a, s, hx, hf⟩ := hrun
    exact ⟨a, _, run_onPart_ok.mpr ⟨s, hx, rfl⟩, hf⟩

theorem run_nodeAt_bind_ok {i : Nat} {f : Node → Action Negotiation β} :
    (onSession (Session.nodeAt i) >>= f).run n = (.ok b, n') ↔
      ∃ node, n.session.graph.nodes[i]? = some node ∧ (f node).run n = (.ok b, n') := by
  rw [run_onSession_bind_ok]
  constructor
  · intro hrun
    obtain ⟨node, s, hs, hf⟩ := hrun
    obtain ⟨hi, rfl⟩ := run_expect_ok.mp hs
    exact ⟨node, hi, hf⟩
  · intro hrun
    obtain ⟨node, hi, hf⟩ := hrun
    exact ⟨node, n.session, run_expect_ok.mpr ⟨hi, rfl⟩, hf⟩

theorem run_linkAt_bind_ok {i : Nat} {f : Link → Action Negotiation β} :
    (onSession (Session.linkAt i) >>= f).run n = (.ok b, n') ↔
      ∃ l, n.session.graph.links[i]? = some l ∧ (f l).run n = (.ok b, n') := by
  rw [run_onSession_bind_ok]
  constructor
  · intro hrun
    obtain ⟨l, s, hs, hf⟩ := hrun
    obtain ⟨hi, rfl⟩ := run_expect_ok.mp hs
    exact ⟨l, hi, hf⟩
  · intro hrun
    obtain ⟨l, hi, hf⟩ := hrun
    exact ⟨l, n.session, run_expect_ok.mpr ⟨hi, rfl⟩, hf⟩

end Binds

theorem run_queryNode_ok {i : Nat} (h : (queryNode i).run n = (.ok (), n')) :
    ∃ node ds, n.session.graph.nodes[i]? = some node ∧
      n' = { n with session := n.session.asked node }.answered i node ds := by
  rw [run_queryNode] at h
  cases hn : n.session.graph.nodes[i]? with
  | none => rw [hn] at h; cases h
  | some node =>
    rw [hn] at h
    simp only at h
    rcases hq : node.filter.query n.session.history node.serial node.layout with ⟨ds, _ | r⟩
    · rw [hq] at h
      cases h
      exact ⟨node, ds, rfl, rfl⟩
    · rw [hq] at h
      cases h

/-- A query that fails was refused, which is on record. -/
theorem run_queryNode_error {i : Nat} {node : Node} {e : Error} (hn : n.session.graph.nodes[i]? = some node)
    (h : (queryNode i).run n = (.error e, n')) :
    ∃ ds r, e = .reported r ∧ node.filter.query n.session.history node.serial node.layout = (ds, .refused r) ∧
      n'.session.graph = n.session.graph ∧
      n'.session.history = ⟨node.serial, .query node.layout ds (.refused r)⟩ :: n.session.history := by
  obtain ⟨hg, -, hh⟩ := Session.asked_eq node n.session
  rw [run_queryNode, hn] at h
  simp only at h
  rcases hq : node.filter.query n.session.history node.serial node.layout with ⟨ds, _ | r⟩ <;> rw [hq] at h hh <;> cases h
  exact ⟨ds, r, rfl, rfl, hg, hh⟩

/-- What a node's first query keeps. -/
theorem queryNode_ok (h : Coherent n) {i : Nat} (hi : n.survey? i = none) (hr : (queryNode i).run n = (.ok (), n')) :
    Coherent n' ∧ n'.session.graph = n.session.graph ∧ (n'.survey? i).isSome ∧
      (∀ j, j ≠ i → n'.survey? j = n.survey? j) ∧ ∀ m, n.Settled m → n'.Settled m := by
  obtain ⟨node, ds, hn, rfl⟩ := run_queryNode_ok hr
  have h' := h.aside _ (Session.graph_asked node n.session) n.converters
  have hn' := Session.node_asked hn
  have ha := h'.asked_query hn' hi ds
  exact ⟨h'.query hn' hi ds, Session.graph_asked _ _, ha.survey, fun j hj => (ha.others (p := ⟨j, .input, 0⟩) hj).1,
    fun _ hm => ha.settled hm⟩

/-- The query phase, with the nodes asked in this order: `query` asks them by number. -/
def queryIn (order : List Nat) : Action Negotiation Unit := do
  let nodes ← nodeCount
  onSession (Session.notice (.querying nodes))
  order.forM queryNode

/-- The nodes of `order` are asked in turn, `P` holds so far, and those of `rest` are the ones still to ask. -/
structure Asking (P : Negotiation → Prop) (order rest : List Nat) (m : Negotiation) : Prop where
  kept : P m
  nodup : rest.Nodup
  subset : rest ⊆ order
  asked : ∀ j, (m.survey? j).isSome ↔ j ∈ order ∧ j ∉ rest

/-- What the first query of a node keeps the queries of several nodes keep. -/
theorem queryIn_ok {P : Negotiation → Prop}
    (hP : ∀ {i m m'}, P m → m.survey? i = none → (queryNode i).run m = (.ok (), m') → P m') {s : Session}
    (h : P { session := s.tell (.querying s.graph.nodes.length) }) {order : List Nat} (hnodup : order.Nodup)
    (hr : (queryIn order).run { session := s } = (.ok (), n)) : P n ∧ ∀ j, (n.survey? j).isSome ↔ j ∈ order := by
  have step : ∀ i rest m m', Asking P order (i :: rest) m → (queryNode i).run m = (.ok (), m') →
      Asking P order rest m' := by
    intro i rest m m' hm hr
    have hnone : m.survey? i = none := by
      rw [← Option.not_isSome_iff_eq_none, hm.asked]
      exact fun hi => hi.2 List.mem_cons_self
    have kept := hP hm.kept hnone hr
    obtain ⟨node, ds, -, rfl⟩ := run_queryNode_ok hr
    obtain ⟨hi, hnodup⟩ := List.nodup_cons.mp hm.nodup
    refine ⟨kept, hnodup, List.subset_of_cons_subset hm.subset, fun j => ?_⟩
    rw [survey?_answered]
    split
    · rename_i e
      exact iff_of_true rfl ⟨e ▸ hm.subset List.mem_cons_self, e ▸ hi⟩
    · rename_i e
      refine (hm.asked j).trans (and_congr_right fun _ => ?_)
      simp [Ne.symm e]
  have start : Asking P order order { session := s.tell (.querying s.graph.nodes.length) } :=
    ⟨h, hnodup, List.Subset.refl _, fun j => iff_of_false Bool.false_ne_true fun hj => hj.2 hj.1⟩
  have hn := forM_ok step _ _ _ start hr
  exact ⟨hn.kept, fun j => (hn.asked j).trans (and_iff_left List.not_mem_nil)⟩

theorem query_ok {s : Session} (h : s.graph.Wired) (hr : query.run { session := s } = (.ok (), n)) :
    Ready n ∧ n.session.graph = s.graph := by
  have keep : ∀ {i m m'}, Coherent m ∧ m.session.graph = s.graph → m.survey? i = none →
      (queryNode i).run m = (.ok (), m') → Coherent m' ∧ m'.session.graph = s.graph := by
    intro i m m' hm hi hr
    obtain ⟨hm', hg, -⟩ := queryNode_ok hm.1 hi hr
    exact ⟨hm', hg.trans hm.2⟩
  obtain ⟨⟨hn, hg⟩, hasked⟩ := queryIn_ok keep ⟨coherent_start h, rfl⟩ List.nodup_range hr
  refine ⟨⟨hn, fun i hi => (hasked i).mpr (List.mem_range.mpr ?_)⟩, hg⟩
  rw [hg] at hi
  exact hi

/-- A query phase that fails was refused by a filter of the graph, which it leaves alone. -/
theorem query_stops {s : Session} {e : Error} (hr : query.run { session := s } = (.error e, n)) :
    ∃ node ∈ s.graph.nodes, ∃ calls ds r, e = .reported r ∧
      node.filter.query calls node.serial node.layout = (ds, .refused r) ∧ n.session.graph = s.graph ∧
      n.session.history = ⟨node.serial, .query node.layout ds (.refused r)⟩ :: calls := by
  have step : ∀ i ∈ List.range s.graph.nodes.length, ∀ m m', m.session.graph = s.graph →
      (queryNode i).run m = (.ok (), m') → m'.session.graph = s.graph := by
    intro i _ m m' hg hr
    obtain ⟨node, ds, -, rfl⟩ := run_queryNode_ok hr
    exact (Session.graph_asked _ _).trans hg
  change ((List.range s.graph.nodes.length).forM queryNode).run
    { session := s.tell (.querying s.graph.nodes.length) } = _ at hr
  obtain ⟨i, hi, m, hg, hr⟩ := forM_error_of_mem step rfl hr
  have hi := List.mem_range.mp hi
  have hn : m.session.graph.nodes[i]? = some s.graph.nodes[i] := by rw [hg, List.getElem?_eq_getElem hi]
  obtain ⟨ds, r, he, hq, hgraph, hhistory⟩ := run_queryNode_error hn hr
  exact ⟨_, List.getElem_mem hi, m.session.history, ds, r, he, hq, hgraph.trans hg, hhistory⟩

namespace Ready

theorem held_isSome (h : Ready n) {p : Port} {i : Nat} (hp : n.session.graph.bound? p = some i) : (n.held? p).isSome :=
  (h.coherent.filled p).mpr ⟨by rw [hp]; rfl, h.surveyed _ (Graph.node_lt_of_bound hp)⟩

theorem ends (h : Ready n) {i : Nat} {l : Link} (hl : n.session.graph.links[i]? = some l) :
    ∃ a b, n.arena.link i = ⟨some a, some b⟩ :=
  h.coherent.ends_of_held hl fun d => h.held_isSome (h.coherent.wired.ends hl d)

theorem aside (h : Ready n) (session : Session) (hg : session.graph = n.session.graph) (converters : Converters) :
    Ready { n with session, converters } :=
  ⟨h.coherent.aside session hg converters, fun i hi => h.surveyed i (by rw [← hg]; exact hi)⟩

end Ready

/-! ## One link -/

/-- What merging some links does to the others: what is settled stays settled, what is not leads where it led.
Nodes are only ever appended; if none is, the graph and the queries on record stay. -/
structure Advance (n n' : Negotiation) : Prop where
  settled : ∀ {m}, n.Settled m → n'.Settled m
  dst : ∀ {m l}, n'.session.graph.links[m]? = some l →
    n'.Settled m ∨ ∃ k, n.session.graph.links[m]? = some k ∧ k.dst = l.dst
  links : n.session.graph.links.length ≤ n'.session.graph.links.length
  nodes : n.session.graph.nodes.length < n'.session.graph.nodes.length ∨
    n'.session.graph = n.session.graph ∧ n'.surveys = n.surveys

namespace Advance

theorem of_graph (hs : ∀ {m}, n.Settled m → n'.Settled m) (hg : n'.session.graph = n.session.graph)
    (hv : n'.surveys = n.surveys) : Advance n n' :=
  ⟨hs, fun hl => Or.inr ⟨_, by rw [← hg]; exact hl, rfl⟩, Nat.le_of_eq (by rw [hg]), Or.inr ⟨hg, hv⟩⟩

theorem refl (n : Negotiation) : Advance n n := of_graph id rfl rfl

theorem trans (h : Advance n n') (h' : Advance n' n'') : Advance n n'' where
  settled hm := h'.settled (h.settled hm)
  dst hl := by
    rcases h'.dst hl with hs | ⟨k, hk, e⟩
    · exact Or.inl hs
    · rcases h.dst hk with hs | ⟨j, hj, e'⟩
      · exact Or.inl (h'.settled hs)
      · exact Or.inr ⟨j, hj, e'.trans e⟩
  links := Nat.le_trans h.links h'.links
  nodes := by
    rcases h.nodes with h | ⟨h1, h2⟩ <;> rcases h'.nodes with h' | ⟨h1', h2'⟩
    · exact Or.inl (Nat.lt_trans h h')
    · exact Or.inl (by rw [h1']; exact h)
    · exact Or.inl (by rw [← h1]; exact h')
    · exact Or.inr ⟨h1'.trans h1, h2'.trans h2⟩

end Advance

theorem planConverter_ok {kind : MediaKind} {plan : ConverterPlan} (hr : (planConverter kind).run n = (.ok plan, n')) :
    ∃ converters, n.converters.plan kind n.session.registry n.session.options.scaleOpts = .ok (plan, converters) ∧
      n' = { n with converters } := by
  rw [run_planConverter] at hr
  split at hr
  · rename_i hp
    cases hr
    exact ⟨_, hp, rfl⟩
  · cases hr

/-- Merging next to a converter, where everything was asked. -/
theorem Ready.mergeBeside (h : Ready n) {src dst : Node} {link : Nat} {l : Link}
    (hl : n.session.graph.links[link]? = some l) (hr : (Negotiation.mergeBeside src dst link).run n = (.ok (), n')) :
    Ready n' ∧ n'.session.graph = n.session.graph ∧ n'.Settled link ∧ ∀ m, n.Settled m → n'.Settled m := by
  obtain ⟨i, j, hends⟩ := h.ends hl
  rw [run_mergeBeside, hends] at hr
  simp only at hr
  cases hm : n.arena.merge i j with
  | none => rw [hm] at hr; cases hr
  | some arena =>
    rw [hm] at hr
    cases hr
    obtain ⟨hc, hlink, hs⟩ := h.coherent.merge hends hm
    exact ⟨⟨hc, h.surveyed⟩, rfl, hlink, hs⟩

/-- What inserting a converter comes to: a node planned, created, spliced in and asked, and both its links merged. -/
theorem run_insertConverter_ok {link : Nat} (hr : (insertConverter link).run n = (.ok (), n')) :
    ∃ (l : Link) (plan : ConverterPlan) (converters : Converters) (notice : Notice) (node : Node) (session : Session)
      (graph : Graph) (down : Nat) (src dst : Node) (n₁ n₂ : Negotiation),
      n.session.graph.links[link]? = some l ∧
      n.converters.plan l.kind n.session.registry n.session.options.scaleOpts = .ok (plan, converters) ∧
      (n.session.tell notice).Created plan.type (some plan.name) plan.args none node session ∧
      session.graph.insert link n.session.graph.nodes.length 0 0 = .ok (down, graph) ∧
      (queryNode n.session.graph.nodes.length).run { n with
        session := { session with graph }
        converters
        arena := n.arena.moveAccepted link down } = (.ok (), n₁) ∧
      (mergeBeside src dst link).run n₁ = (.ok (), n₂) ∧ (mergeBeside src dst down).run n₂ = (.ok (), n') := by
  unfold insertConverter at hr
  obtain ⟨l, hl, h₁⟩ := run_linkAt_bind_ok.mp hr
  obtain ⟨plan, n₁, hplanned, h₂⟩ := run_bind_ok.mp h₁
  obtain ⟨converters, hplan, rfl⟩ := planConverter_ok hplanned
  obtain ⟨src, -, h₃⟩ := run_nodeAt_bind_ok.mp h₂
  obtain ⟨dst, -, h₄⟩ := run_nodeAt_bind_ok.mp h₃
  obtain ⟨_, s₁, hnotice, h₅⟩ := run_onSession_bind_ok.mp h₄
  obtain ⟨c, s₂, hcreate, h₆⟩ := run_onSession_bind_ok.mp h₅
  obtain ⟨down, s₃, hinsert, h₇⟩ := run_onSession_bind_ok.mp h₆
  obtain ⟨_, n₄, hmove, h₈⟩ := run_bind_ok.mp h₇
  obtain ⟨_, n₅, hquery, h₉⟩ := run_bind_ok.mp h₈
  obtain ⟨_, n₆, hup, hdown⟩ := run_bind_ok.mp h₉
  cases hnotice
  cases hmove
  rcases Session.create_cases plan.type (some plan.name) plan.args none
      (n.session.tell (.inserting plan.name src.display dst.display)) with ⟨e, s, hs, -⟩ | ⟨node, s, hs, hnode⟩
  · cases hs.symm.trans hcreate
  cases hs.symm.trans hcreate
  rw [Session.insert, Session.run_edit] at hinsert
  split at hinsert
  · rename_i j graph hi
    cases hinsert
    exact ⟨l, plan, converters, _, node, s₂, graph, down, src, dst, n₅, n₆, hl, hplan, hnode, hi, hquery, hup, hdown⟩
  · cases hinsert

/-- A node appended and spliced into a link, before it is asked. -/
structure Extended (n n' : Negotiation) (link : Nat) : Prop where
  coherent : Coherent n'
  new : n'.survey? n.session.graph.nodes.length = none
  surveys : n'.surveys = n.surveys
  settled : ∀ {m}, n.Settled m → n'.Settled m
  nodes : n'.session.graph.nodes.length = n.session.graph.nodes.length + 1
  up : ∃ l, n'.session.graph.links[link]? = some l
  down : ∃ l, n'.session.graph.links[n.session.graph.links.length]? = some l
  others : ∀ {m l}, n'.session.graph.links[m]? = some l →
    m = link ∨ m = n.session.graph.links.length ∨ n.session.graph.links[m]? = some l

theorem Ready.extend (h : Ready n) {link i j down : Nat} (hl : n.arena.link link = ⟨some i, some j⟩) (hij : i ≠ j)
    {session : Session} {node : Node} {graph : Graph} (converters : Converters) (hn : node.Unbound)
    (hg : session.graph = n.session.graph.addNode node)
    (hi : session.graph.insert link n.session.graph.nodes.length 0 0 = .ok (down, graph)) :
    down = n.session.graph.links.length ∧ Extended n { n with
      session := { session with graph }
      converters
      arena := n.arena.moveAccepted link down } link := by
  have hnew : n.survey? n.session.graph.nodes.length = none := by
    cases hs : n.survey? n.session.graph.nodes.length with
    | none => rfl
    | some _ => exact absurd (h.coherent.asked (by rw [hs]; rfl)) (Nat.lt_irrefl _)
  obtain ⟨rfl, l, hs⟩ := Graph.insert_ok hi
  have hlinks : session.graph.links = n.session.graph.links := by rw [hg]; rfl
  have hc : Coherent { n with session, converters } := (h.coherent.aside n.session rfl converters).create hn hg
  refine ⟨by rw [hlinks], hc.splice hs hl hij hnew, hnew, rfl, fun hm => settled_spliced hc.toAccounted hs hl hij hm,
    ?nodes, ⟨_, hs.links_iff.mpr (Or.inl ⟨rfl, rfl⟩)⟩, ?down, ?others⟩
  case nodes =>
    show graph.nodes.length = _
    rw [hs.nodes, hg]
    simp [Graph.addNode]
  case down =>
    rw [← hlinks]
    exact ⟨_, hs.links_iff.mpr (Or.inr (Or.inr ⟨rfl, rfl⟩))⟩
  case others =>
    intro m k hm
    rw [← hlinks]
    rcases hs.links_iff.mp hm with ⟨e, -⟩ | ⟨-, hm⟩ | ⟨e, -⟩
    · exact Or.inl e
    · exact Or.inr (Or.inr hm)
    · exact Or.inr (Or.inl e)

/-- A converter spliced in settles the link and the new link behind it. -/
theorem insertConverter_ok (h : Ready n) {link i j : Nat} (hl : n.arena.link link = ⟨some i, some j⟩) (hij : i ≠ j)
    (hr : (insertConverter link).run n = (.ok (), n')) : Ready n' ∧ Advance n n' ∧ n'.Settled link := by
  obtain ⟨_, _, converters, _, node, session, graph, down, src, dst, n₁, n₂, -, -, hnode, hi, hquery, hup, hdown⟩ :=
    run_insertConverter_ok hr
  obtain ⟨rfl, hext⟩ := h.extend hl hij converters hnode.unbound hnode.graph hi
  obtain ⟨l, hup₁⟩ := hext.up
  obtain ⟨k, hdown₁⟩ := hext.down
  obtain ⟨hc₁, hg₁, hsurvey, hothers, hs₁⟩ := queryNode_ok hext.coherent hext.new hquery
  have ready₁ : Ready n₁ := by
    refine ⟨hc₁, fun i hi => ?_⟩
    rw [hg₁, hext.nodes] at hi
    by_cases e : i = n.session.graph.nodes.length
    · rw [e]
      exact hsurvey
    · rw [hothers i e]
      exact h.surveyed i (by omega)
  obtain ⟨ready₂, hg₂, hset₂, hs₂⟩ := ready₁.mergeBeside (by rw [hg₁]; exact hup₁) hup
  obtain ⟨ready', hg', hset', hs'⟩ := ready₂.mergeBeside (by rw [hg₂, hg₁]; exact hdown₁) hdown
  have hgraph := hg'.trans (hg₂.trans hg₁)
  refine ⟨ready', ⟨fun hm => hs' _ (hs₂ _ (hs₁ _ (hext.settled hm))), ?dst, ?links, ?nodes⟩, hs' _ hset₂⟩
  case dst =>
    intro m l' hm
    rw [hgraph] at hm
    rcases hext.others hm with rfl | rfl | hm
    · exact Or.inl (hs' _ hset₂)
    · exact Or.inl hset'
    · exact Or.inr ⟨l', hm, rfl⟩
  case links =>
    rw [hgraph]
    exact Nat.le_of_lt (List.getElem?_eq_some_iff.mp hdown₁).1
  case nodes =>
    refine Or.inl ?_
    rw [hgraph, hext.nodes]
    omega

theorem mergeLink_ok (h : Ready n) {link : Nat} (hlt : link < n.session.graph.links.length)
    (hr : (mergeLink link).run n = (.ok (), n')) : Ready n' ∧ Advance n n' ∧ n'.Settled link := by
  obtain ⟨i, j, hl⟩ := h.ends (List.getElem?_eq_getElem hlt)
  rw [run_mergeLink, hl] at hr
  simp only at hr
  by_cases hij : i = j
  · rw [if_pos hij] at hr
    cases hr
    exact ⟨h, .refl n, i, by rw [hl, hij]⟩
  · rw [if_neg hij] at hr
    cases hm : n.arena.merge i j with
    | none =>
      rw [hm] at hr
      exact insertConverter_ok h hl hij hr
    | some arena =>
      rw [hm] at hr
      cases hr
      obtain ⟨hc, hset, hs⟩ := h.coherent.merge hl hm
      have hready : Ready { n with arena } := ⟨hc, h.surveyed⟩
      exact ⟨hready.aside (n.session.tell _) rfl n.converters, Advance.of_graph (fun hm => hs _ hm) rfl rfl, hset⟩

/-! ## All links -/

/-- Merging a node settles all links that led to it, and keeps what merging one link keeps. -/
theorem mergeNode_keeps {P : Negotiation → Prop}
    (hP : ∀ {n n' : Negotiation} {link : Nat}, Ready n → P n → link < n.session.graph.links.length →
      (mergeLink link).run n = (.ok (), n') → P n') (h : Ready n) (hp : P n) {k : Nat}
    (hr : (mergeNode k).run n = (.ok (), n')) :
    (Ready n' ∧ Advance n n' ∧ P n') ∧ ∀ m l, n.session.graph.links[m]? = some l → l.dst = k → n'.Settled m := by
  obtain ⟨node, hn, hr⟩ := run_nodeAt_bind_ok.mp hr
  have step : ∀ x ∈ node.inputLinks, ∀ m m', Ready m ∧ Advance n m ∧ P m → (mergeLink x).run m = (.ok (), m') →
      (Ready m' ∧ Advance n m' ∧ P m') ∧ m'.Settled x ∧ ∀ y, m.Settled y → m'.Settled y := by
    rintro x hx m m' ⟨hm, ha, hpm⟩ hr
    obtain ⟨pad, hx⟩ := (Graph.mem_inputLinks hn).mp hx
    have hlt := Nat.lt_of_lt_of_le (h.coherent.wired.bound_lt hx) ha.links
    obtain ⟨hm', ha', hset⟩ := mergeLink_ok hm hlt hr
    exact ⟨⟨hm', ha.trans ha', hP hm hpm hlt hr⟩, hset, fun _ => ha'.settled⟩
  obtain ⟨kept, hdone, -⟩ := forM_each (D := fun x m => Settled m x) step n n' ⟨h, .refl n, hp⟩ hr
  refine ⟨kept, fun m l hl hk => hdone m ?_⟩
  have hb := h.coherent.wired.ends hl .input
  rw [Link.port, hk] at hb
  exact (Graph.mem_inputLinks hn).mpr ⟨l.dstPad, hb⟩

theorem mergeNode_ok (h : Ready n) {k : Nat} (hr : (mergeNode k).run n = (.ok (), n')) :
    Ready n' ∧ Advance n n' ∧ ∀ m l, n.session.graph.links[m]? = some l → l.dst = k → n'.Settled m := by
  obtain ⟨⟨hready, ha, -⟩, hdone⟩ := mergeNode_keeps (P := fun _ => True) (fun _ _ _ _ => trivial) h trivial hr
  exact ⟨hready, ha, hdone⟩

/-- Links that lead to nodes already visited are settled, so at the end all are. -/
theorem mergeFrom_ok : ∀ (rounds k : Nat) {n n' : Negotiation}, Ready n →
    (∀ m l, n.session.graph.links[m]? = some l → n.Settled m ∨ k ≤ l.dst) →
    (mergeFrom rounds k).run n = (.ok (), n') →
    Ready n' ∧ Advance n n' ∧ ∀ m l, n'.session.graph.links[m]? = some l → n'.Settled m := by
  intro rounds
  induction rounds with
  | zero =>
    intro k n n' _ _ hr
    cases hr
  | succ rounds ih =>
    intro k n n' h hv hr
    rw [mergeFrom] at hr
    obtain ⟨count, n₁, hcount, hr⟩ := run_bind_ok.mp hr
    cases hcount
    split at hr
    · obtain ⟨_, n₂, hnode, hr⟩ := run_bind_ok.mp hr
      obtain ⟨hready, ha, hdone⟩ := mergeNode_ok h hnode
      have hv' : ∀ m l, n₂.session.graph.links[m]? = some l → n₂.Settled m ∨ k + 1 ≤ l.dst := by
        intro m l hl
        rcases ha.dst hl with hs | ⟨l₀, hl₀, e⟩
        · exact Or.inl hs
        · rcases hv m l₀ hl₀ with hs | hk
          · exact Or.inl (ha.settled hs)
          · rcases Nat.eq_or_lt_of_le hk with hk | hk
            · exact Or.inl (hdone m l₀ hl₀ hk.symm)
            · exact Or.inr (e ▸ hk)
      obtain ⟨hready', ha', hall⟩ := ih (k + 1) hready hv' hr
      exact ⟨hready', ha.trans ha', hall⟩
    · rename_i hlt
      cases hr
      refine ⟨h, .refl n, fun m l hl => (hv m l hl).resolve_right fun hk => ?_⟩
      have hdst : l.dst < n.session.graph.nodes.length := Graph.node_lt_of_bound (h.coherent.wired.ends hl .input)
      exact hlt (Nat.lt_of_le_of_lt hk hdst)

/-- Every node was asked, and every link is settled. -/
structure Merged (n : Negotiation) : Prop extends Ready n where
  settled : ∀ {m l}, n.session.graph.links[m]? = some l → n.Settled m

theorem merge_ok (h : Ready n) (hr : merge.run n = (.ok (), n')) : Merged n' ∧ Advance n n' := by
  obtain ⟨g, _, hg, hr⟩ := run_bind_ok.mp hr
  cases hg
  obtain ⟨hready, ha, hall⟩ := mergeFrom_ok _ 0 h (fun _ _ _ => Or.inr (Nat.zero_le _)) hr
  exact ⟨⟨hready, fun {m l} => hall m l⟩, ha⟩

/-- Where all links are settled, pads of one class are those that hold one set. -/
theorem Merged.class_iff (h : Merged n) {p q : Port} {id : Nat} (hp : n.held? p = some id) :
    SameClass n p q ↔ n.held? q = some id := by
  have joined : ∀ {p q}, Tied n p q → Joined n p q := by
    intro p q hpq
    cases hpq with
    | link d e hl =>
      obtain ⟨i, hl⟩ := List.mem_iff_getElem?.mp hl
      exact .link d e hl (h.settled hl)
    | shared hpq hp hq => exact .shared hpq hp hq
  constructor
  · intro hq
    rw [← hp]
    exact (h.coherent.held?_class (hq.mono fun _ _ => joined)).symm
  · intro hq
    exact (h.coherent.joined hp hq).mono fun _ _ => Joined.tied

/-! ## Without converters -/

/-- Every class has a format that was left for all of its pads. -/
def Satisfiable (n : Negotiation) : Prop :=
  ∀ l ∈ n.session.graph.links, ∀ d, ∃ f, ∀ q, SameClass n (l.port d) q → n.Allows q f

theorem Tied.congr (hg : n'.session.graph = n.session.graph) (hv : n'.surveys = n.surveys) {p q : Port}
    (h : Tied n p q) : Tied n' p q := by
  have handle : ∀ p, n'.leftHandle? p = n.leftHandle? p := fun p => by rw [leftHandle?, survey?, hv]; rfl
  cases h with
  | link d e hl => exact .link d e (by rw [hg]; exact hl)
  | shared hpq hp hq => exact .shared hpq (by rw [handle]; exact hp) (by rw [handle]; exact hq)

/-- Only the graph and the queries on record count. -/
theorem Satisfiable.congr (h : Satisfiable n) (hg : n'.session.graph = n.session.graph) (hv : n'.surveys = n.surveys) :
    Satisfiable n' := by
  intro l hl d
  obtain ⟨f, hf⟩ := h l (by rw [← hg]; exact hl) d
  refine ⟨f, fun q hq => ?_⟩
  have := hf q (hq.mono fun _ _ => Tied.congr hg.symm hv.symm)
  rw [Allows, left?, survey?, hv]
  exact this

/-- The ends of a link hold sets with a format in common. -/
theorem Satisfiable.merge (hs : Satisfiable n) (h : Ready n) {link i j : Nat} {l : Link}
    (hl : n.session.graph.links[link]? = some l) (he : n.arena.link link = ⟨some i, some j⟩) :
    ∃ arena, n.arena.merge i j = some arena := by
  have hmem := List.mem_of_getElem? hl
  obtain ⟨f, hf⟩ := hs l hmem .output
  obtain ⟨hout, hin⟩ := h.coherent.held?_ends hl he
  obtain ⟨s, hslot⟩ := h.coherent.slot?_of_held hout
  obtain ⟨t, hslot'⟩ := h.coherent.slot?_of_held hin
  have classOf : ∀ {p q : Port} {id}, n.held? p = some id → n.held? q = some id → SameClass n p q :=
    fun hp hq => (h.coherent.joined hp hq).mono fun _ _ => Joined.tied
  have hfs : f ∈ s.set := by
    rw [h.coherent.members hout (Arena.get?_of_slot? hslot)]
    exact fun q hq => hf q (classOf hout hq)
  have hft : f ∈ t.set := by
    rw [h.coherent.members hin (Arena.get?_of_slot? hslot')]
    exact fun q hq => hf q (.trans _ _ _ (.rel _ _ (.link .output .input hmem)) (classOf hin hq))
  exact Arena.merge_of_common hslot hslot' hfs hft

theorem mergeLink_total (hs : Satisfiable n) (h : Ready n) {link : Nat} (hlt : link < n.session.graph.links.length) :
    ∃ n', (mergeLink link).run n = (.ok (), n') ∧ n'.session.graph = n.session.graph ∧ n'.surveys = n.surveys := by
  have hl := List.getElem?_eq_getElem hlt
  obtain ⟨i, j, he⟩ := h.ends hl
  obtain ⟨arena, hm⟩ := hs.merge h hl he
  rw [run_mergeLink, he]
  simp only [hm]
  split
  · exact ⟨_, rfl, rfl, rfl⟩
  · exact ⟨_, rfl, rfl, rfl⟩

theorem mergeNode_total (hs : Satisfiable n) (h : Ready n) {k : Nat} (hk : k < n.session.graph.nodes.length) :
    ∃ n', (mergeNode k).run n = (.ok (), n') ∧ n'.session.graph = n.session.graph ∧ n'.surveys = n.surveys := by
  have hn := List.getElem?_eq_getElem hk
  have hlt : ∀ x ∈ (n.session.graph.nodes[k]).inputLinks, x < n.session.graph.links.length := fun x hx => by
    obtain ⟨pad, hx⟩ := (Graph.mem_inputLinks hn).mp hx
    exact h.coherent.wired.bound_lt hx
  have step : ∀ x ∈ (n.session.graph.nodes[k]).inputLinks, ∀ m,
      Ready m ∧ m.session.graph = n.session.graph ∧ m.surveys = n.surveys →
      ∃ m', (mergeLink x).run m = (.ok (), m') ∧
        Ready m' ∧ m'.session.graph = n.session.graph ∧ m'.surveys = n.surveys := by
    rintro x hx m ⟨hm, hg, hv⟩
    have hx : x < m.session.graph.links.length := by rw [hg]; exact hlt x hx
    obtain ⟨m', hr, hg', hv'⟩ := mergeLink_total (hs.congr hg hv) hm hx
    exact ⟨m', hr, (mergeLink_ok hm hx hr).1, hg'.trans hg, hv'.trans hv⟩
  obtain ⟨n', hr, -, hg, hv⟩ := forM_total step n ⟨h, rfl, rfl⟩
  exact ⟨n', run_nodeAt_bind_ok.mpr ⟨_, hn, hr⟩, hg, hv⟩

theorem mergeFrom_total : ∀ (rounds k : Nat) {n : Negotiation}, Satisfiable n → Ready n →
    k ≤ n.session.graph.nodes.length → n.session.graph.nodes.length < k + rounds →
    ∃ n', (mergeFrom rounds k).run n = (.ok (), n') ∧ n'.session.graph = n.session.graph ∧ n'.surveys = n.surveys := by
  intro rounds
  induction rounds with
  | zero =>
    intro k n _ _ hk hlt
    omega
  | succ rounds ih =>
    intro k n hs h hk hlt
    rw [mergeFrom, run_bind]
    show ∃ n', Action.run (if k < n.session.graph.nodes.length then _ else _) n = _ ∧ _
    split
    · rename_i hkn
      obtain ⟨n₁, hr, hg, hv⟩ := mergeNode_total hs h hkn
      obtain ⟨n', hr', hg', hv'⟩ := ih (k + 1) (hs.congr hg hv) (mergeNode_ok h hr).1
        (by rw [hg]; exact hkn) (by rw [hg]; omega)
      exact ⟨n', run_bind_ok.mpr ⟨(), n₁, hr, hr'⟩, hg'.trans hg, hv'.trans hv⟩
    · exact ⟨n, rfl, rfl, rfl⟩

theorem merge_total (hs : Satisfiable n) (h : Ready n) :
    ∃ n', merge.run n = (.ok (), n') ∧ n'.session.graph = n.session.graph ∧ n'.surveys = n.surveys := by
  obtain ⟨n', hr, hg, hv⟩ := mergeFrom_total (n.session.graph.nodes.length + n.session.graph.links.length + 1) 0 hs h
    (Nat.zero_le _) (by omega)
  exact ⟨n', run_bind_ok.mpr ⟨_, _, rfl, hr⟩, hg, hv⟩

end Negotiation

end MediaGraph

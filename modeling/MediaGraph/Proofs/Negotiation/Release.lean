/-
  MediaGraph.Proofs.Negotiation.Release — picking is a map over the links, and keeps nothing.

  Merging makes no empty set, and puts a converter where an end of a link holds one
  and the other end another set. So an empty set is as a query left it, for pads of
  one node (`EmptyAsLeft`), and once every link is settled it can only stand on links
  from a node to itself (`Starved`).

  Picking goes over the links node by node, twice over each (`run_pick`). What it
  does is the same in whatever order it goes (`Chosen`, `pickLinks_total`): each link
  is picked once, with the choice it had at the start (`Taken`), and with the last
  holder of a set the set is gone.

  Proved: `picking_maps_first_choice`.
-/

import MediaGraph.Proofs.Negotiation.Accounting
import MediaGraph.Proofs.Negotiation.Merging
import MediaGraph.Proofs.Negotiation.Picking
import MediaGraph.Proofs.Session.Reach

namespace MediaGraph

open MediaGraph.Action

namespace Negotiation

variable {n n' m m' : Negotiation}

/-! ## Empty sets -/

/-- The pads that hold an empty set are of one node, whose query left it for them. -/
def EmptyAsLeft (n : Negotiation) : Prop :=
  ∀ p q id s, n.held? p = some id → n.held? q = some id → n.arena.get? id = some s → s.formats = [] →
    p.node = q.node ∧ n.leftHandle? p = some id ∧ n.left? p = some s

theorem emptyAsLeft_start (s : Session) : EmptyAsLeft { session := s } := by
  intro p q id t hp
  obtain ⟨l, -, hl⟩ := held?_eq_some.mp hp
  cases hd : p.direction <;> rw [hd] at hl <;> cases hl

theorem EmptyAsLeft.congr (h : EmptyAsLeft n) (hv : n'.surveys = n.surveys) (hh : ∀ p, n'.held? p = n.held? p)
    (hg : ∀ id, n'.arena.get? id = n.arena.get? id) : EmptyAsLeft n' := by
  intro p q id s hp hq hs he
  rw [hh] at hp hq
  rw [hg] at hs
  rw [leftHandle?_congr (survey?_congr hv _), left?_congr (survey?_congr hv _)]
  exact h p q id s hp hq hs he

theorem EmptyAsLeft.aside (h : EmptyAsLeft n) (session : Session) (hg : session.graph = n.session.graph)
    (converters : Converters) : EmptyAsLeft { n with session, converters } := by
  refine h.congr rfl (fun p => ?_) fun _ => rfl
  show (session.graph.bound? p >>= _) = _
  rw [hg]
  rfl

/-- The common set of two has a candidate. -/
theorem EmptyAsLeft.merge (h : EmptyAsLeft n) {i j : Nat} {arena : Arena} (hm : n.arena.merge i j = some arena) :
    EmptyAsLeft { n with arena } := by
  rcases Arena.merge_eq_some hm with ⟨-, rfl, -⟩ | ⟨-, s, t, hs, ht, hne, hslot, -, hb⟩
  · exact h
  intro p q id u hp hq hu he
  obtain ⟨v, hv, rfl⟩ := Arena.get?_eq_some.mp hu
  rw [hslot] at hv
  have hi : id ≠ i := by
    intro e
    rw [if_pos e] at hv
    cases hv
    obtain ⟨f, hf⟩ := hne
    rw [FormatSet.mem_def, he] at hf
    cases hf
  obtain ⟨hp, hj⟩ := (held?_merge_other hb hi p).mp hp
  obtain ⟨hq, -⟩ := (held?_merge_other hb hi q).mp hq
  rw [if_neg hi, if_neg hj] at hv
  exact h p q id v.set hp hq (Arena.get?_of_slot? hv) he

/-- The sets of a node asked for the first time are new, and as the query left them. -/
theorem EmptyAsLeft.ask (he : EmptyAsLeft n) (h : Coherent n) {i : Nat} (ha : Asked n i n') : EmptyAsLeft n' := by
  intro p q id s hp hq hs hempty
  by_cases hpi : p.node = i
  · refine ⟨hpi.trans (ha.node_of_held h hp hq hpi).symm, by rw [ha.handle hpi, hp], ?_⟩
    rw [ha.left hpi, hp]
    exact hs
  · have hp' := (ha.held_of_ne h hp hpi).mp hp
    have hq' := (ha.held_of_ne h hp hpi).mp hq
    rw [ha.get (h.lt_of_held hp')] at hs
    rw [ha.handle_of_ne hpi, ha.left_of_ne hpi]
    exact he p q id s hp' hq' hs hempty

theorem queryNode_emptyAsLeft (h : Coherent n) (he : EmptyAsLeft n) {i : Nat} (hi : n.survey? i = none)
    (hr : (queryNode i).run n = (.ok (), n')) : EmptyAsLeft n' := by
  obtain ⟨node, ds, hn, rfl⟩ := run_queryNode_ok hr
  have h' := h.aside _ (Session.graph_asked node n.session) n.converters
  have hn' := Session.node_asked hn
  exact (he.aside _ (Session.graph_asked node n.session) n.converters).ask h' (h'.asked_query hn' hi ds)

theorem query_emptyAsLeft {s : Session} (h : s.graph.Wired) (hr : query.run { session := s } = (.ok (), n)) :
    EmptyAsLeft n := by
  have keep : ∀ {i m m'}, Coherent m ∧ EmptyAsLeft m → m.survey? i = none →
      (queryNode i).run m = (.ok (), m') → Coherent m' ∧ EmptyAsLeft m' := by
    intro i m m' hm hi hr
    exact ⟨(queryNode_ok hm.1 hi hr).1, queryNode_emptyAsLeft hm.1 hm.2 hi hr⟩
  exact (queryIn_ok keep ⟨coherent_start h, emptyAsLeft_start _⟩ List.nodup_range hr).1.2

/-! ## Through the merge phase -/

theorem EmptyAsLeft.beside (h : EmptyAsLeft n) {src dst : Node} {link : Nat}
    (hr : (mergeBeside src dst link).run n = (.ok (), n')) : EmptyAsLeft n' := by
  rw [run_mergeBeside] at hr
  split at hr
  · split at hr
    · rename_i hm
      cases hr
      exact h.merge hm
    · cases hr
  · cases hr
    exact h

theorem EmptyAsLeft.extend (he : EmptyAsLeft n) (h : Ready n) {link i j down : Nat}
    (hl : n.arena.link link = ⟨some i, some j⟩) {session : Session} {node : Node} {graph : Graph}
    (converters : Converters) (hn : node.Unbound) (hg : session.graph = n.session.graph.addNode node)
    (hi : session.graph.insert link n.session.graph.nodes.length 0 0 = .ok (down, graph)) :
    EmptyAsLeft { n with
      session := { session with graph }
      converters
      arena := n.arena.moveAccepted link down } := by
  obtain ⟨rfl, l, hs⟩ := Graph.insert_ok hi
  have ha : Accounted { n with session, converters } := h.coherent.toAccounted.create hn hg converters
  have hcreated : EmptyAsLeft { n with session, converters } := by
    refine he.congr rfl (fun p => ?_) fun _ => rfl
    show (session.graph.bound? p >>= _) = _
    rw [hg, Graph.bound?_addNode hn]
    rfl
  exact hcreated.congr rfl (held?_spliced ha hs hl) fun id => congrArg (Option.map _) ((arena_spliced ha hs hl).1 id)

theorem insertConverter_emptyAsLeft (h : Ready n) (he : EmptyAsLeft n) {link i j : Nat}
    (hl : n.arena.link link = ⟨some i, some j⟩) (hij : i ≠ j) (hr : (insertConverter link).run n = (.ok (), n')) :
    EmptyAsLeft n' := by
  obtain ⟨_, _, converters, _, node, session, graph, down, src, dst, n₁, n₂, -, -, hnode, hi, hquery, hup, hdown⟩ :=
    run_insertConverter_ok hr
  obtain ⟨rfl, hext⟩ := h.extend hl hij converters hnode.unbound hnode.graph hi
  have spliced := he.extend h hl converters hnode.unbound hnode.graph hi
  have asked := queryNode_emptyAsLeft hext.coherent spliced hext.new hquery
  exact (asked.beside hup).beside hdown

theorem mergeLink_emptyAsLeft (h : Ready n) (he : EmptyAsLeft n) {link : Nat}
    (hlt : link < n.session.graph.links.length) (hr : (mergeLink link).run n = (.ok (), n')) : EmptyAsLeft n' := by
  obtain ⟨i, j, hl⟩ := h.ends (List.getElem?_eq_getElem hlt)
  rw [run_mergeLink, hl] at hr
  simp only at hr
  by_cases hij : i = j
  · rw [if_pos hij] at hr
    cases hr
    exact he
  · rw [if_neg hij] at hr
    cases hm : n.arena.merge i j with
    | none =>
      rw [hm] at hr
      exact insertConverter_emptyAsLeft h he hl hij hr
    | some arena =>
      rw [hm] at hr
      cases hr
      exact (he.merge hm).aside (n.session.tell _) rfl n.converters

section Merge

variable {P : Negotiation → Prop}
  (hP : ∀ {n n' : Negotiation} {link : Nat}, Ready n → P n → link < n.session.graph.links.length →
    (mergeLink link).run n = (.ok (), n') → P n')
include hP

theorem mergeFrom_keeps (rounds k : Nat) (h : Ready n) (hp : P n) (hr : (mergeFrom rounds k).run n = (.ok (), n')) :
    P n' := by
  induction rounds generalizing k n with
  | zero => cases hr
  | succ rounds ih =>
    rw [mergeFrom] at hr
    obtain ⟨count, n₁, hcount, hr⟩ := run_bind_ok.mp hr
    cases hcount
    split at hr
    · obtain ⟨_, n₂, hnode, hr⟩ := run_bind_ok.mp hr
      obtain ⟨⟨hready, -, hp'⟩, -⟩ := mergeNode_keeps hP h hp hnode
      exact ih (k + 1) hready hp' hr
    · cases hr
      exact hp

/-- What merging one link keeps, where everything was asked, the merge phase keeps. -/
theorem merge_keeps (h : Ready n) (hp : P n) (hr : merge.run n = (.ok (), n')) : P n' := by
  obtain ⟨g, _, hg, hr⟩ := run_bind_ok.mp hr
  cases hg
  exact mergeFrom_keeps hP _ 0 h hp hr

end Merge

theorem merge_emptyAsLeft (h : Ready n) (he : EmptyAsLeft n) (hr : merge.run n = (.ok (), n')) : EmptyAsLeft n' :=
  merge_keeps (fun h he hlt hr => mergeLink_emptyAsLeft h he hlt hr) h he hr

/-! ## Picking in any order -/

/-- The graph with each link in the format it has a choice of now. -/
def chosen (n : Negotiation) : Graph :=
  { n.session.graph with
    links := n.session.graph.links.mapIdx fun i l => { l with props := { l.props with format := n.choice? i } } }

/-- `m` comes from `n` by picking some links, each once, with the choice it had at the start. -/
structure Taken (n m : Negotiation) (picks : List (Nat × Format)) : Prop where
  picking : Picking n m
  session : m.session = { n.session with graph := m.session.graph, events := m.session.events }
  events : m.session.events = picks.map (fun p => ⟨n.session.spans, .picked p.1 p.2⟩) ++ n.session.events
  once : (picks.map Prod.fst).Nodup
  iff : ∀ i f, (i, f) ∈ picks ↔ n.choice? i = some f ∧ m.arena.link i = {}

theorem choice?_of_bare {link : Nat} (h : n.arena.link link = {}) : n.choice? link = none := by
  rw [choice?, Arena.linkSet?, h]
  rfl

theorem taken_start (hc : n.arena.Counted []) (hl : n.arena.Live []) : Taken n n [] := by
  refine ⟨picking_refl hc hl, rfl, rfl, List.nodup_nil, fun i f => ⟨nofun, fun hi => ?_⟩⟩
  rw [choice?_of_bare hi.2] at hi
  cases hi.1

/-- A link is picked the first time it is met, and left alone after that. -/
theorem Taken.pickLink {picks : List (Nat × Format)} (h : Taken n m picks) {link : Nat}
    (hr : (pickLink link).run m = (.ok (), m')) : ∃ picks', Taken n m' picks' ∧ m'.arena.link link = {} ∧
      ∀ i, m.arena.link i = {} → m'.arena.link i = {} := by
  have hp := pickLink_ok h.picking hr
  rcases run_pickLink_ok hr with ⟨-, rfl⟩ | ⟨id, s, format, hc, hs, hfirst, rfl⟩
  · exact ⟨picks, h, hp.released, fun _ hi => hi⟩
  have held : m.arena.link link ≠ {} := by
    intro e
    rw [e] at hc
    cases hc
  have hchoice := h.picking.choice hc hs hfirst
  have spans : m.session.spans = n.session.spans := by rw [h.session]
  refine ⟨(link, format) :: picks, ⟨hp.picking, ?session, ?events, ?once, ?iff⟩, hp.released, fun _ => hp.others⟩
  case session =>
    rw [h.session]
    rfl
  case events =>
    show (⟨m.session.spans, .picked link format⟩ :: m.session.events : List Event) = _
    rw [spans, h.events]
    rfl
  case once =>
    rw [List.map_cons, List.nodup_cons]
    refine ⟨fun hmem => ?_, h.once⟩
    obtain ⟨⟨i, f⟩, hpick, rfl⟩ := List.mem_map.mp hmem
    exact held ((h.iff i f).mp hpick).2
  case iff =>
    intro i f
    rw [List.mem_cons, h.iff, Prod.mk.injEq]
    constructor
    · intro hi
      rcases hi with ⟨rfl, rfl⟩ | ⟨hf, hi⟩
      · exact ⟨hchoice, hp.released⟩
      · exact ⟨hf, hp.others hi⟩
    · intro hi
      obtain ⟨hf, hi⟩ := hi
      by_cases e : i = link
      · subst e
        exact .inl ⟨rfl, Option.some.inj (hf.symm.trans hchoice)⟩
      · refine .inr ⟨hf, ?_⟩
        have hlink : Arena.link _ i = {} := hi
        rw [Arena.link_release, if_neg (Ne.symm e), Arena.link_pin] at hlink
        exact hlink

/-- Picking met every link: each has its choice and was picked once, nothing is held and nothing is live. -/
structure Chosen (n m : Negotiation) : Prop where
  rest : m = { n with
    session := { n.session with graph := n.chosen, events := m.session.events }
    arena := m.arena }
  events : ∃ picks : List (Nat × Format), (picks.map Prod.fst).Perm (List.range n.session.graph.links.length) ∧
    (∀ p ∈ picks, n.choice? p.1 = some p.2) ∧
    m.session.events = picks.map (fun p => ⟨n.session.spans, .picked p.1 p.2⟩) ++ n.session.events
  released : ∀ i, m.arena.link i = {}
  dropped : ∀ id, m.arena.slot? id = none

/-- Each link has a choice, and each set has a candidate. -/
structure Pickable (n : Negotiation) : Prop extends Accounted n where
  choice : ∀ i < n.session.graph.links.length, ∃ f, n.choice? i = some f
  candidate : ∀ {id s}, n.arena.get? id = some s → s.first?.isSome

theorem Picking.graph_eq (h : Picking n m) (hf : ∀ i l, m.session.graph.links[i]? = some l → l.props.format = n.choice? i) :
    m.session.graph = n.chosen := by
  have hlinks : ∀ i : Nat, m.session.graph.links[i]? = n.chosen.links[i]? := by
    intro i
    have hl := congrArg (fun g : Graph => g.links[i]?) h.graph
    simp only [Graph.unformatted, List.getElem?_map] at hl
    simp only [chosen, List.getElem?_mapIdx]
    have hfi := hf i
    cases hm : m.session.graph.links[i]? with
    | none =>
      rw [hm] at hl
      rw [Option.map_eq_none_iff.mp hl.symm]
      rfl
    | some l =>
      rw [hm] at hl hfi
      obtain ⟨k, hk, hkl⟩ := Option.map_eq_some_iff.mp hl.symm
      have hformat := hfi l rfl
      rw [hk, Option.map_some, ← hformat]
      -- Both links agree on all but the format, which is the choice.
      obtain ⟨_, _, _, _, ⟨_, _, _, _, _, _⟩, _⟩ := l
      obtain ⟨_, _, _, _, ⟨_, _, _, _, _, _⟩, _⟩ := k
      simp only [Link.unformatted, Link.mk.injEq, LinkProps.mk.injEq] at hkl
      simp [hkl]
  calc m.session.graph = ⟨m.session.graph.nodes, m.session.graph.links⟩ := rfl
    _ = ⟨n.session.graph.nodes, n.chosen.links⟩ := by rw [h.nodes, List.ext_getElem? hlinks]
    _ = n.chosen := rfl

theorem Taken.chosen {picks : List (Nat × Format)} (h : Taken n m picks) (hn : Pickable n)
    (hm : ∀ i < n.session.graph.links.length, m.arena.link i = {}) : Chosen n m := by
  have bare : ∀ i, n.session.graph.links.length ≤ i → n.arena.link i = {} := fun _ => hn.bare_link
  have released : ∀ i, m.arena.link i = {} := by
    intro i
    by_cases hi : i < n.session.graph.links.length
    · exact hm i hi
    · rcases h.picking.link i with e | ⟨e, -⟩
      · rw [e, bare i (Nat.le_of_not_lt hi)]
      · exact e
  have hgraph : m.session.graph = n.chosen := by
    refine h.picking.graph_eq fun i l hl => ?_
    have hlt : i < n.session.graph.links.length := by
      have hlen := congrArg (fun g : Graph => g.links.length) h.picking.graph
      simp only [Graph.unformatted, List.length_map] at hlen
      rw [← hlen]
      exact (List.getElem?_eq_some_iff.mp hl).1
    obtain ⟨f, hf⟩ := hn.choice i hlt
    have held : n.arena.link i ≠ {} := fun e => by rw [choice?_of_bare e] at hf; cases hf
    obtain ⟨g, hg, hformat⟩ := h.picking.format hl (released i) held
    rw [hformat, hg]
  refine ⟨?rest, ⟨picks, ?perm, fun p hp => ((h.iff p.1 p.2).mp hp).1, h.events⟩, released, fun id => ?dropped⟩
  case rest =>
    have hsession : m.session = { n.session with graph := n.chosen, events := m.session.events } := by
      rw [← hgraph]
      exact h.session
    calc m = ⟨m.session, m.arena, m.converters, m.surveys⟩ := rfl
      _ = ⟨_, m.arena, n.converters, n.surveys⟩ := by rw [h.picking.converters, h.picking.surveys, hsession]
  case perm =>
    rw [List.perm_ext_iff_of_nodup h.once List.nodup_range]
    intro i
    rw [List.mem_range]
    constructor
    · intro hi
      obtain ⟨⟨i, f⟩, hp, rfl⟩ := List.mem_map.mp hi
      refine Nat.lt_of_not_le fun hle => ?_
      have hf := ((h.iff i f).mp hp).1
      rw [choice?_of_bare (bare i hle)] at hf
      cases hf
    · intro hi
      obtain ⟨f, hf⟩ := hn.choice i hi
      exact List.mem_map.mpr ⟨(i, f), (h.iff i f).mpr ⟨hf, released i⟩, rfl⟩
  case dropped =>
    cases hs : m.arena.slot? id with
    | none => rfl
    | some s =>
      obtain ⟨i, side, hi⟩ := h.picking.counted.held hs
      rw [released] at hi
      cases side <;> cases hi

/-- Whatever the order in which the links are met. -/
theorem pickLinks_total (hn : Pickable n) {order : List Nat}
    (ho : ∀ i < n.session.graph.links.length, i ∈ order) :
    ∃ m, (order.forM Negotiation.pickLink).run n = (.ok (), m) ∧ Chosen n m := by
  have total : ∀ i ∈ order, ∀ x, (∃ picks, Taken n x picks) →
      ∃ x', (Negotiation.pickLink i).run x = (.ok (), x') ∧ ∃ picks, Taken n x' picks := by
    rintro i - x ⟨picks, hx⟩
    obtain ⟨x', hr⟩ := pickLink_total hx.picking hn.candidate i
    obtain ⟨picks', hx', -⟩ := hx.pickLink hr
    exact ⟨x', hr, picks', hx'⟩
  have step : ∀ i ∈ order, ∀ x x', (∃ picks, Taken n x picks) → (Negotiation.pickLink i).run x = (.ok (), x') →
      (∃ picks, Taken n x' picks) ∧ x'.Released i ∧ ∀ j, x.Released j → x'.Released j := by
    rintro i - x x' ⟨picks, hx⟩ hr
    obtain ⟨picks', hx', hi, hothers⟩ := hx.pickLink hr
    exact ⟨⟨picks', hx'⟩, hi, hothers⟩
  have start : ∃ picks, Taken n n picks := ⟨[], taken_start hn.counted hn.live⟩
  obtain ⟨m, hr, -⟩ := forM_total total n start
  obtain ⟨⟨picks, hm⟩, hdone, -⟩ := forM_each (D := fun i x => Released x i) step n m start hr
  exact ⟨m, hr, hm.chosen hn fun i hi => hdone i (ho i hi)⟩

/-! ## Node by node -/

/-- The links in the order picking meets them: node by node, those that end there before those that begin there. -/
def visits (g : Graph) : List Nat := g.nodes.flatMap fun node => node.inputLinks ++ node.outputLinks

theorem keeps_nodes_pickLink (nodes : List Node) (link : Nat) :
    Keeps (fun m => m.session.graph.nodes = nodes) (Negotiation.pickLink link) := by
  intro m h
  rw [run_pickLink]
  split
  · exact h
  · split
    · exact h
    · exact keeps_bind (P := fun m => m.session.graph.nodes = nodes) (keeps_linkAt _) (fun _ =>
        keeps_bind (keeps_nodeAt _) fun _ => keeps_bind (keeps_nodeAt _) fun _ => keeps_fail _) m h

theorem run_pick (n : Negotiation) : pick.run n = ((visits n.session.graph).forM Negotiation.pickLink).run n := by
  have onward : ∀ (rest done : List Node) (m : Negotiation), m.session.graph.nodes = done ++ rest →
      ((List.range' done.length rest.length).forM pickNode).run m =
        ((rest.flatMap fun node => node.inputLinks ++ node.outputLinks).forM Negotiation.pickLink).run m := by
    intro rest
    induction rest with
    | nil => exact fun _ _ _ => rfl
    | cons node rest ih =>
      intro done m hm
      have hnode : m.session.graph.nodes[done.length]? = some node := by simp [hm]
      have hrun : (pickNode done.length).run m =
          ((node.inputLinks ++ node.outputLinks).forM Negotiation.pickLink).run m :=
        run_bind_of_run (run_nodeAt hnode)
      have hkeep := keeps_forM (keeps_nodes_pickLink (done ++ node :: rest))
        (node.inputLinks ++ node.outputLinks) m hm
      let visited := node.inputLinks ++ node.outputLinks
      let others := rest.flatMap fun node => node.inputLinks ++ node.outputLinks
      have happend : (visited ++ others).forM Negotiation.pickLink =
          visited.forM Negotiation.pickLink >>= fun _ => others.forM Negotiation.pickLink := List.forM_append
      rw [List.flatMap_cons, happend, run_bind, ← hrun]
      rw [← hrun] at hkeep
      revert hkeep
      show _ → (pickNode done.length >>= fun _ => (List.range' (done.length + 1) rest.length).forM pickNode).run m = _
      rw [run_bind]
      rcases (pickNode done.length).run m with ⟨_ | _, m'⟩ <;> intro hkeep
      · rfl
      · have hm' : m'.session.graph.nodes = (done ++ [node]) ++ rest := by
          rw [List.append_assoc]
          exact hkeep
        have hnext := ih (done ++ [node]) m' hm'
        rw [List.length_append] at hnext
        exact hnext
  have hlen : pick.run n = ((List.range n.session.graph.nodes.length).forM pickNode).run n := rfl
  rw [hlen, List.range_eq_range']
  exact onward n.session.graph.nodes [] n rfl

theorem mem_visits {g : Graph} (h : g.Wired) {i : Nat} {l : Link} (hl : g.links[i]? = some l) :
    (∃ node, g.nodes[l.src]? = some node ∧ i ∈ node.outputLinks) ∧
      ∃ node, g.nodes[l.dst]? = some node ∧ i ∈ node.inputLinks := by
  obtain ⟨src, hsrc⟩ := h.exists_node hl .output
  obtain ⟨dst, hdst⟩ := h.exists_node hl .input
  exact ⟨⟨src, hsrc, (Graph.mem_outputLinks hsrc).mpr ⟨l.srcPad, h.ends hl .output⟩⟩,
    dst, hdst, (Graph.mem_inputLinks hdst).mpr ⟨l.dstPad, h.ends hl .input⟩⟩

theorem pick_total_chosen (hn : Pickable n) : ∃ m, pick.run n = (.ok (), m) ∧ Chosen n m := by
  rw [run_pick]
  refine pickLinks_total hn fun i hi => ?_
  obtain ⟨-, node, hnode, hmem⟩ := mem_visits hn.wired (List.getElem?_eq_getElem hi)
  exact List.mem_flatMap.mpr ⟨node, List.mem_of_getElem? hnode, List.mem_append_left _ hmem⟩

/-! ## After merging -/

/-- A link from a node to itself, whose query left both its ends one set, an empty one. -/
def Starved (n : Negotiation) (l : Link) : Prop :=
  l.src = l.dst ∧ ∃ id s, n.leftHandle? (l.port .output) = some id ∧ n.leftHandle? (l.port .input) = some id ∧
    n.left? (l.port .output) = some s ∧ s.formats = []

theorem Starved.of_reduced (hr : Reduced n n') {l : Link} : n'.Starved l ↔ n.Starved l := by
  simp only [Starved, leftHandle?_congr (survey?_congr hr.surveys _), left?_congr (survey?_congr hr.surveys _)]

/-- A set that is empty where all links are settled stands on links that got it from one query. -/
theorem Merged.starved (h : Merged n) (he : EmptyAsLeft n) {id : Nat} {s : FormatSet} (hs : n.arena.get? id = some s)
    (hempty : s.formats = []) : ∃ l ∈ n.session.graph.links, n.Starved l := by
  obtain ⟨t, ht, rfl⟩ := Arena.get?_eq_some.mp hs
  obtain ⟨i, side, hi⟩ := h.coherent.counted.held ht
  have hl := List.getElem?_eq_getElem (h.coherent.known hi)
  obtain ⟨id', hid⟩ := h.settled hl
  obtain rfl : id' = id := by
    rw [hid] at hi
    cases side <;> exact Option.some.inj hi
  obtain ⟨hout, hin⟩ := h.coherent.held?_ends hl hid
  obtain ⟨hnode, hhandle, hleft⟩ := he _ _ _ _ hout hin hs hempty
  obtain ⟨-, hhandle', -⟩ := he _ _ _ _ hin hout hs hempty
  exact ⟨_, List.mem_of_getElem? hl, hnode, id', t.set, hhandle, hhandle', hleft, hempty⟩

/-- A starved link holds an empty set. -/
theorem Merged.empty_of_starved (h : Merged n) {i : Nat} {l : Link} (hl : n.session.graph.links[i]? = some l)
    (hs : n.Starved l) : ∃ id s, n.arena.link i = ⟨some id, some id⟩ ∧ n.arena.get? id = some s ∧ s.formats = [] := by
  obtain ⟨-, id, s, -, -, hleft, hempty⟩ := hs
  obtain ⟨held, hheld⟩ := h.settled hl
  obtain ⟨hout, -⟩ := h.coherent.held?_ends hl hheld
  obtain ⟨t, ht⟩ := h.coherent.get?_of_held hout
  refine ⟨held, t, hheld, ht, List.eq_nil_iff_forall_not_mem.mpr fun f hf => ?_⟩
  obtain ⟨u, hu, hfu⟩ := (h.coherent.members hout ht f).mp hf _ hout
  rw [hleft] at hu
  cases hu
  rw [FormatSet.mem_def, hempty] at hfu
  cases hfu

theorem reduced_calls (k : Nat) (n : Negotiation) : Reduced n ((List.replicate k Call.reduce).foldl exec n) := by
  induction k generalizing n with
  | zero => exact .refl n
  | succ k ih => exact (reduced_reduce n).trans (ih _)

/-- Where no link is starved there is a choice for every link. -/
theorem Merged.pickable (h : Merged n) (he : EmptyAsLeft n) (hr : Reduced n n')
    (hn : ∀ l ∈ n.session.graph.links, ¬ n.Starved l) : Pickable n' := by
  have candidate : ∀ {id s}, n'.arena.get? id = some s → s.first?.isSome := by
    intro id s hs
    obtain ⟨t, ht, rfl⟩ := Arena.get?_eq_some.mp hs
    obtain ⟨u, hu, hp⟩ := hr.slot_of ht
    obtain ⟨f, hf⟩ : ∃ f, f ∈ t.set := by
      refine hp.nonempty.mpr (FormatSet.isEmpty_eq_false_iff.mp ?_)
      by_contra hempty
      obtain ⟨l, hl, hs⟩ := h.starved he (Arena.get?_of_slot? hu) (by simpa [FormatSet.isEmpty] using hempty)
      exact hn l hl hs
    exact List.isSome_head?.mpr (List.ne_nil_of_mem hf)
  refine ⟨Step.accounted (.reduce hr) h.coherent.toAccounted, fun i hi => ?_, candidate⟩
  rw [hr.graph] at hi
  obtain ⟨id, hid⟩ := h.settled (List.getElem?_eq_getElem hi)
  rw [← hr.link] at hid
  have hacc : Accounted n' := Step.accounted (.reduce hr) h.coherent.toAccounted
  obtain ⟨t, ht⟩ := Option.isSome_iff_exists.mp
    (hacc.live.held (show (n'.arena.link i).get .offered = some id by rw [hid]; rfl))
  have hs := Arena.get?_of_slot? ht
  obtain ⟨f, hf⟩ := Option.isSome_iff_exists.mp (candidate hs)
  exact ⟨f, choice?_eq_some.mpr ⟨id, by rw [hid]; rfl, _, hs, hf⟩⟩

/-- A starved link has no format to be given. -/
theorem Merged.pick_fails (h : Merged n) (hr : Reduced n n') {l : Link} (hl : l ∈ n.session.graph.links)
    (hs : n.Starved l) : ∃ e m, pick.run n' = (.error e, m) := by
  obtain ⟨i, hi⟩ := List.getElem?_of_mem hl
  obtain ⟨id, s, hid, hget, hempty⟩ := h.empty_of_starved hi hs
  have hacc : Accounted n' := Step.accounted (.reduce hr) h.coherent.toAccounted
  rcases hrun : pick.run n' with ⟨e | ⟨⟩, m⟩
  · exact ⟨e, m, rfl⟩
  · obtain ⟨hp, hall⟩ := pick_ok hacc.wired hacc.counted hacc.live hrun
    have hlt : i < n'.session.graph.links.length := by
      rw [hr.graph]
      exact (List.getElem?_eq_some_iff.mp hi).1
    have hm : i < m.session.graph.links.length := by
      have hlen := congrArg (fun g : Graph => g.links.length) hp.graph
      simp only [Graph.unformatted, List.length_map] at hlen
      rw [hlen]
      exact hlt
    have hid' : n'.arena.link i = ⟨some id, some id⟩ := by rw [hr.link, hid]
    obtain ⟨f, hf, -⟩ := hp.format (List.getElem?_eq_getElem hm) (hall i hlt) fun e => by rw [hid'] at e; cases e
    obtain ⟨id', hcur, t, ht, hfirst⟩ := choice?_eq_some.mp hf
    rw [hid'] at hcur
    cases hcur
    obtain ⟨u, hu, rfl⟩ := Arena.get?_eq_some.mp ht
    obtain ⟨v, hv, hpin⟩ := hr.slot_of hu
    rw [Arena.get?_of_slot? hv, Option.some.injEq] at hget
    have hmem : f ∈ v.set := hpin.subset (FormatSet.first?_mem hfirst)
    rw [FormatSet.mem_def, hget, hempty] at hmem
    cases hmem

/-- Picking after the queries, merging and any number of reductions fails exactly where a link from a node to itself was
left one empty set at both ends. Elsewhere it gives each link the first candidate of the set it held when picking began,
picks each once, though it meets each at either end, and leaves nothing held and nothing live; so it would in any order. -/
theorem picking_maps_first_choice {s : Session} (h : s.Reachable) {n₁ n₂ : Negotiation}
    (hq : query.run { session := s } = (.ok (), n₁)) (hm : merge.run n₁ = (.ok (), n₂)) (k : Nat) :
    let n := (List.replicate k Call.reduce).foldl exec n₂
    ((∃ e m, pick.run n = (.error e, m)) ↔ ∃ l ∈ n.session.graph.links, n.Starved l) ∧
    ((¬ ∃ l ∈ n.session.graph.links, n.Starved l) →
      (∃ m, pick.run n = (.ok (), m) ∧ Chosen n m) ∧
      (∀ order : List Nat, (∀ i < n.session.graph.links.length, i ∈ order) →
        ∃ m, (order.forM Negotiation.pickLink).run n = (.ok (), m) ∧ Chosen n m) ∧
      ∀ i l, n.session.graph.links[i]? = some l →
        (∃ id t f, n.arena.link i = ⟨some id, some id⟩ ∧ n.arena.get? id = some t ∧ t.formats.head? = some f ∧
          n.chosen.links[i]? = some { l with props := { l.props with format := some f } }) ∧
        (∃ node, n.session.graph.nodes[l.src]? = some node ∧ i ∈ node.outputLinks) ∧
        ∃ node, n.session.graph.nodes[l.dst]? = some node ∧ i ∈ node.inputLinks) := by
  intro n
  obtain ⟨ready, -⟩ := query_ok h.wired hq
  obtain ⟨merged, -⟩ := merge_ok ready hm
  have empty : EmptyAsLeft n₂ := merge_emptyAsLeft ready (query_emptyAsLeft h.wired hq) hm
  have reduced : Reduced n₂ n := reduced_calls k n₂
  have starved : (∃ l ∈ n.session.graph.links, n.Starved l) ↔ ∃ l ∈ n₂.session.graph.links, n₂.Starved l := by
    simp only [reduced.graph, Starved.of_reduced reduced]
  have pickable : (¬ ∃ l ∈ n.session.graph.links, n.Starved l) → Pickable n := by
    intro hn
    rw [starved] at hn
    exact merged.pickable empty reduced fun l hl hs => hn ⟨l, hl, hs⟩
  refine ⟨⟨fun hfail => ?_, fun hs => ?_⟩, fun hn => ⟨pick_total_chosen (pickable hn), fun order ho =>
    pickLinks_total (pickable hn) ho, fun i l hl => ⟨?_, mem_visits (pickable hn).wired hl⟩⟩⟩
  · by_contra hn
    obtain ⟨e, m, hfail⟩ := hfail
    obtain ⟨m', hok, -⟩ := pick_total_chosen (pickable hn)
    rw [hok] at hfail
    cases hfail
  · obtain ⟨l, hl, hs⟩ := starved.mp hs
    exact merged.pick_fails reduced hl hs
  · have hl₂ : n₂.session.graph.links[i]? = some l := by
      rw [← reduced.graph]
      exact hl
    obtain ⟨id, hid⟩ := merged.settled hl₂
    rw [← reduced.link] at hid
    obtain ⟨f, hf⟩ := (pickable hn).choice i (List.getElem?_eq_some_iff.mp hl).1
    obtain ⟨id', hcur, t, ht, hfirst⟩ := choice?_eq_some.mp hf
    rw [hid] at hcur
    cases hcur
    refine ⟨id, t, f, hid, ht, hfirst, ?_⟩
    simp only [chosen, List.getElem?_mapIdx, hl, Option.map_some, hf]

end Negotiation

/-! ## A link from a node to itself -/

namespace Studio

/-- A filter for media without formats, which says nothing about them. -/
def tap : FilterType where
  name := "tap"
  inputs := [⟨.input, "default", .other⟩]
  outputs := [⟨.output, "default", .other⟩]
  fresh := .builtin .null

def eddy : Session := after [.openNode tap none, .addNode 0, .link 0 0 0 0]

theorem eddy_reachable : eddy.Reachable := after_reachable _

end Studio

/-- What is left in common for both ends of the one link is empty, so there is nothing to pick; where the camera's formats
were brought to the screen by a scaler, each of the three links gets the first candidate it had. -/
theorem Negotiation.eddy_unpicked :
    (∃ n₁ n₂, query.run { session := Studio.eddy } = (.ok (), n₁) ∧ merge.run n₁ = (.ok (), n₂) ∧
      ∃ e m, pick.run ([Call.reduce].foldl exec n₂) = (.error e, m)) ∧
    ∃ n₁ n₂, query.run { session := Studio.mismatched } = (.ok (), n₁) ∧ merge.run n₁ = (.ok (), n₂) ∧
      n₂.session.graph.links.length = 3 ∧
        ∃ m, pick.run ([Call.reduce].foldl exec n₂) = (.ok (), m) ∧ Chosen ([Call.reduce].foldl exec n₂) m := by
  constructor
  · have hq : (query.run { session := Studio.eddy }).1 = .ok () := by decide +kernel
    have hm : (merge.run (query.run { session := Studio.eddy }).2).1 = .ok () := by decide +kernel
    refine ⟨_, _, run_eq_of_ok hq, run_eq_of_ok hm, ?_⟩
    refine (picking_maps_first_choice Studio.eddy_reachable (run_eq_of_ok hq) (run_eq_of_ok hm) 1).1.mpr ?_
    refine ⟨⟨0, 0, 0, 0, { kind := .other }, .unconfigured⟩, ?_, rfl, 0, .empty .other, ?_, ?_, ?_, rfl⟩
    all_goals decide +kernel
  · have hq : (query.run { session := Studio.mismatched }).1 = .ok () := by decide +kernel
    have hm : (merge.run (query.run { session := Studio.mismatched }).2).1 = .ok () := by decide +kernel
    refine ⟨_, _, run_eq_of_ok hq, run_eq_of_ok hm, by decide +kernel, ?_⟩
    refine ((picking_maps_first_choice Studio.mismatched_reachable (run_eq_of_ok hq) (run_eq_of_ok hm) 1).2 ?_).1
    intro hs
    obtain ⟨l, hl, hloop, -⟩ := hs
    have hno : ∀ l ∈ ([Call.reduce].foldl exec
        (merge.run (query.run { session := Studio.mismatched }).2).2).session.graph.links, l.src ≠ l.dst := by
      decide +kernel
    exact hno l hl hloop

end MediaGraph

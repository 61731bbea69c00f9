/-
  MediaGraph.Proofs.Negotiation.Interruption — what a negotiation leaves that failed while asking or merging.

  The queries come first and leave the graph alone (`query_error`). After them only
  inserting a converter can fail, and the converters before it were spliced in well
  (`merge_error`). It fails before there is a node for the converter, when it can not
  be spliced in, or next to it once it is spliced in (`Converting.insert_error`).

  Proved: whichever it was, links keep what they carried and where they come from,
  nodes keep all but bindings, and every node appended but the last one perhaps sits
  in a link of its own (`Graph.Interrupted`, `negotiation_interrupted`). Where no
  converter could be made, there is no node for the link that asked for one.
-/

import MediaGraph.Proofs.Negotiation.Insertion

namespace MediaGraph

open MediaGraph.Action

/-- No converter could be made: there is none for the kind, its type is not registered, or the instance refused to be
initialized and was discarded, the last calls of all. -/
def Error.Unmade (e : Error) (calls : History) : Prop :=
  e = .noConverter ∨ e = .noResampler ∨ (∃ type, e = .unknownType type) ∨
    ∃ serial args context r rest, e = .reported r ∧
      calls = ⟨serial, .uninit⟩ :: ⟨serial, .init args context (.refused r)⟩ :: rest

theorem Error.OfBinding.not_unmade {e : Error} (h : e.OfBinding) (calls : History) : ¬ e.Unmade calls := by
  intro he
  rcases he with rfl | rfl | ⟨_, rfl⟩ | ⟨_, _, _, _, _, rfl, -⟩ <;> exact h

/-- What a filter says when it is asked is not what it says when it is initialized. -/
theorem Error.not_unmade_of_query {e : Error} {r : Report} (he : e = .reported r) {serial : Nat} {layout : Layout}
    {ds : List Declaration} {answer : Answer} {calls : History} :
    ¬ e.Unmade (⟨serial, .query layout ds answer⟩ :: calls) := by
  intro h
  subst he
  rcases h with h | h | ⟨_, h⟩ | ⟨_, _, _, _, _, -, h⟩ <;> simp at h

theorem Error.not_unmade_inconvertible (src dst : String) (calls : History) :
    ¬ (Error.inconvertible src dst).Unmade calls := by
  simp [Unmade]

namespace Graph

/-- What a negotiation can leave of `g` when it fails on the way: converters in the links of `origins`, and perhaps one
more node. -/
structure Interrupted (g : Graph) (origins : List Nat) (g' : Graph) : Prop where
  /-- Links keep what they carry, their state and the pad they come from. -/
  old : ∀ {m : Nat} {l : Link}, g.links[m]? = some l → ∃ l' : Link, g'.links[m]? = some l' ∧ l'.props = l.props ∧
    l'.state = l.state ∧ l'.port .output = l.port .output
  /-- No link made on the way has a format. -/
  new : ∀ {m : Nat} {l' : Link}, g.links.length ≤ m → g'.links[m]? = some l' → l'.props.format = none
  /-- Bindings apart, the nodes there were are as they were. -/
  nodes : (g'.nodes.take g.nodes.length).map Node.detached = g.nodes.map Node.detached
  added : g'.nodes.length = g.nodes.length + origins.length ∨ g'.nodes.length = g.nodes.length + origins.length + 1
  nodup : origins.Nodup
  kept : ∀ {m : Nat}, m < g.links.length → m ∉ origins → g'.links[m]? = g.links[m]?
  /-- A link of `origins` ends at its node, and a new link leads from there to where it ended. -/
  spliced : ∀ {i m : Nat}, origins[i]? = some m → ∃ l, g.links[m]? = some l ∧
    g'.links[m]? = some { l with dst := g.nodes.length + i, dstPad := 0 } ∧
    g'.links[g.links.length + i]? = some ⟨g.nodes.length + i, 0, l.dst, l.dstPad, .ofKind l.kind, .unconfigured⟩ ∧
    g'.bound? ⟨g.nodes.length + i, .input, 0⟩ = some m ∧
    g'.bound? ⟨g.nodes.length + i, .output, 0⟩ = some (g.links.length + i)

variable {g g' : Graph} {origins : List Nat} {added : List Node}

theorem Converted.interrupted (h : g.Converted origins added g') (hw : g'.Wired) : g.Interrupted origins g' := by
  refine ⟨?old, ?new, ?nodes, Or.inl h.length_nodes, h.nodup, h.kept, ?spliced⟩
  case old =>
    intro m l hl
    by_cases hm : m ∈ origins
    · obtain ⟨i, hi⟩ := List.mem_iff_getElem?.mp hm
      obtain ⟨l', hl', hup, -⟩ := h.spliced hi
      obtain rfl := Option.some.inj (hl.symm.trans hl')
      exact ⟨_, hup, rfl, rfl, rfl⟩
    · refine ⟨l, ?_, rfl, rfl, rfl⟩
      rw [h.kept (List.getElem?_eq_some_iff.mp hl).1 hm, hl]
  case new =>
    intro m l' hm hl'
    have hlt := (List.getElem?_eq_some_iff.mp hl').1
    rw [h.links] at hlt
    have hi : m - g.links.length < origins.length := by omega
    obtain ⟨l, -, -, hdown⟩ := h.spliced (List.getElem?_eq_getElem hi)
    rw [Nat.add_sub_cancel' hm] at hdown
    obtain rfl := Option.some.inj (hl'.symm.trans hdown)
    rfl
  case nodes =>
    have hn := congrArg (List.take g.nodes.length) h.nodes
    rw [← List.map_take, ← List.map_take, List.take_left] at hn
    exact hn
  case spliced =>
    intro i m hi
    obtain ⟨l, hl, hup, hdown⟩ := h.spliced hi
    exact ⟨l, hl, hup, hdown, hw.ends hup .input, hw.ends hdown .output⟩

/-- A node that is linked to nothing is the one more node. -/
theorem Converted.interrupted_addNode (h : g.Converted origins added g') (hw : g'.Wired) {node : Node}
    (hn : node.Unbound) : g.Interrupted origins (g'.addNode node) := by
  have hi := h.interrupted hw
  refine ⟨hi.old, hi.new, ?_, Or.inr ?_, hi.nodup, hi.kept, fun {i m} hm => ?_⟩
  · rw [addNode, List.take_append_of_le_length (by rw [h.length_nodes]; omega)]
    exact hi.nodes
  · simp [addNode, h.length_nodes]
  · obtain ⟨l, hl, hup, hdown, hin, hout⟩ := hi.spliced hm
    exact ⟨l, hl, hup, hdown, (bound?_addNode hn _).trans hin, (bound?_addNode hn _).trans hout⟩

end Graph

namespace Negotiation

variable {n₀ n n' : Negotiation} {origins : List Nat} {added : List Node} {e : Error}

/-! ## Asking -/

theorem queryNode_error {i : Nat} {node : Node} (hn : n.session.graph.nodes[i]? = some node)
    (hr : (queryNode i).run n = (.error e, n')) :
    n'.session.graph = n.session.graph ∧ ¬ e.Unmade n'.session.history := by
  obtain ⟨ds, r, he, -, hgraph, hhistory⟩ := run_queryNode_error hn hr
  rw [hhistory]
  exact ⟨hgraph, Error.not_unmade_of_query he⟩

/-- A query phase that fails changes nothing of the graph. -/
theorem query_error {s : Session} (hr : query.run { session := s } = (.error e, n)) :
    n.session.graph = s.graph ∧ ¬ e.Unmade n.session.history := by
  obtain ⟨node, -, calls, ds, r, he, -, hgraph, hhistory⟩ := query_stops hr
  rw [hhistory]
  exact ⟨hgraph, Error.not_unmade_of_query he⟩

/-! ## Inserting a converter -/

theorem mergeBeside_error {src dst : Node} {link : Nat} (hr : (mergeBeside src dst link).run n = (.error e, n')) :
    n'.session.graph = n.session.graph ∧ ¬ e.Unmade n'.session.history := by
  rw [run_mergeBeside] at hr
  split at hr
  · split at hr <;> cases hr
    exact ⟨rfl, Error.not_unmade_inconvertible _ _ _⟩
  · cases hr

/-- What fails next to a converter leaves it where it is. -/
theorem beside_error {c link down : Nat} {src dst node : Node} (hn : n.session.graph.nodes[c]? = some node)
    (hr : (do queryNode c; mergeBeside src dst link; mergeBeside src dst down).run n = (.error e, n')) :
    n'.session.graph = n.session.graph ∧ ¬ e.Unmade n'.session.history := by
  rcases run_bind_error.mp hr with hr | ⟨_, n₁, hquery, hr⟩
  · exact queryNode_error hn hr
  obtain ⟨_, ds, -, rfl⟩ := run_queryNode_ok hquery
  have hgraph := Session.graph_asked
  rcases run_bind_error.mp hr with hr | ⟨_, n₂, hup, hr⟩
  · obtain ⟨hg, he⟩ := mergeBeside_error hr
    exact ⟨hg.trans (hgraph _ _), he⟩
  · obtain ⟨hg, he⟩ := mergeBeside_error hr
    refine ⟨hg.trans ?_, he⟩
    rw [run_mergeBeside] at hup
    split at hup
    · split at hup <;> cases hup
      exact hgraph _ _
    · cases hup
      exact hgraph _ _

theorem planConverter_error {kind : MediaKind} (hr : (planConverter kind).run n = (.error e, n')) :
    n'.session.graph = n.session.graph := by
  rw [run_planConverter] at hr
  split at hr
  · cases hr
  · cases hr
    split <;> rfl

/-- A converter was not made, was not spliced in, or was spliced in and not agreed with. -/
theorem Converting.insert_error (h : Converting n₀ origins added n) {link : Nat} (hl : n.Parted link)
    (hr : (insertConverter link).run n = (.error e, n')) :
    n'.session.graph = n.session.graph ∨ ¬ e.Unmade n'.session.history ∧ ∃ node : Node,
      node.Unbound ∧ n'.session.graph = n.session.graph.addNode node ∨
        n₀.session.graph.Converted (origins ++ [link]) (added ++ [node]) n'.session.graph := by
  have hfound := List.getElem?_eq_getElem (h.accounted.lt_of_parted hl)
  rw [insertConverter, run_bind_of_run (run_linkAt hfound)] at hr
  rcases run_bind_error.mp hr with hr | ⟨plan, _, hplan, hr⟩
  · exact Or.inl (planConverter_error hr)
  obtain ⟨converters, -, rfl⟩ := planConverter_ok hplan
  obtain ⟨src, dst, hsrc, hdst⟩ := Accounted.run_ends (n := { n with converters })
    ⟨h.accounted.wired, h.accounted.counted, h.accounted.live, h.accounted.known⟩ hfound
  let told := n.session.tell (.inserting plan.name src.display dst.display)
  have hnotice : (onSession (Session.notice (.inserting plan.name src.display dst.display))).run
    { n with converters } = (.ok (), { n with session := told, converters }) := rfl
  rw [run_bind_of_run hsrc, run_bind_of_run hdst, run_bind_of_run hnotice] at hr
  rcases Session.create_cases plan.type (some plan.name) plan.args none told with
    ⟨e', s, hs, -, ha⟩ | ⟨node, s, hs, hnode⟩
  · have hcreate := run_onSession (n := { n with session := told, converters }) hs
    rw [run_bind, hcreate] at hr
    cases hr
    exact Or.inl ha.graph
  have hcreate := run_onSession (n := { n with session := told, converters }) hs
  rw [run_bind_of_run hcreate] at hr
  refine Or.inr ?_
  have hinsert := run_insert link told.graph.nodes.length 0 0 { n with session := s, converters }
  cases hi : s.graph.insert link told.graph.nodes.length 0 0 with
  | error e' =>
    simp only [hi] at hinsert
    rw [run_bind, hinsert] at hr
    cases hr
    have hw : s.graph.Wired := by
      rw [hnode.graph]
      exact h.accounted.wired.addNode hnode.unbound
    exact ⟨(hw.insert_error hi).not_unmade _, node, Or.inl ⟨hnode.unbound, hnode.graph⟩⟩
  | ok r =>
    obtain ⟨down, graph⟩ := r
    simp only [hi] at hinsert
    rw [run_bind_of_run hinsert, updateArena, run_bind_of_run (run_update _ _)] at hr
    obtain ⟨rfl, l, hspliced⟩ := Graph.insert_ok hi
    rw [hnode.graph] at hspliced
    have hc : told.graph.nodes.length < graph.nodes.length := by
      rw [hspliced.nodes]
      simp [Graph.addNode]
    obtain ⟨hg, he⟩ := beside_error (List.getElem?_eq_getElem hc) hr
    obtain ⟨hnew, hold⟩ := h.new_of_parted hl
    refine ⟨he, node, Or.inr ?_⟩
    rw [hg]
    exact h.graph.splice hspliced hold hnew

/-! ## Merging -/

/-- Merging one link fails only where its ends have nothing in common and inserting a converter fails. -/
theorem mergeLink_error {link : Nat} (hr : (mergeLink link).run n = (.error e, n')) :
    n.Parted link ∧ (insertConverter link).run n = (.error e, n') := by
  rw [run_mergeLink] at hr
  split at hr
  · rename_i i j hl
    split at hr
    · cases hr
    · rename_i hij
      split at hr
      · cases hr
      · exact ⟨⟨i, j, hl, hij⟩, hr⟩
  · cases hr

/-- `n'` and `e` are what the merge phase that began at `n₀` ended with: at `t` it could not insert a converter. -/
def Stopped (n₀ : Negotiation) (e : Error) (n' : Negotiation) : Prop :=
  ∃ t link, Merges n₀ t ∧ Steps n₀ t ∧ t.Parted link ∧ (insertConverter link).run t = (.error e, n')

theorem mergeNode_error (h : Merges n₀ n) (hs : Steps n₀ n) {k : Nat} (hk : k < n.session.graph.nodes.length)
    (hr : (mergeNode k).run n = (.error e, n')) : Stopped n₀ e n' := by
  have hn := List.getElem?_eq_getElem hk
  rw [mergeNode, run_bind_of_run (run_nodeAt hn)] at hr
  obtain ⟨link, rest, t, hm, hr⟩ :=
    forM_error (fun _ _ _ _ hm hr => (Merging.next hm).ok hr) _ _ _ (merging_start h hn) hr
  exact ⟨t, link, hm.merges, hs.trans hm.steps, mergeLink_error hr⟩

theorem mergeFrom_error (he : e ≠ .corrupt) : ∀ (rounds k : Nat) {n : Negotiation}, Merges n₀ n → Steps n₀ n →
    (mergeFrom rounds k).run n = (.error e, n') → Stopped n₀ e n' := by
  intro rounds
  induction rounds with
  | zero =>
    intro k n _ _ hr
    cases hr
    exact absurd rfl he
  | succ rounds ih =>
    intro k n h hs hr
    rw [mergeFrom, nodeCount, run_bind_of_run (run_read _ _)] at hr
    split at hr
    · rename_i hk
      rcases run_bind_error.mp hr with hr | ⟨_, m, hm, hr⟩
      · exact mergeNode_error h hs hk hr
      · have hkept := keeps_mergeNode (stable_steps n₀) k n hs
        rw [hm] at hkept
        exact ih (k + 1) ((mergeNode_meets h hk).ok hm) hkept hr
    · cases hr

theorem merge_error (h : Accounted n) (hr : merge.run n = (.error e, n')) : Stopped n e n' :=
  mergeFrom_error ((merge_meets h).error hr) _ 0 (merges_refl h) .refl hr

/-- However merging failed, and whether the converter it failed at is there or not. -/
theorem Stopped.interrupted (h : Stopped n₀ e n') :
    ∃ origins, n₀.session.graph.Interrupted origins n'.session.graph ∧ (e.Unmade n'.session.history →
      n'.session.graph.nodes.length = n₀.session.graph.nodes.length + origins.length ∧
        ∃ t link, Steps n₀ t ∧ (insertConverter link).run t = (.error e, n') ∧
          link < n₀.session.graph.links.length ∧ link ∉ origins) := by
  obtain ⟨t, link, ⟨origins, added, hc⟩, hs, hl, hr⟩ := h
  have hw := hc.accounted.wired
  obtain ⟨hnew, hold⟩ := hc.new_of_parted hl
  rcases hc.insert_error hl hr with hg | ⟨he, node, ⟨hn, hg⟩ | hg⟩
  · refine ⟨origins, hg ▸ hc.graph.interrupted hw, fun _ => ⟨?_, t, link, hs, hr, hold, hnew⟩⟩
    rw [hg, hc.graph.length_nodes]
  · exact ⟨origins, hg ▸ hc.graph.interrupted_addNode hw hn, fun h => absurd h he⟩
  · have hw' : n'.session.graph.Wired := by
      have hsteps := keeps_insertConverter (stable_steps t) link t .refl
      rw [hr] at hsteps
      exact (Steps.accounted hsteps hc.accounted).wired
    exact ⟨_, hg.interrupted hw', fun h => absurd h he⟩

end Negotiation

namespace Session

open MediaGraph.Negotiation

variable {s : Session}

/-- A negotiation that fails while asking or merging fails as a whole, with that error, and leaves the graph as
`Graph.Interrupted` says; if it fails while asking, it leaves the graph alone. If no converter could be made there is a
node for each link in `origins` and no other, and the link that asked for the converter is none of them: it is as it
was. -/
theorem negotiation_interrupted (h : s.Reachable) {e : Error} {n : Negotiation}
    (hfail : query.run { session := s } = (.error e, n) ∨
      ∃ n₁, query.run { session := s } = (.ok (), n₁) ∧ merge.run n₁ = (.error e, n)) :
    negotiate.run s = (.error e, n.session) ∧
      (query.run { session := s } = (.error e, n) → n.session.graph = s.graph) ∧
      ∃ origins, s.graph.Interrupted origins n.session.graph ∧ (e.Unmade n.session.history →
        n.session.graph.nodes.length = s.graph.nodes.length + origins.length ∧
          ∃ t link, Steps { session := s } t ∧ (insertConverter link).run t = (.error e, n) ∧
            link < s.graph.links.length ∧ link ∉ origins ∧ n.session.graph.links[link]? = s.graph.links[link]?) := by
  have hphases : runPhases.run { session := s } = (.error e, n) := by
    rw [runPhases, run_bind_error]
    rcases hfail with hq | ⟨n₁, hq, hm⟩
    · exact Or.inl hq
    · exact Or.inr ⟨(), n₁, hq, run_bind_error.mpr (Or.inl hm)⟩
  refine ⟨?_, fun hq => (query_error hq).1, ?_⟩
  · show ((runPhases.run { session := s }).1, (runPhases.run { session := s }).2.session) = _
    rw [hphases]
  rcases hfail with hq | ⟨n₁, hq, hm⟩
  · obtain ⟨hg, he⟩ := query_error hq
    rw [hg]
    exact ⟨[], (Graph.Converted.refl s.graph).interrupted h.wired, fun hu => absurd hu he⟩
  · obtain ⟨ready, hg⟩ := query_ok h.wired hq
    have hsteps := keeps_query (stable_steps { session := s }) _ .refl
    rw [hq] at hsteps
    obtain ⟨origins, hi, hu⟩ := (merge_error ready.coherent.toAccounted hm).interrupted
    rw [hg] at hi hu
    refine ⟨origins, hi, fun he => ?_⟩
    obtain ⟨hlen, t, link, ht, hr, hlt, hnew⟩ := hu he
    exact ⟨hlen, t, link, hsteps.trans ht, hr, hlt, hnew, hi.kept hlt hnew⟩

/-- The small graph that needs a scaler, without any filter type registered. -/
def uncatalogued : Session :=
  ((Studio.requests [.rgb24]).foldl Workbench.exec { session := { registry := {}, options := {} } }).session

/-- No scaler, no node for one. -/
theorem uncatalogued_interrupted :
    (negotiate.run uncatalogued).1 = .error (.unknownType scaleType) ∧ ∃ origins,
      uncatalogued.graph.Interrupted origins (negotiate.run uncatalogued).2.graph ∧
        (negotiate.run uncatalogued).2.graph.nodes.length = 3 + origins.length := by
  have reach : uncatalogued.Reachable := ⟨_, (Reach.start {} {}).requests _⟩
  have hq := run_eq_of_ok (show (query.run { session := uncatalogued }).1 = .ok () by decide +kernel)
  have hm := run_eq_of_failure (show merge.failure? (query.run { session := uncatalogued }).2 =
    some (.unknownType scaleType) by decide +kernel)
  obtain ⟨hr, -, origins, hi, hu⟩ := negotiation_interrupted reach (Or.inr ⟨_, hq, hm⟩)
  obtain ⟨hlen, -⟩ := hu (Or.inr (Or.inr (Or.inl ⟨_, rfl⟩)))
  rw [hr]
  exact ⟨rfl, origins, hi, hlen⟩

end Session

end MediaGraph

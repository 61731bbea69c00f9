/-
  MediaGraph.Proofs.Negotiation.Insertion — the shape of a graph after a negotiation.

  Merging splices converters into links that have no format their ends agree on, and
  changes the graph in no other way. A link next to a converter is settled, so none
  is spliced into twice (`Converting`): a converter belongs to one link of the start
  (`Graph.Converted`), there are no more of them than links, and going over the
  nodes ends though the nodes grow on the way (`mergeFrom_meets`).

  Proved: a graph negotiated well is the graph it was with the converters planned
  spliced into some of its links, and each filter was asked once, in the order of
  the nodes (`converters_spliced_in_order`).
-/

import MediaGraph.Proofs.Negotiation.Outcome

namespace MediaGraph

open MediaGraph.Action

/-! ## Graphs with converters -/

namespace Graph

/-- `g'` is `g` with converters spliced in: `added` are the nodes appended and `origins` the links they were spliced
into, in the same order. -/
structure Converted (g : Graph) (origins : List Nat) (added : List Node) (g' : Graph) : Prop where
  /-- Bindings apart, the nodes there were are as they were. -/
  nodes : g'.nodes.map Node.detached = (g.nodes ++ added).map Node.detached
  added : added.length = origins.length
  links : g'.links.length = g.links.length + origins.length
  nodup : origins.Nodup
  kept : ∀ {m}, m < g.links.length → m ∉ origins → g'.links[m]? = g.links[m]?
  /-- A link spliced into ends at its converter, and a new link leads from there to where it ended. -/
  spliced : ∀ {i m}, origins[i]? = some m → ∃ l, g.links[m]? = some l ∧
    g'.links[m]? = some { l with dst := g.nodes.length + i, dstPad := 0 } ∧
    g'.links[g.links.length + i]? = some ⟨g.nodes.length + i, 0, l.dst, l.dstPad, .ofKind l.kind, .unconfigured⟩

namespace Converted

variable {g g' g'' : Graph} {origins : List Nat} {added : List Node}

theorem refl (g : Graph) : g.Converted [] [] g :=
  ⟨by rw [List.append_nil], rfl, rfl, List.nodup_nil, fun _ _ => rfl, fun h => by simp at h⟩

theorem length_nodes (h : g.Converted origins added g') : g'.nodes.length = g.nodes.length + origins.length := by
  have hn := congrArg List.length h.nodes
  rw [List.length_map, List.length_map, List.length_append, h.added] at hn
  exact hn

theorem lt_of_mem (h : g.Converted origins added g') {m : Nat} (hm : m ∈ origins) : m < g.links.length := by
  obtain ⟨i, hi⟩ := List.mem_iff_getElem?.mp hm
  obtain ⟨l, hl, -⟩ := h.spliced hi
  exact (List.getElem?_eq_some_iff.mp hl).1

/-- No link has two converters. -/
theorem length_le (h : g.Converted origins added g') : origins.length ≤ g.links.length := by
  have hsub : origins ⊆ List.range g.links.length := fun m hm => List.mem_range.mpr (h.lt_of_mem hm)
  have hle := (h.nodup.subperm hsub).length_le
  rwa [List.length_range] at hle

/-- One more converter, spliced into a link that has none yet. -/
theorem splice (h : g.Converted origins added g') {node : Node} {link : Nat} {l : Link}
    (hs : (g'.addNode node).Spliced link g'.nodes.length 0 0 l g'') (hlt : link < g.links.length)
    (hnew : link ∉ origins) : g.Converted (origins ++ [link]) (added ++ [node]) g'' := by
  have hlen : g''.links.length = g'.links.length + 1 := hs.length_links
  have hlinks := h.links
  have old : ∀ {m}, m ≠ link → m < g'.links.length → g''.links[m]? = g'.links[m]? := fun hm hlt => hs.link_of_ne hm hlt
  refine ⟨?nodes, by simp [h.added], by simp; omega, ?nodup, ?kept, ?spliced⟩
  case nodes =>
    rw [hs.detached, Graph.addNode, List.map_append, h.nodes, ← List.map_append, List.append_assoc]
  case nodup =>
    refine List.nodup_append.mpr ⟨h.nodup, List.pairwise_singleton _ _, fun a ha b hb => ?_⟩
    rw [List.mem_singleton.mp hb]
    exact fun e => hnew (e ▸ ha)
  case kept =>
    intro m hm hmem
    rw [List.mem_append, List.mem_singleton, not_or] at hmem
    rw [old hmem.2 (by omega), h.kept hm hmem.1]
  case spliced =>
    intro i m hi
    rcases Nat.lt_or_ge i origins.length with hio | hio
    · rw [List.getElem?_append_left hio] at hi
      obtain ⟨k, hk, hup, hdown⟩ := h.spliced hi
      have hmem := List.mem_of_getElem? hi
      have hm := h.lt_of_mem hmem
      refine ⟨k, hk, ?_, ?_⟩
      · rw [old (fun e => hnew (e ▸ hmem)) (by omega), hup]
      · rw [old (by omega) (by omega), hdown]
    · rw [List.getElem?_append_right hio] at hi
      have hi0 := (List.getElem?_eq_some_iff.mp hi).1
      rw [List.length_singleton] at hi0
      obtain rfl : i = origins.length := by omega
      obtain rfl : link = m := by simpa using hi
      have hfound : g'.links[link]? = some l := hs.found
      have hnew' : g''.links[g'.links.length]? = _ := hs.link_new
      refine ⟨l, by rw [← h.kept hlt hnew, hfound], ?_, ?_⟩
      · rw [hs.link_self, h.length_nodes]
      · rw [← h.links, hnew', h.length_nodes]

end Converted

end Graph

/-! ## Plans -/

/-- `added` are the converters planned: as many as were counted, of the converter types, and numbered in order among
those of their type. -/
structure Converters.Named (c : Converters) (added : List Node) : Prop where
  count : added.length = c.scalers + c.resamplers
  types : ∀ n ∈ added, n.type.name = scaleType ∨ n.type.name = resampleType
  scalers : (added.filter (·.type.name = scaleType)).map (·.name) =
    (List.range c.scalers).map fun i => some s!"auto-inserted scaler {i}"
  resamplers : (added.filter (·.type.name = resampleType)).map (·.name) =
    (List.range c.resamplers).map fun i => some s!"auto-inserted resampler {i}"

/-- Nodes made of the plans that lead from one count to another, in order. -/
inductive Planned (c : Converters) : List Node → Converters → Prop
  | nil : Planned c [] c
  | snoc {added : List Node} {c' c'' : Converters} {kind : MediaKind} {registry : Registry} {opts : Option String}
      {plan : ConverterPlan} {n : Node} : Planned c added c' → c'.plan kind registry opts = .ok (plan, c'') →
      n.type.name = plan.type → n.name = some plan.name → Planned c (added ++ [n]) c''

theorem Converters.Named.plan {c c' : Converters} {added : List Node} (h : c.Named added) {kind : MediaKind}
    {registry : Registry} {opts : Option String} {plan : ConverterPlan} (hp : c.plan kind registry opts = .ok (plan, c'))
    {n : Node} (ht : n.type.name = plan.type) (hn : n.name = some plan.name) : c'.Named (added ++ [n]) := by
  have hne : scaleType ≠ resampleType := by decide
  obtain ⟨hcount, htypes, hscalers, hresamplers⟩ := h
  cases kind with
  | video =>
    cases hp
    have ht : n.type.name = scaleType := ht
    refine ⟨by simp [hcount]; omega, ?_, ?_, ?_⟩
    · intro m hm
      rcases List.mem_append.mp hm with hm | hm
      · exact htypes m hm
      · rw [List.mem_singleton.mp hm]
        exact Or.inl ht
    · simp [List.filter_append, List.range_succ, hscalers, ht, hn, scaler]
    · simp [List.filter_append, hresamplers, ht, hne]
  | audio =>
    simp only [Converters.plan] at hp
    split at hp
    · cases hp
      have ht : n.type.name = resampleType := ht
      refine ⟨by simp [hcount]; omega, ?_, ?_, ?_⟩
      · intro m hm
        rcases List.mem_append.mp hm with hm | hm
        · exact htypes m hm
        · rw [List.mem_singleton.mp hm]
          exact Or.inr ht
      · simp [List.filter_append, hscalers, ht, Ne.symm hne]
      · simp [List.filter_append, List.range_succ, hresamplers, ht, hn, resampler]
    · cases hp
  | other => cases hp

theorem Planned.named {c : Converters} {added : List Node} (h : Planned {} added c) : c.Named added := by
  induction h with
  | nil => exact ⟨rfl, nofun, rfl, rfl⟩
  | snoc _ hp ht hn ih => exact ih.plan hp ht hn

/-! ## Queries on record -/

/-- The instances asked for their formats, in the order they were asked. -/
def History.asked (calls : History) : List Nat :=
  calls.reverse.filterMap fun r => match r.call with
    | .query .. => some r.serial
    | _ => none

theorem History.asked_append (later calls : History) : (later ++ calls).asked = calls.asked ++ later.asked := by
  simp [asked]

namespace Negotiation

variable {n₀ n n' : Negotiation} {origins : List Nat} {added : List Node}

/-! ## One converter -/

/-- `n` is `n₀` later in a merge phase: some links have converters, and these links and those behind the converters are
settled. -/
structure Converting (n₀ : Negotiation) (origins : List Nat) (added : List Node) (n : Negotiation) : Prop where
  accounted : Accounted n
  graph : n₀.session.graph.Converted origins added n.session.graph
  plans : Planned n₀.converters added n.converters
  settled : ∀ {m}, m ∈ origins ∨ n₀.session.graph.links.length ≤ m → m < n.session.graph.links.length → n.Settled m
  asked : ∃ calls : History, n.session.history = calls ++ n₀.session.history ∧ calls.asked = added.map (·.serial)

/-- The ends of a link hold two sets. -/
def Parted (n : Negotiation) (link : Nat) : Prop := ∃ i j, n.arena.link link = ⟨some i, some j⟩ ∧ i ≠ j

theorem Accounted.lt_of_parted (h : Accounted n) {link : Nat} (hl : n.Parted link) :
    link < n.session.graph.links.length := by
  obtain ⟨i, j, hl, -⟩ := hl
  exact h.known (show (n.arena.link link).get .offered = some i by rw [hl]; rfl)

/-- A link whose ends hold two sets was there at the start and has no converter yet. -/
theorem Converting.new_of_parted (h : Converting n₀ origins added n) {link : Nat} (hl : n.Parted link) :
    link ∉ origins ∧ link < n₀.session.graph.links.length := by
  have hlt := h.accounted.lt_of_parted hl
  obtain ⟨i, j, hl, hij⟩ := hl
  have hset := not_settled hl hij
  constructor
  · exact fun hm => hset (h.settled (Or.inl hm) hlt)
  · exact Nat.lt_of_not_le fun hm => hset (h.settled (Or.inr hm) hlt)

/-- Both ends of a link hold a set. -/
def Filled (n : Negotiation) (link : Nat) : Prop := ∃ i j, n.arena.link link = ⟨some i, some j⟩

/-- What merging beside a converter comes to. -/
structure Beside (n : Negotiation) (link : Nat) (n' : Negotiation) : Prop where
  arena : ∃ arena, n' = { n with arena }
  accounted : Accounted n'
  settles : n'.Settled link
  settled : ∀ {m}, n.Settled m → n'.Settled m
  filled : ∀ {m}, n.Filled m → n'.Filled m

theorem mergeBeside_ok (h : Accounted n) {src dst : Node} {link : Nat} (hl : n.Filled link)
    (hr : (mergeBeside src dst link).run n = (.ok (), n')) : Beside n link n' := by
  obtain ⟨i, j, hl⟩ := hl
  rw [run_mergeBeside, hl] at hr
  simp only at hr
  cases hm : n.arena.merge i j with
  | none => rw [hm] at hr; cases hr
  | some arena =>
    rw [hm] at hr
    cases hr
    obtain ⟨hacc, hset, hkeep⟩ := h.merge_ends hl hm
    refine ⟨⟨arena, rfl⟩, hacc, hset, fun {m} => hkeep m, fun {m} hf => ?_⟩
    obtain ⟨a, b, hm'⟩ := hf
    rcases Arena.merge_eq_some hm with ⟨-, rfl, -⟩ | ⟨-, -, -, -, -, -, -, -, hb⟩
    · exact ⟨a, b, hm'⟩
    · refine ⟨if a = j then i else a, if b = j then i else b, ?_⟩
      show arena.link m = _
      rw [Arena.link_of_redirect hb, hm']
      by_cases ha : a = j <;> by_cases hb' : b = j <;> simp [Ends.redirect, ha, hb']

/-- After a query of one of its nodes a link holds a set at either end, if the other end had one. -/
theorem Accounted.filled_answered (h : Accounted n) {c : Nat} {node : Node} (hn : n.session.graph.nodes[c]? = some node)
    (hb : n.arena.Bare node) (ds : List Declaration) {x : Nat} {y : Link} (hx : n.session.graph.links[x]? = some y)
    (hh : ∀ d, (y.port d).node ≠ c → (n.held? (y.port d)).isSome) : (n.answered c node ds).Filled x := by
  refine (h.query hn ds).ends_of_held hx fun d => ?_
  by_cases e : (y.port d).node = c
  · exact held?_answered hn ds e (by rw [h.wired.ends hx d]; rfl)
  · rw [h.held?_of_grown (m := n.answered c node ds) hn rfl (Arena.grown_queried hb ds) e]
    exact hh d e

/-- What splicing in a node with free pads and asking it comes to, when the merges on both its sides end well. -/
theorem Accounted.splice_ok (h : Accounted n) {link c i j : Nat} {l : Link} {graph : Graph}
    (hs : n.session.graph.Spliced link c 0 0 l graph) (hc : ∀ d pad, n.session.graph.bound? ⟨c, d, pad⟩ = none)
    (hl : n.arena.link link = ⟨some i, some j⟩) (hij : i ≠ j) {src dst : Node} {n₁ n₂ : Negotiation}
    (hquery : (queryNode c).run (n.spliced link graph) = (.ok (), n₁))
    (hup : (mergeBeside src dst link).run n₁ = (.ok (), n₂))
    (hdown : (mergeBeside src dst n.session.graph.links.length).run n₂ = (.ok (), n')) :
    ∃ node ds answer, graph.nodes[c]? = some node ∧ n'.session.graph = graph ∧ n'.converters = n.converters ∧
      n'.session.history = ⟨node.serial, .query node.layout ds answer⟩ :: n.session.history ∧
      Accounted n' ∧ n'.Settled link ∧ n'.Settled n.session.graph.links.length ∧ ∀ m, n.Settled m → n'.Settled m := by
  obtain ⟨node, ds, hn, rfl⟩ := run_queryNode_ok hquery
  let k : Negotiation := { n.spliced link graph with session := (n.spliced link graph).session.asked node }
  obtain ⟨hgraph, -, hhistory⟩ := Session.asked_eq node (n.spliced link graph).session
  have hk : Accounted k := (step_asked _ node).accounted (h.splice hs)
  have hkn : k.session.graph.nodes[c]? = some node := by rw [hgraph]; exact hn
  have held : ∀ p, k.held? p = n.held? p := fun p => by rw [← held?_spliced h hs hl p, held?, held?, hgraph]
  have hbare : k.arena.Bare node := bare_of_held hkn fun d pad => by rw [held, held?, hc]; rfl
  have hport : ∀ d, (l.port d).node ≠ c := by
    intro d e
    have hb := h.wired.ends hs.found d
    cases d <;> simp only [Link.port] at hb e <;> rw [e, hc] at hb <;> cases hb
  have hup₁ : (k.answered c node ds).Filled link := by
    refine hk.filled_answered hkn hbare ds (by rw [hgraph]; exact hs.link_self) fun d hd => ?_
    cases d with
    | input => exact absurd rfl hd
    | output =>
      rw [held]
      exact (congrArg Option.isSome (h.held?_port hs.found .output)).trans (by rw [hl]; rfl)
  have hdown₁ : (k.answered c node ds).Filled n.session.graph.links.length := by
    refine hk.filled_answered hkn hbare ds (by rw [hgraph]; exact hs.link_new) fun d hd => ?_
    cases d with
    | input =>
      rw [held]
      exact (congrArg Option.isSome (h.held?_port hs.found .input)).trans (by rw [hl]; rfl)
    | output => exact absurd rfl hd
  have up := mergeBeside_ok (hk.query hkn ds) hup₁ hup
  have down := mergeBeside_ok up.accounted (up.filled hdown₁) hdown
  obtain ⟨a₁, rfl⟩ := up.arena
  obtain ⟨a₂, rfl⟩ := down.arena
  refine ⟨node, _, _, hn, hgraph, rfl, hhistory, down.accounted, down.settled up.settles, down.settles, fun m hm => ?_⟩
  exact down.settled (up.settled (settled_query hbare ds (settled_spliced h hs hl hij hm)))

/-- The node just added is the same instance once it is spliced in. -/
theorem serial_of_spliced {g graph : Graph} {node node' : Node} {link inPad outPad : Nat} {l : Link}
    (hs : (g.addNode node).Spliced link g.nodes.length inPad outPad l graph)
    (hn : graph.nodes[g.nodes.length]? = some node') : node'.serial = node.serial := by
  have hd := congrArg (·[g.nodes.length]?) hs.detached
  simp only [List.getElem?_map, hn, Graph.addNode, List.getElem?_concat_length, Option.map_some] at hd
  have hserial := congrArg Node.serial (Option.some.inj hd)
  exact hserial

theorem Converting.insert (h : Converting n₀ origins added n) {link i j : Nat}
    (hl : n.arena.link link = ⟨some i, some j⟩) (hij : i ≠ j)
    (hr : (insertConverter link).run n = (.ok (), n')) :
    ∃ node, Converting n₀ (origins ++ [link]) (added ++ [node]) n' := by
  obtain ⟨l, plan, converters, notice, node, session, graph, down, src, dst, n₁, n₂, hfound, hplan, hnode, hi, hquery,
    hup, hdown⟩ := run_insertConverter_ok hr
  obtain ⟨rfl, l', hs⟩ := Graph.insert_ok hi
  have created := h.accounted.create hnode.unbound hnode.graph converters
  have free : ∀ d pad, session.graph.bound? ⟨n.session.graph.nodes.length, d, pad⟩ = none := by
    intro d pad
    rw [hnode.graph]
    exact Graph.bound?_added hnode.unbound d pad
  obtain ⟨node', ds, answer, hn, hgraph, hconverters, hhistory, hacc, hsetUp, hsetDown, hkeep⟩ :=
    created.splice_ok hs free hl hij hquery hup hdown
  have hs' := hs
  rw [hnode.graph] at hs'
  have hlinks : session.graph.links = n.session.graph.links := by rw [hnode.graph]; rfl
  have hlen : n'.session.graph.links.length = n.session.graph.links.length + 1 := by
    rw [hgraph, hs.length_links, hlinks]
  obtain ⟨hnew, hold⟩ := h.new_of_parted ⟨i, j, hl, hij⟩
  have hserial : node'.serial = node.serial := serial_of_spliced hs' hn
  refine ⟨node, hacc, ?graph, ?plans, ?settled, ?asked⟩
  case graph =>
    rw [hgraph]
    exact h.graph.splice hs' hold hnew
  case plans =>
    rw [hconverters]
    exact h.plans.snoc hplan hnode.type hnode.name
  case settled =>
    intro m hm hmlt
    rw [hlen] at hmlt
    rcases Nat.lt_or_ge m n.session.graph.links.length with hmlt | hmge
    · rcases hm with hm | hm
      · rcases List.mem_append.mp hm with hm | hm
        · exact hkeep m (h.settled (Or.inl hm) hmlt)
        · rw [List.mem_singleton.mp hm]
          exact hsetUp
      · exact hkeep m (h.settled (Or.inr hm) hmlt)
    · obtain rfl : m = n.session.graph.links.length := by omega
      rw [← hlinks]
      exact hsetDown
  case asked =>
    obtain ⟨calls, hh, hasked⟩ := h.asked
    refine ⟨⟨node'.serial, .query node'.layout ds answer⟩ :: ⟨node.serial, .init plan.args none .done⟩ ::
      ⟨node.serial, .opened node.type.name⟩ :: calls, ?_, ?_⟩
    · rw [hhistory]
      show _ :: session.history = _
      rw [hnode.calls]
      exact congrArg (fun h => _ :: _ :: _ :: h) hh
    · rw [List.map_append, ← hasked]
      simp [History.asked, hserial]

theorem Converters.plan_error {c : Converters} {kind : MediaKind} {registry : Registry} {opts : Option String}
    {e : Error} (h : c.plan kind registry opts = .error e) : e ≠ .corrupt := by
  cases kind with
  | video => cases h
  | audio =>
    simp only [Converters.plan] at h
    split at h
    · cases h
    · cases h
      exact nofun
  | other =>
    cases h
    exact nofun

theorem planConverter_meets (kind : MediaKind) (n : Negotiation) :
    Meets (planConverter kind) n (· ≠ .corrupt) fun _ n' => ∃ converters, n' = { n with converters } := by
  rw [Meets, run_planConverter]
  cases hp : n.converters.plan kind n.session.registry n.session.options.scaleOpts with
  | ok r => exact ⟨r.2, rfl⟩
  | error e => exact Converters.plan_error hp

theorem mergeBeside_meets (src dst : Node) (link : Nat) (n : Negotiation) :
    Meets (mergeBeside src dst link) n (· ≠ .corrupt) fun _ _ => True := by
  rw [Meets, run_mergeBeside]
  rcases n.arena.link link with ⟨_ | i, _ | j⟩
  · trivial
  · trivial
  · trivial
  · simp only
    cases n.arena.merge i j with
    | some arena => trivial
    | none => exact fun h => by cases h

theorem run_insert (link node inPad outPad : Nat) (n : Negotiation) :
    (onSession (Session.insert link node inPad outPad)).run n =
      match n.session.graph.insert link node inPad outPad with
      | .ok (j, graph) => (.ok j, { n with session := { n.session with graph } })
      | .error e => (.error e, n) := by
  rw [onSession, run_onPart, Session.insert, Session.run_edit]
  cases n.session.graph.insert link node inPad outPad <;> rfl

/-- What follows once the converter is there. -/
theorem splice_meets (h : Accounted n) (src dst : Node) (link : Nat) {c : Nat} (hc : c < n.session.graph.nodes.length) :
    Meets (do
      let downstream ← onSession (Session.insert link c 0 0)
      updateArena (·.moveAccepted link downstream)
      queryNode c
      mergeBeside src dst link
      mergeBeside src dst downstream) n (· ≠ .corrupt) fun _ _ => True := by
  have hrun := run_insert link c 0 0 n
  cases hi : n.session.graph.insert link c 0 0 with
  | error e =>
    rw [hi] at hrun
    exact meets_bind_of_error hrun (h.wired.insert_error hi).ne_corrupt
  | ok r =>
    rw [hi] at hrun
    obtain ⟨-, l, hs⟩ := Graph.insert_ok hi
    have hn := List.getElem?_eq_getElem (hs.nodes.symm ▸ hc)
    refine meets_bind_of_run hrun (meets_bind_of_run (run_update _ _) (meets_bind (queryNode_meets hn) fun _ n₁ _ => ?_))
    exact meets_bind (mergeBeside_meets src dst link n₁) fun _ n₂ _ => mergeBeside_meets src dst _ n₂

/-- However inserting a converter fails, no look-up does. -/
theorem insertConverter_meets (h : Accounted n) {link : Nat} (hlt : link < n.session.graph.links.length) :
    Meets (insertConverter link) n (· ≠ .corrupt) fun _ _ => True := by
  have hl := List.getElem?_eq_getElem hlt
  refine meets_bind_of_run (run_linkAt hl) (meets_bind (planConverter_meets _ n) fun plan m hm => ?_)
  obtain ⟨converters, rfl⟩ := hm
  obtain ⟨src, dst, hsrc, hdst⟩ := Accounted.run_ends (n := { n with converters })
    ⟨h.wired, h.counted, h.live, h.known⟩ hl
  refine meets_bind_of_run hsrc (meets_bind_of_run hdst (meets_bind_of_run (run_onPart _ _ _ _) ?_))
  rcases Session.create_cases plan.type (some plan.name) plan.args none
      (n.session.tell (.inserting plan.name src.display dst.display)) with ⟨e, s, hs, he, -⟩ | ⟨node, s, hs, hnode⟩
  · exact meets_bind_of_error (congrArg (fun r => (r.1, _)) hs) he
  · have created := h.create hnode.unbound hnode.graph converters
    refine meets_bind_of_run (run_onPart_ok.mpr ⟨s, hs, rfl⟩) (splice_meets created src dst link ?_)
    rw [hnode.graph]
    simp [Graph.addNode]

/-! ## The merge phase -/

/-- `n` is somewhere in a merge phase that began at `n₀`. -/
def Merges (n₀ n : Negotiation) : Prop := ∃ origins added, Converting n₀ origins added n

theorem merges_refl (h : Accounted n) : Merges n n := by
  refine ⟨[], [], h, .refl _, .nil, fun {m} hm hlt => ?_, [], rfl, rfl⟩
  rcases hm with hm | hm
  · cases hm
  · exact absurd hlt (Nat.not_lt_of_le hm)

/-- A change that leaves the graph alone and unsettles no link. -/
theorem Converting.of_graph (h : Converting n₀ origins added n) (ha : Accounted n')
    (hg : n'.session.graph = n.session.graph) (hc : n'.converters = n.converters)
    (hh : n'.session.history = n.session.history) (hs : ∀ m, n.Settled m → n'.Settled m) :
    Converting n₀ origins added n' :=
  ⟨ha, hg ▸ h.graph, hc ▸ h.plans, fun {m} hm hlt => hs m (h.settled hm (hg ▸ hlt)), hh ▸ h.asked⟩

theorem mergeLink_meets (h : Merges n₀ n) {link : Nat} (hlt : link < n.session.graph.links.length) :
    Meets (mergeLink link) n (· ≠ .corrupt) fun _ n' => Merges n₀ n' := by
  obtain ⟨origins, added, hc⟩ := h
  rw [Meets, run_mergeLink]
  rcases hl : n.arena.link link with ⟨_ | i, _ | j⟩
  · exact ⟨origins, added, hc⟩
  · exact ⟨origins, added, hc⟩
  · exact ⟨origins, added, hc⟩
  simp only
  by_cases hij : i = j
  · rw [if_pos hij]
    exact ⟨origins, added, hc⟩
  rw [if_neg hij]
  cases hm : n.arena.merge i j with
  | some arena =>
    obtain ⟨hacc, -, hs⟩ := hc.accounted.merge_ends hl hm
    exact ⟨origins, added, hc.of_graph ((Step.aside _ (Session.aside_tell _ _)).accounted hacc) rfl rfl rfl hs⟩
  | none =>
    simp only
    rcases hr : (insertConverter link).run n with ⟨e | _, n'⟩
    · exact (insertConverter_meets hc.accounted hlt).error hr
    · obtain ⟨node, hc'⟩ := hc.insert hl hij hr
      exact ⟨_, _, hc'⟩

/-- Somewhere in merging the input links of a node, begun at `n`, with some of them left. -/
structure Merging (n₀ n : Negotiation) (rest : List Nat) (m : Negotiation) : Prop where
  merges : Merges n₀ m
  steps : Steps n m
  known : ∀ x ∈ rest, x < n.session.graph.links.length

theorem merging_start (h : Merges n₀ n) {k : Nat} {node : Node} (hn : n.session.graph.nodes[k]? = some node) :
    Merging n₀ n node.inputLinks n := by
  refine ⟨h, .refl, fun x hx => ?_⟩
  obtain ⟨pad, hx⟩ := (Graph.mem_inputLinks hn).mp hx
  obtain ⟨_, _, hc⟩ := h
  exact hc.accounted.wired.bound_lt hx

theorem Merging.next {m : Negotiation} {x : Nat} {rest : List Nat} (h : Merging n₀ n (x :: rest) m) :
    Meets (mergeLink x) m (· ≠ .corrupt) fun _ m' => Merging n₀ n rest m' := by
  have hx := Nat.lt_of_lt_of_le (h.known x List.mem_cons_self) h.steps.changes.size_le.2
  refine ((mergeLink_meets h.merges hx).keeps (keeps_mergeLink (stable_steps n) x) h.steps).imp fun _ m' hm' => ?_
  exact ⟨hm'.2, hm'.1, fun y hy => h.known y (List.mem_cons_of_mem x hy)⟩

theorem mergeNode_meets (h : Merges n₀ n) {k : Nat} (hk : k < n.session.graph.nodes.length) :
    Meets (mergeNode k) n (· ≠ .corrupt) fun _ n' => Merges n₀ n' := by
  have hn := List.getElem?_eq_getElem hk
  refine meets_bind_of_run (run_nodeAt hn) ?_
  exact (meets_forM (fun _ _ _ => Merging.next) _ _ (merging_start h hn)).imp fun _ _ hm => hm.merges

/-- There are no more nodes to visit than nodes and links at the start. -/
theorem mergeFrom_meets : ∀ (rounds k : Nat) {n : Negotiation}, Merges n₀ n → k ≤ n.session.graph.nodes.length →
    n₀.session.graph.nodes.length + n₀.session.graph.links.length < k + rounds →
    Meets (mergeFrom rounds k) n (· ≠ .corrupt) fun _ n' => Merges n₀ n' := by
  intro rounds
  induction rounds with
  | zero =>
    intro k n h hk hlt
    obtain ⟨origins, added, hc⟩ := h
    have hlen := hc.graph.length_nodes
    have hle := hc.graph.length_le
    omega
  | succ rounds ih =>
    intro k n h hk hlt
    rw [mergeFrom]
    refine meets_bind_of_run (run_read _ _) ?_
    split
    · rename_i hkn
      refine meets_bind ((mergeNode_meets h hkn).keeps (keeps_mergeNode (stable_steps n) k) .refl) fun _ m hm => ?_
      exact ih (k + 1) hm.2 (Nat.le_trans hkn hm.1.changes.size_le.1) (by omega)
    · exact h

theorem merge_meets (h : Accounted n) : Meets merge n (· ≠ .corrupt) fun _ n' => Merges n n' :=
  meets_bind_of_run (run_read _ _) (mergeFrom_meets _ 0 (merges_refl h) (Nat.zero_le _) (by omega))

/-! ## A whole run -/

/-- A list read off at its indices, in order. -/
theorem filterMap_range {α : Type} (l : List α) : (List.range l.length).filterMap (fun i => l[i]?) = l := by
  induction l with
  | nil => rfl
  | cons a l ih => simp [List.range_succ_eq_map, List.filterMap_map, ih]

/-- The nodes of `s` are asked in order, and those of `rest` are the ones still to ask. -/
structure AskingInOrder (s : Session) (rest : List Nat) (m : Negotiation) : Prop where
  graph : m.session.graph = s.graph
  converters : m.converters = {}
  calls : ∃ calls : History, m.session.history = calls ++ s.history ∧
    calls.asked ++ rest.filterMap (fun i => (s.graph.nodes.map (·.serial))[i]?) = s.graph.nodes.map (·.serial)

theorem AskingInOrder.next {s : Session} {i : Nat} {rest : List Nat} {m m' : Negotiation}
    (h : AskingInOrder s (i :: rest) m) (hr : (queryNode i).run m = (.ok (), m')) : AskingInOrder s rest m' := by
  obtain ⟨calls, hh, hasked⟩ := h.calls
  obtain ⟨node, ds, hn, rfl⟩ := run_queryNode_ok hr
  obtain ⟨hgraph, -, hhistory⟩ := Session.asked_eq node m.session
  have hserial : (s.graph.nodes.map (·.serial))[i]? = some node.serial := by
    rw [List.getElem?_map, ← h.graph, hn]
    rfl
  refine ⟨hgraph.trans h.graph, h.converters, [_] ++ calls, hhistory.trans (by rw [hh]; rfl), ?_⟩
  rw [List.filterMap_cons, hserial] at hasked
  rw [History.asked_append, List.append_assoc]
  exact hasked

/-- The query phase asks every node once, in order. -/
theorem query_asked {s : Session} (hr : query.run { session := s } = (.ok (), n)) :
    n.session.graph = s.graph ∧ n.converters = {} ∧
      ∃ calls : History, n.session.history = calls ++ s.history ∧ calls.asked = s.graph.nodes.map (·.serial) := by
  obtain ⟨_, m, hnodes, hr⟩ := run_bind_ok.mp hr
  cases hnodes
  obtain ⟨_, m, hnotice, hr⟩ := run_bind_ok.mp hr
  cases hnotice
  have start : AskingInOrder s (List.range s.graph.nodes.length)
      { session := s.tell (.querying s.graph.nodes.length) } := by
    refine ⟨rfl, rfl, [], rfl, ?_⟩
    have hrange := filterMap_range (s.graph.nodes.map (·.serial))
    rw [List.length_map] at hrange
    exact hrange
  have h := forM_ok (fun _ _ _ _ h hr => h.next hr) _ _ _ start hr
  obtain ⟨calls, hh, hasked⟩ := h.calls
  exact ⟨h.graph, h.converters, calls, hh, by simpa using hasked⟩

end Negotiation

namespace Session

open MediaGraph.Negotiation

variable {s : Session}

/-- After a negotiation that ended well the graph is, formats apart, the one it was with a converter for each plan: each
on a link of its own, in the order of the plans. Every instance was asked for its formats once, in the order of the
nodes. -/
theorem converters_spliced_in_order (h : s.Reachable) (hok : (negotiate.run s).1 = .ok ()) :
    let s' := (negotiate.run s).2
    let k := s.negotiation.converters.scalers + s.negotiation.converters.resamplers
    ∃ g origins added, s.graph.Converted origins added g ∧ s'.graph.unformatted = g.unformatted ∧
      s.negotiation.converters.Named added ∧ s'.graph.nodes.length = s.graph.nodes.length + k ∧
      s'.graph.links.length = s.graph.links.length + k ∧ k ≤ s.graph.links.length ∧
      ∃ calls : History, s'.history = calls ++ s.history ∧ calls.asked = s'.graph.nodes.map (·.serial) ∧
        (s'.graph.nodes.map (·.serial)).Nodup := by
  obtain ⟨n₁, n₂, hq, hm, ready, -, -, -, hout⟩ := run_ok h.wired hok
  obtain ⟨hg, hc, calls, hh, hasked⟩ := query_asked hq
  obtain ⟨origins, added, converting⟩ := (merge_meets ready.coherent.toAccounted).ok hm
  obtain ⟨calls', hh', hasked'⟩ := converting.asked
  have converted := converting.graph
  rw [hg] at converted
  have named : s.negotiation.converters.Named added := by
    rw [hout.converters]
    have plans := converting.plans
    rw [hc] at plans
    exact plans.named
  have count : origins.length = s.negotiation.converters.scalers + s.negotiation.converters.resamplers :=
    converted.added.symm.trans named.count
  have nodes : s.negotiation.session.graph.nodes = n₂.session.graph.nodes := hout.nodes
  have links : s.negotiation.session.graph.links.length = n₂.session.graph.links.length := by
    have hl := congrArg (fun g => g.links.length) hout.graph
    simpa [Graph.unformatted] using hl
  have serials : n₂.session.graph.nodes.map (·.serial) = s.graph.nodes.map (·.serial) ++ added.map (·.serial) := by
    rw [serials_of_detached (g := ⟨s.graph.nodes ++ added, []⟩) converted.nodes, List.map_append]
  refine ⟨n₂.session.graph, origins, added, converted, hout.graph, named, ?_, ?_, ?_, calls' ++ calls, ?_, ?_, ?_⟩
  · exact (congrArg List.length nodes).trans (converted.length_nodes.trans (by rw [count]))
  · exact links.trans (converted.links.trans (by rw [count]))
  · rw [← count]
    exact converted.length_le
  · exact hout.history.trans (hh'.trans (by rw [hh, List.append_assoc]))
  · rw [History.asked_append, hasked, hasked', ← serials]
    exact congrArg (List.map _) nodes.symm
  · obtain ⟨loose, h⟩ := h
    have numbered := (Reach.step .negotiate h).sound.numbered.nodup
    rw [List.map_append] at numbered
    exact (List.nodup_append.mp numbered).1

theorem mismatched_scaler_spliced :
    ∃ g origins added, Studio.mismatched.graph.Converted origins added g ∧
      (negotiate.run Studio.mismatched).2.graph.unformatted = g.unformatted ∧
      Studio.mismatched.negotiation.converters.Named added ∧ added.map (·.name) = [some "auto-inserted scaler 0"] := by
  obtain ⟨g, origins, added, converted, hgraph, named, -⟩ :=
    converters_spliced_in_order Studio.mismatched_reachable (by decide +kernel)
  refine ⟨g, origins, added, converted, hgraph, named, ?_⟩
  have plans : Studio.mismatched.negotiation.converters = { scalers := 1 } := by decide +kernel
  rw [plans] at named
  have all : added.filter (·.type.name = scaleType) = added := by
    have hlen := congrArg List.length named.scalers
    rw [List.length_map, List.length_map, List.length_range] at hlen
    exact List.filter_eq_self.mpr (List.length_filter_eq_length_iff.mp (hlen.trans named.count.symm))
  rw [← all, named.scalers]
  rfl

end Session

end MediaGraph

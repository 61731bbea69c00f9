/-
  MediaGraph.Proofs.Session.Completion — what configuring a fresh graph comes to.

  An error of a stage is the error of the configuration. Negotiating calls no config
  hook and leaves every link unconfigured (`Idle`), so that is what a configuration
  leaves that does not get to its last stage.

  A graph found valid has no free pad, so each of its nodes has a link to go on with
  or is a sink. A converter has one too, and splicing it in closes no cycle
  (`Converted.unblocked`, `Converted.acyclic`). So where there was no cycle every link
  leads to a sink after negotiation, and the last stage configures all of them.
-/

import MediaGraph.Proofs.Negotiation.Insertion
import MediaGraph.Proofs.Session.Stages
import MediaGraph.Proofs.Session.Walk

namespace MediaGraph

open MediaGraph.Action

/-! ## Graphs without free pads -/

theorem Node.isLinked_of_freePad? {n : Node} (h : n.freePad? = none) {d : Direction} {p : Pad} (hp : p ∈ n.pads d) :
    ∃ i, p.link = some i := by
  unfold freePad? at h
  split at h
  · cases h
  rename_i hin
  have hout := List.find?_eq_none.mp (Option.map_eq_none_iff.mp h)
  have linked : p.isLinked = true := by
    cases d with
    | input => simpa using List.find?_eq_none.mp hin p hp
    | output => simpa using hout p hp
  exact Option.isSome_iff_exists.mp linked

namespace Graph

variable {g g' : Graph} {origins : List Nat} {added : List Node}

/-- Where no pad is free there is a link at every output. -/
theorem Wired.unblocked (hw : g.Wired) (h : g.freePad? = none) : g.Unblocked := by
  intro a n ha
  have hfree : n.freePad? = none := by
    have hnone := List.findSome?_eq_none_iff.mp h n (List.mem_of_getElem? ha)
    exact Option.map_eq_none_iff.mp hnone
  cases hout : n.outputs with
  | nil => exact .inl (by rw [Node.isSink, hout]; rfl)
  | cons p ps =>
    obtain ⟨i, hi⟩ := Node.isLinked_of_freePad? hfree (d := .output) (p := p) (by rw [Node.pads, hout]; simp)
    have hbound : i ∈ n.outputLinks := by
      rw [Node.outputLinks, hout]
      simp [hi]
    obtain ⟨pad, hpad⟩ := (mem_outputLinks ha).mp hbound
    obtain ⟨l, hl, hport⟩ := hw.pads hpad
    exact .inr ⟨l, List.mem_of_getElem? hl, congrArg Port.node hport⟩

/-! ## Converters -/

/-- A link is as it was, or one of the two beside a converter. -/
theorem Converted.link_cases (h : g.Converted origins added g') {j : Nat} {l' : Link} (hl' : g'.links[j]? = some l') :
    g.links[j]? = some l' ∨ ∃ i m l, origins[i]? = some m ∧ g.links[m]? = some l ∧
      (l' = { l with dst := g.nodes.length + i, dstPad := 0 } ∨
        l' = ⟨g.nodes.length + i, 0, l.dst, l.dstPad, .ofKind l.kind, .unconfigured⟩) := by
  have hlt := (List.getElem?_eq_some_iff.mp hl').1
  rw [h.links] at hlt
  by_cases hold : j < g.links.length
  · by_cases hm : j ∈ origins
    · obtain ⟨i, hi⟩ := List.mem_iff_getElem?.mp hm
      obtain ⟨l, hl, hup, -⟩ := h.spliced hi
      exact .inr ⟨i, j, l, hi, hl, .inl (Option.some.inj (hl'.symm.trans hup))⟩
    · exact .inl (by rw [← h.kept hold hm, hl'])
  · have hi : j - g.links.length < origins.length := by omega
    obtain ⟨l, hl, -, hdown⟩ := h.spliced (List.getElem?_eq_getElem hi)
    rw [Nat.add_sub_cancel' (by omega)] at hdown
    exact .inr ⟨_, _, l, List.getElem?_eq_getElem hi, hl, .inr (Option.some.inj (hl'.symm.trans hdown))⟩

/-- Ranks with room in between: a node that was there has twice its rank, and the one that came on a link of `origins`
has one more than twice that of the link's source. -/
def spacedRank (g : Graph) (rank : Nat → Nat) (origins : List Nat) (a : Nat) : Nat :=
  if a < g.nodes.length then 2 * rank a else 2 * ((origins[a - g.nodes.length]?).map (g.startRank rank)).getD 0 + 1

/-- A converter comes between the ranks of the nodes at the ends of its link. -/
theorem Converted.acyclic (h : g.Converted origins added g') (hw : g.Wired) (ha : g.Acyclic) : g'.Acyclic := by
  obtain ⟨rank, -, hrank⟩ := ha.exists_rank
  have old : ∀ {a}, a < g.nodes.length → g.spacedRank rank origins a = 2 * rank a := fun ha => if_pos ha
  have new : ∀ {i m l}, origins[i]? = some m → g.links[m]? = some l →
      g.spacedRank rank origins (g.nodes.length + i) = 2 * rank l.src + 1 := by
    intro i m l hi hl
    simp [spacedRank, hi, startRank_of_link hl]
  refine acyclic_of_rank (g.spacedRank rank origins) fun l' hl' => ?_
  obtain ⟨j, hj⟩ := List.mem_iff_getElem?.mp hl'
  rcases h.link_cases hj with hl | ⟨i, m, l, hi, hl, rfl | rfl⟩
  · have hsrc := old (hw.node_lt hl .output)
    have hdst := old (hw.node_lt hl .input)
    have hup := hrank l' (List.mem_of_getElem? hl)
    simp only [Link.port] at hsrc hdst
    omega
  · have hsrc := old (hw.node_lt hl .output)
    have hconv := new hi hl
    simp only [Link.port] at hsrc
    show g.spacedRank rank origins l.src < g.spacedRank rank origins (g.nodes.length + i)
    omega
  · have hdst := old (hw.node_lt hl .input)
    have hconv := new hi hl
    have hup := hrank l (List.mem_of_getElem? hl)
    simp only [Link.port] at hdst
    show g.spacedRank rank origins (g.nodes.length + i) < g.spacedRank rank origins l.dst
    omega

/-- A link still comes from where it came from, and one leads on from each converter. -/
theorem Converted.unblocked (h : g.Converted origins added g') (hu : g.Unblocked) : g'.Unblocked := by
  intro a n hn
  have hlt := (List.getElem?_eq_some_iff.mp hn).1
  rw [h.length_nodes] at hlt
  rcases Nat.lt_or_ge a g.nodes.length with hold | hnew
  · have hdetached := congrArg (fun ns => ns[a]?) h.nodes
    simp only [List.getElem?_map, hn, List.getElem?_append_left hold, List.getElem?_eq_getElem hold,
      Option.map_some, Option.some.injEq] at hdetached
    have hsink : n.isSink = (g.nodes[a]).isSink := by
      have houtputs := congrArg (fun n : Node => n.outputs.isEmpty) hdetached
      simpa [Node.detached, Node.isSink] using houtputs
    rcases hu a _ (List.getElem?_eq_getElem hold) with hs | ⟨l, hl, rfl⟩
    · exact .inl (hsink.trans hs)
    · obtain ⟨m, hm⟩ := List.mem_iff_getElem?.mp hl
      by_cases horigin : m ∈ origins
      · obtain ⟨i, hi⟩ := List.mem_iff_getElem?.mp horigin
        obtain ⟨k, hk, hup, -⟩ := h.spliced hi
        obtain rfl := Option.some.inj (hm.symm.trans hk)
        exact .inr ⟨_, List.mem_of_getElem? hup, rfl⟩
      · have hkept := h.kept (List.getElem?_eq_some_iff.mp hm).1 horigin
        exact .inr ⟨l, List.mem_of_getElem? (hkept.trans hm), rfl⟩
  · have hi : a - g.nodes.length < origins.length := by omega
    obtain ⟨l, -, -, hdown⟩ := h.spliced (List.getElem?_eq_getElem hi)
    rw [Nat.add_sub_cancel' hnew] at hdown
    exact .inr ⟨_, List.mem_of_getElem? hdown, rfl⟩

end Graph

/-! ## Before links are configured -/

/-- No config hook was called since `s₀`, and no link is or was being configured. -/
structure Session.Idle (s₀ s : Session) : Prop where
  calls : ∃ calls : History, s.history = calls ++ s₀.history ∧ ∀ r ∈ calls, r.call.configures = false
  links : ∀ l ∈ s.graph.links, l.state = .unconfigured

namespace Session

variable {s₀ s t : Session}

theorem Idle.of_eq (h : Idle s₀ s) (hh : t.history = s.history) (hl : t.graph.links = s.graph.links) : Idle s₀ t :=
  ⟨by rw [hh]; exact h.calls, by rw [hl]; exact h.links⟩

theorem Idle.call (h : Idle s₀ s) {serial : Nat} {c : Call} (hc : c.configures = false)
    (hh : t.history = ⟨serial, c⟩ :: s.history) (hl : t.graph.links = s.graph.links) : Idle s₀ t := by
  obtain ⟨calls, hcalls, hidle⟩ := h.calls
  exact ⟨⟨⟨serial, c⟩ :: calls, by rw [hh, hcalls]; rfl, List.forall_mem_cons.mpr ⟨hc, hidle⟩⟩, hl ▸ h.links⟩

theorem Idle.splice (h : Idle s₀ s) {link node inPad outPad : Nat} {l : Link} {graph : Graph}
    (hs : s.graph.Spliced link node inPad outPad l graph) : Idle s₀ { s with graph } := by
  refine ⟨h.calls, fun k hk => ?_⟩
  obtain ⟨i, hi⟩ := List.mem_iff_getElem?.mp hk
  rcases hs.links_iff.mp hi with ⟨-, rfl⟩ | ⟨-, hi⟩ | ⟨-, rfl⟩
  · exact h.links l (List.mem_of_getElem? hs.found)
  · exact h.links k (List.mem_of_getElem? hi)
  · rfl

theorem Idle.mark (h : Idle s₀ s) (link : Nat) {f : Link → Link} (hf : ∀ l, (f l).state = l.state) :
    Idle s₀ { s with graph := s.graph.modifyLink link f } := by
  refine ⟨h.calls, fun k hk => ?_⟩
  obtain ⟨i, hi⟩ := List.mem_iff_getElem?.mp hk
  rw [Graph.getElem?_modifyLink] at hi
  split at hi
  · obtain ⟨l, hl, rfl⟩ := Option.map_eq_some_iff.mp hi
    rw [hf]
    exact h.links l (List.mem_of_getElem? hl)
  · exact h.links k (List.mem_of_getElem? hi)

theorem keeps_idle_create (type : String) (name args : Option String) (context : Option Context) :
    Keeps (Idle s₀) (create type name args context) := by
  refine keeps_bind (keeps_read _) fun found => ?_
  cases found with
  | none => exact keeps_fail _
  | some t =>
    refine keeps_bind (fun s h => h.call (c := .opened t.name) rfl rfl rfl) fun n => ?_
    refine keeps_bind (fun s h => h.call (c := .init args context _) rfl rfl rfl) fun made => ?_
    obtain ⟨node, answer⟩ := made
    cases answer with
    | done => exact fun s h => h.of_eq rfl rfl
    | refused r =>
      refine keeps_bind (fun s h => h.of_eq rfl rfl) fun _ => ?_
      exact keeps_bind (fun s h => h.call (c := .uninit) rfl rfl rfl) fun _ => keeps_fail _

end Session

theorem Negotiation.stable_idle (s₀ : Session) : Stable fun n => s₀.Idle n.session := by
  intro n n' hm h
  cases hm with
  | tell | plan | merge => exact h.of_eq rfl rfl
  | @refuse i node ds r hn hq | @answer i node ds hn hq =>
    obtain ⟨hg, -, hh⟩ := Session.asked_eq node n.session
    exact h.call rfl hh (congrArg Graph.links hg)
  | @create c kind plan hp => exact Session.keeps_idle_create plan.type (some plan.name) plan.args none _ h
  | splice hi =>
    obtain ⟨-, l, hs⟩ := Graph.insert_ok hi
    exact h.splice hs
  | reduce =>
    have hr := reduced_reduce n
    exact h.of_eq (by rw [hr.session]) (by rw [hr.graph])
  | pick => exact h.mark _ fun _ => rfl

namespace Session

open MediaGraph.Negotiation

variable {s t u : Session} {e : Error}

/-- Negotiating calls no config hook and configures no link, whether it fails or not. -/
theorem idle_negotiate (hu : ∀ l ∈ s.graph.links, l.state = .unconfigured) : Idle s (negotiate.run s).2 := by
  have keeps : Keeps (fun n : Negotiation => Idle s n.session) runPhases := keeps_runPhases (stable_idle s)
  exact keeps { session := s } ⟨⟨[], rfl, List.forall_mem_nil _⟩, hu⟩

/-! ## All links -/

/-- After a negotiation that ended well there are, formats apart, converters spliced into the graph it began with. -/
theorem converted_of_negotiate (hw : s.graph.Wired) (hn : negotiate.run s = (.ok (), t)) :
    t.graph.Wired ∧ ∃ g origins added, s.graph.Converted origins added g ∧ t.graph.nodes = g.nodes ∧
      ∀ i : Nat, (t.graph.links[i]?).map Link.port = (g.links[i]?).map Link.port := by
  obtain ⟨n₁, n₂, -, hm, ready, hg, merged, -, hout⟩ := run_ok hw (congrArg Prod.fst hn)
  have ht : s.negotiation.session = t := congrArg Prod.snd hn
  obtain ⟨origins, added, converting⟩ := (merge_meets ready.coherent.toAccounted).ok hm
  have converted := converting.graph
  rw [hg] at converted
  rw [← ht]
  exact ⟨merged.coherent.wired.of_ports hout.nodes hout.ports, _, origins, added, converted, hout.nodes, hout.ports⟩

/-- Negotiating closes no cycle and blocks no node. -/
theorem open_of_negotiate (hw : s.graph.Wired) (hfree : s.graph.freePad? = none) (ha : s.graph.Acyclic)
    (hn : negotiate.run s = (.ok (), t)) : t.graph.Acyclic ∧ t.graph.Unblocked := by
  obtain ⟨-, g, origins, added, converted, hnodes, hports⟩ := converted_of_negotiate hw hn
  exact ⟨(converted.acyclic hw ha).of_ports hports, (converted.unblocked (hw.unblocked hfree)).of_ports hnodes hports⟩

/-- Where there is no cycle and no node is blocked, configuring the links of a fresh graph leaves none out. -/
theorem configureLinks_all (hw : s.graph.Wired) (hu : ∀ l ∈ s.graph.links, l.state = .unconfigured)
    (ha : s.graph.Acyclic) (hon : s.graph.Unblocked) (hr : configureLinks.run s = (.ok (), t)) :
    t.graph.Acyclic ∧ ∀ l ∈ t.graph.links, l.state = .configured := by
  obtain ⟨order, hwalk, configured⟩ := configureLinks_total hw hu ha hon hr
  constructor
  · refine ha.of_ports fun i => ?_
    cases hl : s.graph.links[i]? with
    | none =>
      rw [List.getElem?_eq_none_iff] at hl
      rw [List.getElem?_eq_none (by rw [hwalk.size]; exact hl)]
    | some l =>
      obtain ⟨-, props, hk⟩ := configured i l hl
      rw [hk]
      rfl
  · intro k hk
    obtain ⟨i, hi⟩ := List.mem_iff_getElem?.mp hk
    have hlt := (List.getElem?_eq_some_iff.mp hi).1
    rw [hwalk.size] at hlt
    obtain ⟨-, props, hi'⟩ := configured i _ (List.getElem?_eq_getElem hlt)
    rw [Option.some.inj (hi.symm.trans hi')]

/-- The session a configuration hands to its last stage. -/
def negotiated (s : Session) : Session :=
  let t := (negotiate.run s.entered).2
  t.tell (.phase t.options.name .configLinks)

/-- Configuring a graph none of whose links were configured fails with the error of the stage that fails. If that is the
first, the graph is as it was and no filter is called; if it is the second, no config hook is called and no link is
configured. If no stage fails and there was no cycle, there is none after it, and every link is configured. -/
theorem configuration_complete (h : s.Reachable) (hu : ∀ l ∈ s.graph.links, l.state = .unconfigured) :
    (∀ e, (validate.run s).1 = .error e → (configure.run s).1 = .error e ∧ (configure.run s).2.graph = s.graph ∧
      (configure.run s).2.history = s.history) ∧
    ((validate.run s).1 = .ok () →
      (∀ e, (negotiate.run s.entered).1 = .error e → (configure.run s).1 = .error e ∧
        (∃ calls : History, (configure.run s).2.history = calls ++ s.history ∧
          ∀ r ∈ calls, r.call.configures = false) ∧
        ∀ l ∈ (configure.run s).2.graph.links, l.state = .unconfigured) ∧
      ((negotiate.run s.entered).1 = .ok () → ∀ e, (configureLinks.run s.negotiated).1 = .error e →
        (configure.run s).1 = .error e)) ∧
    ((configure.run s).1 = .ok () → s.graph.Acyclic →
      (configure.run s).2.graph.Acyclic ∧ ∀ l ∈ (configure.run s).2.graph.links, l.state = .configured) := by
  have hu' : ∀ l ∈ s.entered.graph.links, l.state = .unconfigured := by rw [graph_entered]; exact hu
  refine ⟨fun e he => configure_invalid he, fun hv => ⟨fun e he => ?_, fun hn e he => ?_⟩, fun hok ha => ?_⟩
  · obtain ⟨hr, hg, hh⟩ := configure_unnegotiated (t := (negotiate.run s.entered).2) hv (Prod.ext he rfl)
    obtain ⟨calls, hlinks⟩ := idle_negotiate hu'
    rw [hg, hh]
    rw [history_entered] at calls
    exact ⟨hr, calls, hlinks⟩
  · exact configure_unsettled (u := (configureLinks.run s.negotiated).2) hv (run_eq_of_ok hn) (Prod.ext he rfl)
  · obtain ⟨hfree, t, u, hn, hl, hg, -⟩ := configure_done hok
    have hw : s.entered.graph.Wired := by rw [graph_entered]; exact h.wired
    obtain ⟨acyclic, unblocked⟩ := open_of_negotiate hw (by rw [graph_entered]; exact hfree)
      (by rw [graph_entered]; exact ha) hn
    have hidle := idle_negotiate hu'
    rw [hn] at hidle
    rw [hg]
    exact configureLinks_all (s := t.tell (.phase t.options.name .configLinks)) (converted_of_negotiate hw hn).1
      hidle.links acyclic unblocked hl

/-- Also the links beside the scaler are configured. -/
theorem mismatched_complete :
    (∀ l ∈ Studio.mismatched.graph.links, l.state = .unconfigured) ∧ Studio.mismatched.graph.Acyclic ∧
      (configure.run Studio.mismatched).2.graph.links.length = 3 ∧
      (configure.run Studio.mismatched).2.graph.Acyclic ∧
      ∀ l ∈ (configure.run Studio.mismatched).2.graph.links, l.state = .configured := by
  have fresh : ∀ l ∈ Studio.mismatched.graph.links, l.state = .unconfigured := by decide +kernel
  have acyclic : Studio.mismatched.graph.Acyclic := Graph.acyclic_of_rank id (by decide +kernel)
  obtain ⟨-, -, complete⟩ := configuration_complete Studio.mismatched_reachable fresh
  exact ⟨fresh, acyclic, by decide +kernel, complete (by decide +kernel) acyclic⟩

end Session

end MediaGraph

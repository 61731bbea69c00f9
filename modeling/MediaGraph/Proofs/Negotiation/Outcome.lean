/-
  MediaGraph.Proofs.Negotiation.Outcome — what a negotiation that ended well comes to.

  Merging is where classes are settled; reducing and picking only choose within
  them (`Outcome`). From that:
  (1) the set merging leaves on a link has exactly the formats that were left for
      every pad of its class, in the order of one of those sets
      (`merged_set_is_class_intersection`);
  (2) negotiation ends well without a converter exactly where every class has a
      format in common (`negotiate_without_converter_iff`);
  (3) pads of one node that were left one set end up on links of one format, also
      where converters were spliced in around the node
      (`pads_left_one_set_share_format`).
-/

import MediaGraph.Proofs.Negotiation.Accounting
import MediaGraph.Proofs.Negotiation.Merging
import MediaGraph.Proofs.Negotiation.Picking
import MediaGraph.Proofs.Session.Reach

namespace MediaGraph

open MediaGraph.Action

/-- The negotiation as its last phase left it. -/
def Session.negotiation (s : Session) : Negotiation := (Negotiation.runPhases.run { session := s }).2

/-- The format of the link a pad is bound to. -/
def Graph.formatAt? (g : Graph) (p : Port) : Option Format :=
  g.bound? p >>= fun i => g.links[i]? >>= (·.props.format)

namespace Negotiation

variable {n n' m : Negotiation}

/-! ## From the end of merging on -/

/-- `m` is where a negotiation ended that was at `n` after merging. -/
structure Outcome (n m : Negotiation) : Prop where
  graph : m.session.graph.unformatted = n.session.graph.unformatted
  history : m.session.history = n.session.history
  converters : m.converters = n.converters
  surveys : m.surveys = n.surveys
  /-- One candidate is chosen of each set, for all links that hold it. -/
  format : ∃ chosen : Nat → Option Format, ∀ {i l}, m.session.graph.links[i]? = some l →
    ∃ id s f, n.arena.link i = ⟨some id, some id⟩ ∧ n.arena.get? id = some s ∧ f ∈ s ∧ chosen id = some f ∧
      l.props.format = some f

theorem Merged.outcome (h : Merged n) (hr : Reduced n n') (hp : pick.run n' = (.ok (), m)) : Outcome n m := by
  have hc := hr.counted h.coherent.counted
  have hl := hr.live h.coherent.live
  obtain ⟨hpick, hall⟩ := pick_ok (hr.graph ▸ h.coherent.wired) hc hl hp
  have graph : m.session.graph.unformatted = n.session.graph.unformatted := by rw [hpick.graph, hr.graph]
  have history : n'.session.history = n.session.history := by rw [hr.session]
  refine ⟨graph, hpick.history.trans history, hpick.converters.trans hr.converters, hpick.surveys.trans hr.surveys,
    fun id => n'.arena.get? id >>= FormatSet.first?, fun {i l} hi => ?_⟩
  have hport := Graph.ports_of_unformatted graph i
  rw [hi] at hport
  obtain ⟨k, hk, -⟩ := Option.map_eq_some_iff.mp hport.symm
  have hlt : i < n'.session.graph.links.length := by rw [hr.graph]; exact (List.getElem?_eq_some_iff.mp hk).1
  obtain ⟨id, hid⟩ := h.settled hk
  have hid' : n'.arena.link i = ⟨some id, some id⟩ := by rw [hr.link, hid]
  obtain ⟨f, hf, hformat⟩ := hpick.format hi (hall i hlt) (by rw [hid']; exact nofun)
  obtain ⟨id', hcur, t, ht, hfirst⟩ := choice?_eq_some.mp hf
  rw [hid'] at hcur
  cases hcur
  obtain ⟨u, hu, rfl⟩ := Arena.get?_eq_some.mp ht
  obtain ⟨v, hv, hpin⟩ := hr.slot_of hu
  exact ⟨id, v.set, f, hid, Arena.get?_of_slot? hv, hpin.subset (FormatSet.first?_mem hfirst),
    (congrArg (· >>= _) ht).trans hfirst, hformat⟩

/-- The phases of a run that ended well. -/
theorem run_split {s : Session} (hr : (Session.negotiate.run s).1 = .ok ()) :
    ∃ n₁ n₂, query.run { session := s } = (.ok (), n₁) ∧ merge.run n₁ = (.ok (), n₂) ∧
      pick.run { n₂.reducePasses.2 with
        session := n₂.reducePasses.2.session.tell (.reductionDone n₂.reducePasses.1) } = (.ok (), s.negotiation) := by
  have hrun : runPhases.run { session := s } = (.ok (), s.negotiation) := Prod.ext hr rfl
  obtain ⟨_, n₁, hq, h₁⟩ := run_bind_ok.mp hrun
  obtain ⟨_, n₂, hm, h₂⟩ := run_bind_ok.mp h₁
  obtain ⟨passes, n₃, hred, h₃⟩ := run_bind_ok.mp h₂
  obtain ⟨_, n₄, hnotice, hp⟩ := run_bind_ok.mp h₃
  cases hred
  cases hnotice
  exact ⟨n₁, n₂, hq, hm, hp⟩

theorem run_ok {s : Session} (h : s.graph.Wired) (hr : (Session.negotiate.run s).1 = .ok ()) :
    ∃ n₁ n₂, query.run { session := s } = (.ok (), n₁) ∧ merge.run n₁ = (.ok (), n₂) ∧
      Ready n₁ ∧ n₁.session.graph = s.graph ∧ Merged n₂ ∧ Advance n₁ n₂ ∧ Outcome n₂ s.negotiation := by
  obtain ⟨n₁, n₂, hq, hm, hp⟩ := run_split hr
  obtain ⟨ready, hg⟩ := query_ok h hq
  obtain ⟨merged, ha⟩ := merge_ok ready hm
  exact ⟨n₁, n₂, hq, hm, ready, hg, merged, ha, merged.outcome ((reduced_reduce n₂).tell _) hp⟩

namespace Outcome

variable (h : Outcome n m)
include h

theorem nodes : m.session.graph.nodes = n.session.graph.nodes := Graph.nodes_of_unformatted h.graph

theorem ports (i : Nat) : (m.session.graph.links[i]?).map Link.port = (n.session.graph.links[i]?).map Link.port :=
  Graph.ports_of_unformatted h.graph i

theorem left?_eq (p : Port) : m.left? p = n.left? p := by rw [left?, survey?, h.surveys]; rfl

theorem leftHandle?_eq (p : Port) : m.leftHandle? p = n.leftHandle? p := by rw [leftHandle?, survey?, h.surveys]; rfl

theorem bound?_eq (p : Port) : m.session.graph.bound? p = n.session.graph.bound? p := by
  simp only [Graph.bound?, Graph.padAt?, Graph.pad?, h.nodes]

theorem link_of {i : Nat} {l : Link} (hi : m.session.graph.links[i]? = some l) :
    ∃ k, n.session.graph.links[i]? = some k ∧ k.port = l.port := by
  have hport := h.ports i
  rw [hi] at hport
  exact Option.map_eq_some_iff.mp hport.symm

theorem link_to {i : Nat} {k : Link} (hi : n.session.graph.links[i]? = some k) :
    ∃ l, m.session.graph.links[i]? = some l ∧ l.port = k.port := by
  have hport := h.ports i
  rw [hi] at hport
  exact Option.map_eq_some_iff.mp hport

/-- The format of a link was left for every pad that holds its set. -/
theorem allows (hn : Merged n) {i : Nat} {l : Link} (hi : m.session.graph.links[i]? = some l) :
    ∃ f, l.props.format = some f ∧ ∀ d q, SameClass n (l.port d) q → n.Allows q f := by
  obtain ⟨chosen, hchosen⟩ := h.format
  obtain ⟨id, s, f, hid, hs, hf, -, hformat⟩ := hchosen hi
  obtain ⟨k, hk, hport⟩ := h.link_of hi
  refine ⟨f, hformat, fun d q hq => ?_⟩
  have hheld : n.held? (l.port d) = some id := by
    rw [← hport, hn.coherent.held?_port hk, hid]
    cases d <;> rfl
  exact (hn.coherent.members hheld hs f).mp hf q ((hn.class_iff hheld).mp hq)

/-- Pads that hold one set when merging ends are on links of one format. -/
theorem formatAt?_eq (hn : Merged n) {p q : Port} (hp : (m.session.graph.bound? p).isSome)
    (hq : (m.session.graph.bound? q).isSome) (hpq : n.held? p = n.held? q) :
    ∃ f, m.session.graph.formatAt? p = some f ∧ m.session.graph.formatAt? q = some f := by
  obtain ⟨chosen, hchosen⟩ := h.format
  have hat : ∀ {p : Port}, (m.session.graph.bound? p).isSome →
      ∃ id f, n.held? p = some id ∧ chosen id = some f ∧ m.session.graph.formatAt? p = some f := by
    intro p hp
    obtain ⟨i, hi⟩ := Option.isSome_iff_exists.mp hp
    obtain ⟨k, hk, -⟩ := hn.coherent.wired.pads (by rw [← h.bound?_eq]; exact hi)
    obtain ⟨l, hl, -⟩ := h.link_to hk
    obtain ⟨id, s, f, hid, -, -, hf, hformat⟩ := hchosen hl
    refine ⟨id, f, ?_, hf, ?_⟩
    · rw [held?_of_bound (n := n) (by rw [← h.bound?_eq]; exact hi), hid]
      cases p.direction <;> rfl
    · rw [Graph.formatAt?, hi]
      exact (congrArg (· >>= _) hl).trans hformat
  obtain ⟨i, f, hi, hf, hpf⟩ := hat hp
  obtain ⟨j, g, hj, hg, hqg⟩ := hat hq
  rw [hi, hj] at hpq
  cases hpq
  rw [hf] at hg
  cases hg
  exact ⟨f, hpf, hqg⟩

end Outcome

/-! ## The sets merging leaves -/

theorem merged_set_is_class_intersection {s : Session} {n₁ n₂ : Negotiation} (h : s.Reachable)
    (hq : query.run { session := s } = (.ok (), n₁)) (hm : merge.run n₁ = (.ok (), n₂)) {i : Nat} {l : Link}
    (hl : n₂.session.graph.links[i]? = some l) :
    ∃ id set, n₂.arena.link i = ⟨some id, some id⟩ ∧ n₂.arena.get? id = some set ∧
      (∀ d f, f ∈ set ↔ ∀ q, SameClass n₂ (l.port d) q → n₂.Allows q f) ∧
      ∃ q t, SameClass n₂ (l.port .output) q ∧ n₂.left? q = some t ∧ set.formats.Sublist t.formats := by
  obtain ⟨ready, -⟩ := query_ok h.wired hq
  obtain ⟨merged, -⟩ := merge_ok ready hm
  obtain ⟨id, hid⟩ := merged.settled hl
  have hheld : ∀ d, n₂.held? (l.port d) = some id := by
    intro d
    rw [merged.coherent.held?_port hl, hid]
    cases d <;> rfl
  obtain ⟨set, hset⟩ := merged.coherent.get?_of_held (hheld .output)
  refine ⟨id, set, hid, hset, fun d f => ?_, ?_⟩
  · rw [merged.coherent.members (hheld d) hset]
    exact forall_congr' fun q => imp_congr_left (merged.class_iff (hheld d)).symm
  · obtain ⟨q, t, hq, ht, hsub⟩ := merged.coherent.order (hheld .output) hset
    exact ⟨q, t, (merged.class_iff (hheld .output)).mpr hq, ht, hsub⟩

theorem mismatched_merged_set :
    ∃ n₁ n₂ l, query.run { session := Studio.mismatched } = (.ok (), n₁) ∧ merge.run n₁ = (.ok (), n₂) ∧
      n₂.session.graph.links[2]? = some l ∧
      ∃ id set, n₂.arena.link 2 = ⟨some id, some id⟩ ∧ n₂.arena.get? id = some set ∧
        (∀ d f, f ∈ set ↔ ∀ q, SameClass n₂ (l.port d) q → n₂.Allows q f) ∧
        ∃ q t, SameClass n₂ (l.port .output) q ∧ n₂.left? q = some t ∧ set.formats.Sublist t.formats := by
  have hq : (query.run { session := Studio.mismatched }).1 = .ok () := by decide +kernel
  have hm : (merge.run (query.run { session := Studio.mismatched }).2).1 = .ok () := by decide +kernel
  have hl : ((merge.run (query.run { session := Studio.mismatched }).2).2.session.graph.links[2]?).isSome := by
    decide +kernel
  obtain ⟨l, hl⟩ := Option.isSome_iff_exists.mp hl
  exact ⟨_, _, l, run_eq_of_ok hq, run_eq_of_ok hm, hl,
    merged_set_is_class_intersection Studio.mismatched_reachable (run_eq_of_ok hq) (run_eq_of_ok hm) hl⟩

/-! ## Converters -/

/-- Where every class has a format in common, no set is empty after merging. -/
theorem Satisfiable.nonempty (hs : Satisfiable n) (h : Merged n) {id : Nat} {t : Shared}
    (ht : n.arena.slot? id = some t) : ∃ f, f ∈ t.set := by
  obtain ⟨i, side, hi⟩ := h.coherent.counted.held ht
  obtain ⟨l, hl⟩ : ∃ l, n.session.graph.links[i]? = some l := ⟨_, List.getElem?_eq_getElem (h.coherent.known hi)⟩
  obtain ⟨d, hd⟩ : ∃ d : Direction, d.side = side := by
    cases side
    · exact ⟨.output, rfl⟩
    · exact ⟨.input, rfl⟩
  obtain ⟨f, hf⟩ := hs _ (List.mem_of_getElem? hl) d
  have hheld : n.held? (l.port d) = some id := by rw [h.coherent.held?_port hl, hd, hi]
  exact ⟨f, (h.coherent.members hheld (Arena.get?_of_slot? ht) f).mpr fun q hq => hf q ((h.class_iff hheld).mpr hq)⟩

/-- Where every class has a format in common a negotiation ends well, and changes nothing of the graph but formats. -/
theorem Satisfiable.negotiate {s : Session} (hs : Satisfiable n) (hw : s.graph.Wired)
    (hq : query.run { session := s } = (.ok (), n)) :
    (Session.negotiate.run s).1 = .ok () ∧ (Session.negotiate.run s).2.graph.unformatted = s.graph.unformatted := by
  obtain ⟨ready, hg⟩ := query_ok hw hq
  obtain ⟨n₂, hm, hg₂, hv₂⟩ := merge_total hs ready
  obtain ⟨merged, -⟩ := merge_ok ready hm
  have hr := (reduced_reduce n₂).tell (.reductionDone n₂.reducePasses.1)
  obtain ⟨m, hp⟩ := pick_total (hr.counted merged.coherent.counted) (hr.live merged.coherent.live)
    (fun {id t} ht => by
      obtain ⟨u, hu, rfl⟩ := Arena.get?_eq_some.mp ht
      obtain ⟨v, hv, hpin⟩ := hr.slot_of hu
      obtain ⟨f, hf⟩ := hpin.nonempty.mpr ((hs.congr hg₂ hv₂).nonempty merged hv)
      exact FormatSet.first?_isSome_iff.mpr ⟨f, hf⟩)
  have hrun : runPhases.run { session := s } = (.ok (), m) := by
    refine run_bind_ok.mpr ⟨(), n, hq, run_bind_ok.mpr ⟨(), n₂, hm, ?_⟩⟩
    exact run_bind_ok.mpr ⟨_, _, rfl, run_bind_ok.mpr ⟨(), _, rfl, hp⟩⟩
  have hneg : Session.negotiate.run s = (.ok (), m.session) := by
    show ((runPhases.run { session := s }).1, (runPhases.run { session := s }).2.session) = _
    rw [hrun]
  rw [hneg]
  exact ⟨rfl, by rw [(merged.outcome hr hp).graph, hg₂, hg]⟩

/-- A negotiation ends well, and without a converter, exactly where every class has a format that was left for all of
its pads. -/
theorem negotiate_without_converter_iff {s : Session} (h : s.Reachable)
    (hq : query.run { session := s } = (.ok (), n)) :
    ((Session.negotiate.run s).1 = .ok () ∧ (Session.negotiate.run s).2.graph.nodes.length = s.graph.nodes.length) ↔
      Satisfiable n := by
  constructor
  · intro hneg
    obtain ⟨hok, hlen⟩ := hneg
    obtain ⟨n₁, n₂, hq', -, -, hg, merged, ha, hout⟩ := run_ok h.wired hok
    cases hq.symm.trans hq'
    obtain ⟨hg₂, hv₂⟩ : n₂.session.graph = n.session.graph ∧ n₂.surveys = n.surveys := by
      refine ha.nodes.resolve_left fun hlt => ?_
      have : s.negotiation.session.graph.nodes.length = s.graph.nodes.length := hlen
      rw [hout.nodes] at this
      rw [hg] at hlt
      omega
    refine Satisfiable.congr (fun l hl d => ?_) hg₂.symm hv₂.symm
    obtain ⟨i, hi⟩ := List.mem_iff_getElem?.mp hl
    obtain ⟨k, hk, hport⟩ := hout.link_to hi
    obtain ⟨f, -, hf⟩ := hout.allows merged hk
    exact ⟨f, fun q hq => hf d q (by rw [hport]; exact hq)⟩
  · intro hs
    obtain ⟨hok, hg⟩ := hs.negotiate h.wired hq
    exact ⟨hok, congrArg List.length (Graph.nodes_of_unformatted hg)⟩

theorem matched_satisfiable : Satisfiable (query.run { session := Studio.matched }).2 :=
  (negotiate_without_converter_iff Studio.matched_reachable (run_eq_of_ok (by decide +kernel))).mp
    ⟨by decide +kernel, by decide +kernel⟩

/-! ## Pads left one set -/

/-- One query left the same set for both pads. -/
def LeftAlike (n : Negotiation) (p q : Port) : Prop :=
  p.node = q.node ∧ ∃ id, n.leftHandle? p = some id ∧ n.leftHandle? q = some id

/-- A pad of the kind of a filter that said nothing about its formats. -/
def PassesThrough (n : Negotiation) (p : Port) : Prop :=
  ∃ s, n.survey? p.node = some s ∧ s.declared = [s.asked.layout.passThrough] ∧
    ∃ pad, (s.asked.pads p.direction)[p.pad]? = some pad ∧ pad.kind = s.asked.layout.kind

/-- A filter that says nothing leaves one set for all bound pads of its kind. -/
theorem Coherent.leftAlike_of_passThrough (h : Coherent n) {p q : Port} (hpq : p.node = q.node) (hp : n.PassesThrough p)
    (hq : n.PassesThrough q) (hp' : (n.leftHandle? p).isSome) (hq' : (n.leftHandle? q).isSome) : n.LeftAlike p q := by
  obtain ⟨s, hs, hds, pad, hpad, hkind⟩ := hp
  obtain ⟨a, hbare, ha⟩ := h.origin (List.mem_of_find?_eq_some hs)
  have single : ∀ {q : Port} {pad : Pad}, q.node = p.node → (s.asked.pads q.direction)[q.pad]? = some pad →
      pad.kind = s.asked.layout.kind → (n.leftHandle? q).isSome → n.leftHandle? q = some a.slots.length := by
    intro q pad hnode hpad hkind hq
    rw [leftHandle?, hnode, hs] at hq ⊢
    simp only [Option.bind_eq_bind, Option.bind_some, Survey.handle?, hpad] at hq ⊢
    cases hl : pad.link with
    | none => rw [hl] at hq; cases hq
    | some l =>
      rw [Option.bind_some, ha, hds]
      exact Arena.held_passThrough hbare (List.mem_of_getElem? hpad) hkind hl
  obtain ⟨s', hs', -, pad', hpad', hkind'⟩ := hq
  rw [← hpq, hs] at hs'
  cases hs'
  exact ⟨hpq, a.slots.length, single rfl hpad hkind hp', single hpq.symm hpad' hkind' hq'⟩

theorem pads_left_one_set_share_format {s : Session} (h : s.Reachable) (hok : (Session.negotiate.run s).1 = .ok ())
    {p q : Port} (hp : ((Session.negotiate.run s).2.graph.bound? p).isSome)
    (hq : ((Session.negotiate.run s).2.graph.bound? q).isSome)
    (hpq : s.negotiation.LeftAlike p q ∨
      p.node = q.node ∧ s.negotiation.PassesThrough p ∧ s.negotiation.PassesThrough q) :
    ∃ f, (Session.negotiate.run s).2.graph.formatAt? p = some f ∧
      (Session.negotiate.run s).2.graph.formatAt? q = some f := by
  obtain ⟨n₁, n₂, -, -, -, -, merged, -, hout⟩ := run_ok h.wired hok
  have asked : ∀ {p}, (s.negotiation.session.graph.bound? p).isSome → (n₂.leftHandle? p).isSome := by
    intro p hp
    rw [hout.bound?_eq] at hp
    obtain ⟨i, hi⟩ := Option.isSome_iff_exists.mp hp
    exact (merged.coherent.handle p).mpr (merged.held_isSome hi)
  have alike : n₂.LeftAlike p q := by
    rcases hpq with ⟨hnode, id, hpid, hqid⟩ | ⟨hnode, hpt, hqt⟩
    · rw [hout.leftHandle?_eq] at hpid hqid
      exact ⟨hnode, id, hpid, hqid⟩
    · simp only [PassesThrough, survey?, hout.surveys] at hpt hqt
      exact merged.coherent.leftAlike_of_passThrough hnode hpt hqt (asked hp) (asked hq)
  obtain ⟨hnode, id, hpid, hqid⟩ := alike
  exact hout.formatAt?_eq merged hp hq (merged.coherent.together hnode hpid hqid)

/-- The overlay passes one format through, though a converter stands between it and the screen. -/
theorem mismatched_overlay_shares_format :
    ∃ f, (Session.negotiate.run Studio.mismatched).2.graph.formatAt? ⟨1, .input, 0⟩ = some f ∧
      (Session.negotiate.run Studio.mismatched).2.graph.formatAt? ⟨1, .output, 0⟩ = some f :=
  pads_left_one_set_share_format Studio.mismatched_reachable (by decide +kernel) (by decide +kernel) (by decide +kernel)
    (Or.inl ⟨rfl, 1, by decide +kernel, by decide +kernel⟩)

end Negotiation

end MediaGraph

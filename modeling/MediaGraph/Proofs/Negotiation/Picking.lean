/-
  MediaGraph.Proofs.Negotiation.Picking — each link gets the first format of its set.

  Picking one link pins its set for every other link that still holds it, and the
  one candidate left is the one that was first: `choice?`, the format a link is
  about to get, stays what it was when picking began (`Picking.first`). So in
  whatever order the links are met, each gets the choice it had at the start
  (`pick_ok`), and picking ends well where every live set has a candidate
  (`pick_total`).
-/

import MediaGraph.Proofs.Negotiation.Counting
import MediaGraph.Proofs.Negotiation.Steps

namespace MediaGraph

open MediaGraph.Action

namespace Arena

variable {a : Arena} {id : Nat}

/-! ## Letting go keeps the sets that stay -/

theorem get?_release {l j : Nat} {s : FormatSet} (h : (a.release l).get? j = some s) : a.get? j = some s := by
  rw [release] at h
  have h' : (a.setLink l {}).get? j = some s := get?_drop? (get?_drop? h)
  exact h'

theorem pin?_of_mem {s : Shared} {f : Format} (hs : a.slot? id = some s) (hf : f ∈ s.set) :
    ∃ t, a.pin? id f = some (a.setSlot id (some t)) ∧ t.refs = s.refs ∧ t.set.formats = [f] := by
  obtain ⟨set, hp⟩ : ∃ set, s.set.pin? f = some set := by
    rw [FormatSet.pin?, dif_pos hf]
    exact ⟨_, rfl⟩
  exact ⟨{ s with set }, by rw [pin?, hs]; simp [hp], rfl, (FormatSet.pin?_eq_some_iff.mp hp).2.2⟩

end Arena

namespace Negotiation

variable {n m m' : Negotiation}

/-- The format picking leaves on a link: the first of the set that stands for it. -/
def choice? (n : Negotiation) (link : Nat) : Option Format := n.arena.linkSet? link >>= FormatSet.first?

theorem choice?_eq_some {link : Nat} {f : Format} :
    n.choice? link = some f ↔
      ∃ id, (n.arena.link link).current = some id ∧ ∃ s, n.arena.get? id = some s ∧ s.first? = some f := by
  simp only [choice?, Arena.linkSet?, Option.bind_eq_bind, Option.bind_eq_some_iff]
  exact ⟨fun ⟨s, ⟨id, hc, hs⟩, hf⟩ => ⟨id, hc, s, hs, hf⟩, fun ⟨id, hc, s, hs, hf⟩ => ⟨s, ⟨id, hc, hs⟩, hf⟩⟩

/-! ## The links picked so far -/

/-- `m` comes from `n` by picking some of the links. -/
structure Picking (n m : Negotiation) : Prop where
  graph : m.session.graph.unformatted = n.session.graph.unformatted
  history : m.session.history = n.session.history
  converters : m.converters = n.converters
  surveys : m.surveys = n.surveys
  counted : m.arena.Counted []
  live : m.arena.Live []
  first : ∀ {id s}, m.arena.get? id = some s → ∃ t, n.arena.get? id = some t ∧ s.first? = t.first?
  link : ∀ i, m.arena.link i = n.arena.link i ∨
    m.arena.link i = {} ∧ ∃ f, n.choice? i = some f ∧ ∀ l, m.session.graph.links[i]? = some l → l.props.format = some f

theorem picking_refl (hc : n.arena.Counted []) (hl : n.arena.Live []) : Picking n n :=
  ⟨rfl, rfl, rfl, rfl, hc, hl, fun {_ s} hs => ⟨s, hs, rfl⟩, fun _ => Or.inl rfl⟩

theorem Picking.nodes (h : Picking n m) : m.session.graph.nodes = n.session.graph.nodes :=
  Graph.nodes_of_unformatted h.graph

theorem Ends.eq_empty_of_current {e : Ends} (h : e.current = none) : e = {} := by
  rcases e with ⟨_ | _, _ | _⟩
  · rfl
  · cases h
  · cases h
  · cases h

/-- The link is picked, if it was not yet; the others keep what they hold. -/
structure Picked (n m : Negotiation) (link : Nat) (m' : Negotiation) : Prop where
  picking : Picking n m'
  released : m'.arena.link link = {}
  others : ∀ {i}, m.arena.link i = {} → m'.arena.link i = {}

/-- A link not picked yet is about to get the choice it had at the start. -/
theorem Picking.choice (h : Picking n m) {link id : Nat} {s : FormatSet} {format : Format}
    (hc : (m.arena.link link).current = some id) (hs : m.arena.get? id = some s) (hf : s.first? = some format) :
    n.choice? link = some format := by
  rcases h.link link with e | ⟨e, -⟩
  · obtain ⟨v, hv, hfirst⟩ := h.first hs
    exact choice?_eq_some.mpr ⟨id, by rw [← e]; exact hc, v, hv, by rw [← hfirst]; exact hf⟩
  · rw [e] at hc
    cases hc

/-- Pinning a set to its first candidate, and letting one of its links go with that format. -/
theorem Picking.pick (h : Picking n m) {link id : Nat} {s : FormatSet} {format : Format} (session : Session)
    (hc : (m.arena.link link).current = some id) (hs : m.arena.get? id = some s) (hf : s.first? = some format)
    (hg : session.graph = m.session.graph.modifyLink link fun l => { l with props := { l.props with format } })
    (hh : session.history = m.session.history) :
    Picked n m link { m with session, arena := ((m.arena.pin? id format).getD m.arena).release link } := by
  obtain ⟨u, hu, rfl⟩ := Arena.get?_eq_some.mp hs
  obtain ⟨t, hp, hrefs, hformats⟩ := Arena.pin?_of_mem hu (FormatSet.first?_mem hf)
  rw [hp, Option.getD_some]
  have hslot := Arena.slot?_rewrite hu t
  have counted := h.counted.rewrite hu hrefs
  have live := h.live.rewrite hu t
  have links : ∀ i : Nat, session.graph.links[i]? = _ := fun i => by rw [hg, Graph.getElem?_modifyLink]
  refine ⟨⟨?graph, hh.trans h.history, h.converters, h.surveys, counted.release link, live.release counted link, ?first,
    ?handles⟩, by rw [Arena.link_release, if_pos rfl], ?others⟩
  case graph =>
    rw [← h.graph, hg]
    exact Graph.unformatted_modifyLink _ _ fun _ => rfl
  case first =>
    intro j v hv
    obtain ⟨w, hw, rfl⟩ := Arena.get?_eq_some.mp (Arena.get?_release hv)
    rw [hslot] at hw
    split at hw
    · rename_i e
      cases hw
      obtain ⟨x, hx, hfirst⟩ := h.first hs
      refine ⟨x, by rw [e]; exact hx, ?_⟩
      rw [← hfirst, hf, FormatSet.first?, hformats]
      rfl
    · exact h.first (Arena.get?_of_slot? hw)
  case handles =>
    intro i
    show Arena.link _ i = _ ∨ Arena.link _ i = _ ∧ _
    rw [Arena.link_release]
    by_cases e : link = i
    · subst e
      refine Or.inr ⟨if_pos rfl, format, h.choice hc hs hf, fun l hl => ?_⟩
      rw [links, if_pos rfl] at hl
      obtain ⟨k, -, rfl⟩ := Option.map_eq_some_iff.mp hl
      rfl
    · rw [if_neg e]
      rcases h.link i with hi | ⟨hi, f, hf, hl⟩
      · exact Or.inl hi
      · refine Or.inr ⟨hi, f, hf, fun l hl' => hl l ?_⟩
        rw [links, if_neg e] at hl'
        exact hl'
  case others =>
    intro i hi
    show Arena.link _ i = _
    rw [Arena.link_release]
    split
    · rfl
    · exact hi

/-- A pick that ends well finds the link picked already, or gives it the first candidate of the set it holds. -/
theorem run_pickLink_ok {link : Nat} (hr : (pickLink link).run m = (.ok (), m')) :
    ((m.arena.link link).current = none ∧ m' = m) ∨
      ∃ id s format, (m.arena.link link).current = some id ∧ m.arena.get? id = some s ∧ s.first? = some format ∧
        m' = { m with
          session := { m.session with
            graph := m.session.graph.modifyLink link fun l => { l with props := { l.props with format } } }.tell
              (.picked link format)
          arena := ((m.arena.pin? id format).getD m.arena).release link } := by
  rw [run_pickLink] at hr
  cases hc : (m.arena.link link).current with
  | none =>
    rw [hc] at hr
    cases hr
    exact .inl ⟨rfl, rfl⟩
  | some id =>
    rw [hc] at hr
    simp only at hr
    cases hf : m.arena.get? id >>= FormatSet.first? with
    | none =>
      rw [hf] at hr
      obtain ⟨l, n₁, -, hr⟩ := run_bind_ok.mp hr
      obtain ⟨src, n₂, -, hr⟩ := run_bind_ok.mp hr
      obtain ⟨dst, n₃, -, hr⟩ := run_bind_ok.mp hr
      cases hr
    | some format =>
      rw [hf] at hr
      cases hr
      obtain ⟨s, hs, hfirst⟩ := Option.bind_eq_some_iff.mp hf
      exact .inr ⟨id, s, format, rfl, hs, hfirst, rfl⟩

theorem pickLink_ok (h : Picking n m) {link : Nat} (hr : (pickLink link).run m = (.ok (), m')) :
    Picked n m link m' := by
  rcases run_pickLink_ok hr with ⟨hc, rfl⟩ | ⟨id, s, format, hc, hs, hf, rfl⟩
  · exact ⟨h, Ends.eq_empty_of_current hc, fun hi => hi⟩
  · exact h.pick _ hc hs hf rfl rfl

/-- A link with a candidate left, or picked already, is picked without failure. -/
theorem pickLink_total (h : Picking n m) (hn : ∀ {id s}, n.arena.get? id = some s → s.first?.isSome) (link : Nat) :
    ∃ m', (pickLink link).run m = (.ok (), m') := by
  rw [run_pickLink]
  cases hc : (m.arena.link link).current with
  | none => exact ⟨m, rfl⟩
  | some id =>
    obtain ⟨side, hside⟩ := Ends.get_of_current hc
    obtain ⟨t, ht⟩ := Option.isSome_iff_exists.mp (h.live.held hside)
    have hs := Arena.get?_of_slot? ht
    obtain ⟨u, hu, hfirst⟩ := h.first hs
    obtain ⟨format, hf⟩ := Option.isSome_iff_exists.mp (hn hu)
    rw [← hfirst] at hf
    have : m.arena.get? id >>= FormatSet.first? = some format := by rw [hs]; exact hf
    simp only [this]
    exact ⟨_, rfl⟩

/-! ## All links -/

/-- Both ends of the link have let go. -/
def Released (m : Negotiation) (i : Nat) : Prop := m.arena.link i = {}

/-- So have the ends of all links that `n` has into node `k`. -/
def ReleasedInto (n : Negotiation) (k : Nat) (m : Negotiation) : Prop :=
  ∀ i l, n.session.graph.links[i]? = some l → l.dst = k → m.Released i

/-- After picking at a node, every link at one of its pads is picked. -/
theorem pickNode_ok (h : Picking n m) {k : Nat} (hr : (pickNode k).run m = (.ok (), m')) :
    Picking n m' ∧ (∀ i, m.Released i → m'.Released i) ∧ ∃ node, m.session.graph.nodes[k]? = some node ∧
      ∀ i ∈ node.inputLinks ++ node.outputLinks, m'.Released i := by
  obtain ⟨node, m₁, hn, hr⟩ := run_bind_ok.mp hr
  obtain ⟨s, hs, rfl⟩ := run_onPart_ok.mp hn
  obtain ⟨hk, rfl⟩ := run_expect_ok.mp hs
  have step : ∀ i ∈ node.inputLinks ++ node.outputLinks, ∀ x x', Picking n x → (pickLink i).run x = (.ok (), x') →
      Picking n x' ∧ x'.Released i ∧ ∀ j, x.Released j → x'.Released j := by
    intro i _ x x' hx hr
    have hp := pickLink_ok hx hr
    exact ⟨hp.picking, hp.released, fun _ => hp.others⟩
  obtain ⟨hx, hdone, hkeep⟩ := forM_each (D := fun i x => Released x i) step m m' h hr
  exact ⟨hx, hkeep, node, hk, hdone⟩

/-- Every link is met at the node it leads to. -/
theorem pick_ok (hw : n.session.graph.Wired) (hc : n.arena.Counted []) (hl : n.arena.Live [])
    (hr : pick.run n = (.ok (), m)) :
    Picking n m ∧ ∀ i < n.session.graph.links.length, m.arena.link i = {} := by
  obtain ⟨count, n₁, hcount, hr⟩ := run_bind_ok.mp hr
  cases hcount
  have step : ∀ k ∈ List.range n.session.graph.nodes.length, ∀ x x', Picking n x → (pickNode k).run x = (.ok (), x') →
      Picking n x' ∧ ReleasedInto n k x' ∧ ∀ j, ReleasedInto n j x → ReleasedInto n j x' := by
    intro k _ x x' hx hr
    obtain ⟨hx', hkeep, node, hk, hat⟩ := pickNode_ok hx hr
    refine ⟨hx', fun i l hi hd => hat i (List.mem_append_left _ ?_), fun j hj i l hi hd => hkeep i (hj i l hi hd)⟩
    rw [hx.nodes] at hk
    have hb := hw.ends hi .input
    rw [Link.port, hd] at hb
    exact (Graph.mem_inputLinks hk).mpr ⟨l.dstPad, hb⟩
  obtain ⟨hx, hdone, -⟩ := forM_each step n m (picking_refl hc hl) hr
  refine ⟨hx, fun i hi => ?_⟩
  have hi := List.getElem?_eq_getElem hi
  exact hdone _ (List.mem_range.mpr (Graph.node_lt_of_bound (hw.ends hi .input))) i _ hi rfl

/-- A link that held something has the choice it had at the start. -/
theorem Picking.format (h : Picking n m) {i : Nat} {l : Link} (hi : m.session.graph.links[i]? = some l)
    (hm : m.arena.link i = {}) (hn : n.arena.link i ≠ {}) : ∃ f, n.choice? i = some f ∧ l.props.format = some f := by
  rcases h.link i with e | ⟨-, f, hf, hl⟩
  · exact absurd (e.symm.trans hm) hn
  · exact ⟨f, hf, hl l hi⟩

/-- A node that is there is picked at, whatever was picked before. -/
theorem pickNode_total (hn : ∀ {id s}, n.arena.get? id = some s → s.first?.isSome) (h : Picking n m) {k : Nat}
    (hk : k < n.session.graph.nodes.length) : ∃ m', (pickNode k).run m = (.ok (), m') ∧ Picking n m' := by
  have hkm : m.session.graph.nodes[k]? = some n.session.graph.nodes[k] := by
    rw [h.nodes]
    exact List.getElem?_eq_getElem hk
  have step : ∀ i ∈ n.session.graph.nodes[k].inputLinks ++ n.session.graph.nodes[k].outputLinks, ∀ x, Picking n x →
      ∃ x', (pickLink i).run x = (.ok (), x') ∧ Picking n x' := by
    intro i _ x hx
    obtain ⟨x', hr⟩ := pickLink_total hx hn i
    exact ⟨x', hr, (pickLink_ok hx hr).picking⟩
  obtain ⟨m', hr, hm'⟩ := forM_total step m h
  refine ⟨m', run_bind_ok.mpr ⟨_, m, ?_, hr⟩, hm'⟩
  exact run_onPart_ok.mpr ⟨m.session, run_expect_ok.mpr ⟨hkm, rfl⟩, rfl⟩

theorem pick_total (hc : n.arena.Counted []) (hl : n.arena.Live [])
    (hn : ∀ {id s}, n.arena.get? id = some s → s.first?.isSome) : ∃ m, pick.run n = (.ok (), m) := by
  obtain ⟨m, hr, -⟩ := forM_total (fun k hk _ hx => pickNode_total hn hx (List.mem_range.mp hk)) n (picking_refl hc hl)
  exact ⟨m, run_bind_ok.mpr ⟨_, n, rfl, hr⟩⟩

end Negotiation

end MediaGraph

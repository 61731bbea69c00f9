/-
  MediaGraph.Proofs.Negotiation.Accounting — the records are right at any time.

  Every step of a negotiation keeps the graph wired, the sets counted and alive, and
  handles at links that exist (`Step.accounted`). So they are whatever phases were
  called before, in any order and after any failure. Where they are, querying and
  picking look for no node and no link that is not there (`query_meets`,
  `pick_meets`).
-/

import MediaGraph.Proofs.Negotiation.Coherence
import MediaGraph.Proofs.Negotiation.Steps

namespace MediaGraph

open MediaGraph.Action

namespace Arena

variable {a : Arena} {t : Nat}

theorem Counted.pin (h : a.Counted []) (id : Nat) (f : Format) : ((a.pin? id f).getD a).Counted [] := by
  cases hp : a.pin? id f with
  | none => exact h
  | some b =>
    obtain ⟨s, u, hs, -, hu, -, -, rfl⟩ := pin?_eq_some hp
    exact h.rewrite hs hu

theorem LiveAt.pin (h : a.LiveAt [] t) (id : Nat) (f : Format) : ((a.pin? id f).getD a).LiveAt [] t := by
  cases hp : a.pin? id f with
  | none => exact h
  | some b =>
    obtain ⟨s, u, hs, -, -, -, -, rfl⟩ := pin?_eq_some hp
    exact h.rewrite hs u

end Arena

namespace Negotiation

variable {n n' m : Negotiation}

/-! ## Steps -/

theorem Reduced.counted (h : Reduced n n') (hc : n.arena.Counted []) : n'.arena.Counted [] := by
  refine hc.of_refs h.links h.slots fun ht => ?_
  obtain ⟨s, hs, hp⟩ := h.slot_of ht
  exact ⟨s, hs, hp.refs⟩

theorem Reduced.live (h : Reduced n n') (hl : n.arena.Live []) : n'.arena.Live [] := by
  refine hl.of_slots h.links fun hs => ?_
  obtain ⟨s, hs⟩ := Option.isSome_iff_exists.mp hs
  obtain ⟨t, ht, -⟩ := h.slot hs
  rw [ht]
  rfl

theorem Reduced.tell (h : Reduced n n') (notice : Notice) :
    Reduced n { n' with session := n'.session.tell notice } :=
  ⟨by rw [Session.tell, h.session], h.converters, h.surveys, h.links, h.slots, h.gone, h.slot⟩

theorem Reduced.link (h : Reduced n n') (l : Nat) : n'.arena.link l = n.arena.link l := by
  rw [Arena.link, Arena.link, h.links]

theorem Accounted.release (h : Accounted n) {graph : Graph} (hg : graph.Wired)
    (hl : n.session.graph.links.length ≤ graph.links.length) (link : Nat) :
    Accounted { n with session := { n.session with graph }, arena := n.arena.release link } := by
  refine ⟨hg, h.counted.release link, h.live.release h.counted link, ?_⟩
  intro l side id hid
  have hid : ((n.arena.release link).link l).get side = some id := hid
  rw [Arena.link_release] at hid
  split at hid
  · cases side <;> cases hid
  · exact Nat.lt_of_lt_of_le (h.known hid) hl

theorem Accounted.pin (h : Accounted n) (id : Nat) (format : Format) :
    Accounted { n with arena := (n.arena.pin? id format).getD n.arena } :=
  ⟨h.wired, h.counted.pin id format, fun t => Arena.LiveAt.pin (h.live t) id format, by
    simp only [Arena.link_pin]
    exact h.known⟩

theorem Step.accounted (hs : Step n n') (h : Accounted n) : Accounted n' := by
  cases hs with
  | aside c ha => exact ⟨ha.graph ▸ h.wired, h.counted, h.live, by rw [ha.graph]; exact h.known⟩
  | declare ds hn => exact h.declareAll hn ds
  | fill ds hn =>
    have hf := h.fillBare hn
    exact ⟨hf.wired, hf.counted, hf.live, hf.known⟩
  | create ha => exact h.create ha.unbound ha.graph n.converters
  | splice hi =>
    obtain ⟨rfl, l, hs⟩ := Graph.insert_ok hi
    exact h.splice hs
  | merge hl hm => exact (h.merge_ends hl hm).1
  | reduce hr =>
    refine ⟨hr.graph ▸ h.wired, hr.counted h.counted, hr.live h.live, ?_⟩
    rw [hr.graph]
    intro l
    rw [hr.link]
    exact h.known
  | @pick link id format hc hf =>
    refine (h.pin id format).release ?_ ?_ link
    · exact h.wired.modifyLink link fun _ => rfl
    · simp [Graph.modifyLink]

theorem Steps.accounted (hs : Steps n n') (h : Accounted n) : Accounted n' := by
  induction hs with
  | refl => exact h
  | tail _ hs ih => exact hs.accounted ih

/-! ## Look-ups -/

theorem run_onSession {α : Type} {x : Action Session α} {r : Except Error α} {session : Session}
    (hx : x.run n.session = (r, session)) : (onSession x).run n = (r, { n with session }) := by
  rw [onSession, run_onPart, hx]

theorem run_nodeAt {i : Nat} {node : Node} (hn : n.session.graph.nodes[i]? = some node) :
    (onSession (Session.nodeAt i)).run n = (.ok node, n) := run_onSession (Session.run_nodeAt hn)

theorem run_linkAt {i : Nat} {l : Link} (hl : n.session.graph.links[i]? = some l) :
    (onSession (Session.linkAt i)).run n = (.ok l, n) := run_onSession (Session.run_linkAt hl)

/-- The nodes at the ends of a link are there. -/
theorem Accounted.run_ends (h : Accounted n) {i : Nat} {l : Link} (hl : n.session.graph.links[i]? = some l) :
    ∃ src dst, (onSession (Session.nodeAt l.src)).run n = (.ok src, n) ∧
      (onSession (Session.nodeAt l.dst)).run n = (.ok dst, n) := by
  obtain ⟨src, hsrc⟩ := h.wired.exists_node hl .output
  obtain ⟨dst, hdst⟩ := h.wired.exists_node hl .input
  exact ⟨src, dst, run_nodeAt hsrc, run_nodeAt hdst⟩

/-! ## Querying and picking -/

/-- A query of a node that is there fails only where the filter refuses. -/
theorem queryNode_meets {i : Nat} {node : Node} (hn : n.session.graph.nodes[i]? = some node) :
    Meets (queryNode i) n (· ≠ .corrupt) fun _ n' =>
      ∃ ds, n' = { n with session := n.session.asked node }.answered i node ds := by
  rw [Meets, run_queryNode, hn]
  simp only
  rcases node.filter.query n.session.history node.serial node.layout with ⟨ds, _ | rep⟩
  · exact ⟨ds, rfl⟩
  · exact fun h => by cases h

theorem query_meets (n : Negotiation) : Meets query n (· ≠ .corrupt) fun _ _ => True := by
  have step : ∀ i ∈ List.range n.session.graph.nodes.length, ∀ m, m.session.graph = n.session.graph →
      Meets (queryNode i) m (· ≠ .corrupt) fun _ m' => m'.session.graph = n.session.graph := by
    intro i hi m hg
    have hn := List.getElem?_eq_getElem (l := m.session.graph.nodes) (hg ▸ List.mem_range.mp hi)
    refine (queryNode_meets hn).imp fun _ m' ⟨ds, hm'⟩ => ?_
    rw [hm']
    exact (Session.graph_asked _ _).trans hg
  have start : ({ n with session := n.session.tell (.querying n.session.graph.nodes.length) } : Negotiation).session.graph =
      n.session.graph := rfl
  exact meets_bind_of_run (run_read _ _) (meets_bind_of_run (run_onPart _ _ _ _)
    ((meets_forM_of_mem step start).imp fun _ _ _ => trivial))

theorem pickLink_meets (h : Accounted n) (link : Nat) : Meets (pickLink link) n (· ≠ .corrupt) fun _ _ => True := by
  rw [Meets, run_pickLink]
  cases hc : (n.arena.link link).current with
  | none => trivial
  | some id =>
    simp only
    cases n.arena.get? id >>= FormatSet.first? with
    | some format => trivial
    | none =>
      obtain ⟨side, hside⟩ := Ends.get_of_current hc
      have hl := List.getElem?_eq_getElem (h.known hside)
      obtain ⟨src, dst, hsrc, hdst⟩ := h.run_ends hl
      exact meets_bind_of_run (run_linkAt hl) (meets_bind_of_run hsrc (meets_bind_of_run hdst
        (meets_of_error rfl fun h => by cases h)))

theorem pickNode_meets (h : Accounted n) {i : Nat} (hi : i < n.session.graph.nodes.length) :
    Meets (pickNode i) n (· ≠ .corrupt) fun _ _ => True := by
  refine meets_bind_of_run (run_nodeAt (List.getElem?_eq_getElem hi)) ?_
  refine (meets_forM_of_mem (P := Steps n) (fun link _ m hm => ?_) .refl).imp fun _ _ _ => trivial
  refine ((pickLink_meets (Steps.accounted hm h) link).keeps (keeps_pickLink (stable_steps n) link) hm).imp ?_
  exact fun _ _ hm' => hm'.1

theorem pick_meets (h : Accounted n) : Meets pick n (· ≠ .corrupt) fun _ _ => True := by
  refine meets_bind_of_run (run_read _ _) ?_
  have step : ∀ i ∈ List.range n.session.graph.nodes.length, ∀ m, Steps n m →
      Meets (pickNode i) m (· ≠ .corrupt) fun _ m' => Steps n m' := by
    intro i hi m hm
    have hi := Nat.lt_of_lt_of_le (List.mem_range.mp hi) hm.changes.size_le.1
    have kept := (pickNode_meets (Steps.accounted hm h) hi).keeps (keeps_pickNode (stable_steps n) i) hm
    exact kept.imp fun _ _ hm' => hm'.1
  exact (meets_forM_of_mem step .refl).imp fun _ _ _ => trivial

end Negotiation

end MediaGraph

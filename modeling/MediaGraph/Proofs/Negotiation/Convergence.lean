/-
  MediaGraph.Proofs.Negotiation.Convergence — reducing comes to an end, and soon.

  A step of a pass either does nothing or takes a choice away, so a pass that leaves
  as many sets with a choice as it found did nothing at all, in any of its steps
  (`reducePass_cases`). Reducing is the pass repeated until it does nothing
  (`reducePasses_eq`): no more passes than there are sets with a choice, and one.

  After merging there are no more sets than links, and a first pass that does
  something found a set without a choice: no more passes than links, then
  (`passes_le_links`).

  Proved: `reduction_settles`.
-/

import Mathlib.Logic.Function.Iterate
import MediaGraph.Proofs.Negotiation.Accounting
import MediaGraph.Proofs.Negotiation.Merging
import MediaGraph.Proofs.Negotiation.Picking
import MediaGraph.Proofs.Session.Reach

namespace MediaGraph

open MediaGraph.Action

/-! ## Counting sets -/

namespace Arena

variable {a : Arena} {id : Nat} {s t : Shared}

theorem slots_eq (a : Arena) : (List.range a.slots.length).map a.slot? = a.slots := by
  refine List.ext_getElem (by simp) fun i hi hi' => ?_
  simp only [List.getElem_map, List.getElem_range, slot?, List.getElem?_eq_getElem hi']
  rfl

theorem countP_slots (a : Arena) (p : Option Shared → Bool) :
    a.slots.countP p = (List.range a.slots.length).countP fun id => p (a.slot? id) := by
  conv_lhs => rw [← a.slots_eq]
  exact List.countP_map

/-- A set with a choice that is left without one is one less. -/
theorem loose_rewrite (hs : a.slot? id = some s) (hsize : 1 < s.set.size) (ht : t.set.size ≤ 1) :
    (a.setSlot id (some t)).loose < a.loose := by
  have hlt := lt_of_slot?_eq_some hs
  have hget : a.slots[id] = some s := by
    rw [slot?, List.getElem?_eq_getElem hlt] at hs
    exact hs
  have hpos : 0 < a.loose := List.countP_pos_iff.mpr ⟨_, List.getElem_mem hlt, by simp [hget, hsize]⟩
  unfold loose at hpos ⊢
  simp only [setSlot]
  rw [List.countP_set hlt]
  simp only [hget, Option.any_some, hsize, decide_true, if_true, Nat.not_lt.mpr ht, decide_false, Bool.false_eq_true,
    if_false]
  omega

/-- Where a set is down to one candidate, not every live set has a choice. -/
theorem loose_lt_liveSets (hs : a.slot? id = some s) (hsize : s.set.size = 1) : a.loose < a.liveSets := by
  rw [loose, liveSets, countP_slots, countP_slots, List.countP_eq_length_filter, List.countP_eq_length_filter]
  have hid : id ∈ (List.range a.slots.length).filter fun id => (a.slot? id).isSome := by
    simp [hs, lt_of_slot?_eq_some hs]
  have hsub : ((List.range a.slots.length).filter fun id => (a.slot? id).any (1 < ·.set.size)).Sublist
      ((List.range a.slots.length).filter fun id => (a.slot? id).isSome) := by
    refine List.monotone_filter_right _ fun j hj => ?_
    cases hj' : a.slot? j with
    | none => simp [hj'] at hj
    | some u => rfl
  refine Nat.lt_of_le_of_ne hsub.length_le fun hlen => ?_
  rw [← hsub.eq_of_length hlen] at hid
  simp [hs, hsize] at hid

end Arena

namespace Negotiation

variable {n n' : Negotiation}

/-! ## One pass -/

/-- A sweep does nothing in any of its steps, or takes a choice away, if its steps do nothing or take one away. -/
theorem sweep_cases {α : Type} {f : Negotiation → α → Negotiation}
    (h : ∀ n a, f n a = n ∨ (f n a).arena.loose < n.arena.loose) (l : List α) (n : Negotiation) :
    (l.foldl f n = n ∧ ∀ a ∈ l, f n a = n) ∨ (l.foldl f n).arena.loose < n.arena.loose := by
  induction l generalizing n with
  | nil => exact .inl ⟨rfl, nofun⟩
  | cons a l ih =>
    rw [List.foldl_cons]
    rcases h n a with e | hlt
    · rw [e]
      rcases ih n with ⟨hl, hall⟩ | hlt
      · exact .inl ⟨hl, List.forall_mem_cons.mpr ⟨e, hall⟩⟩
      · exact .inr hlt
    · rcases ih (f n a) with ⟨hl, -⟩ | hlt'
      · exact .inr (by rw [hl]; exact hlt)
      · exact .inr (Nat.lt_trans hlt' hlt)

theorem narrow_cases (format : Format) (n : Negotiation) (output : Nat) :
    narrow format n output = n ∨ (narrow format n output).arena.loose < n.arena.loose := by
  unfold narrow
  split
  · split
    · rename_i s hs
      split
      · rename_i hsize
        split
        · rename_i arena hp
          obtain ⟨u, t, hu, -, -, -, ht, rfl⟩ := Arena.pin?_eq_some hp
          rw [Arena.get?_of_slot? hu, Option.some.injEq] at hs
          subst hs
          exact .inr (Arena.loose_rewrite hu hsize.2 (by simp [FormatSet.size, ht]))
        · exact .inl rfl
      · exact .inl rfl
    · exact .inl rfl
  · exact .inl rfl

/-- A step that did nothing had nothing to do. -/
theorem narrow_eq {format : Format} {output : Nat} {l : Link} {t : FormatSet} (h : narrow format n output = n)
    (hl : n.session.graph.links[output]? = some l) (hk : l.kind = format.kind)
    (ht : n.arena.linkSet? output = some t) (hf : format ∈ t) : t.size ≤ 1 := by
  obtain ⟨id, hid, ht⟩ := Option.bind_eq_some_iff.mp ht
  obtain ⟨u, hu, rfl⟩ := Arena.get?_eq_some.mp ht
  obtain ⟨v, hp, -, hv⟩ := Arena.pin?_of_mem hu hf
  refine Nat.le_of_not_lt fun hsize => ?_
  have hnarrow : (narrow format n output).arena = n.arena.setSlot id (some v) := by
    simp only [narrow, hl, hid, Arena.get?_of_slot? hu, hk, hsize, hp, and_self, if_true]
  rw [h] at hnarrow
  have hlt := Arena.loose_rewrite (t := v) hu hsize (by simp [FormatSet.size, hv])
  rw [← hnarrow] at hlt
  exact Nat.lt_irrefl _ hlt

/-- What a node does for one of its inputs: where the input is down to one format, the outputs follow. -/
def narrowFrom (node : Node) (n : Negotiation) (input : Nat) : Negotiation :=
  (n.fixed? input).elim n fun format => node.outputLinks.foldl (narrow format) n

theorem reduceNode_eq (n : Negotiation) (node : Node) : reduceNode n node = node.inputLinks.foldl (narrowFrom node) n := by
  refine congrArg (fun f => node.inputLinks.foldl f n) (funext fun m => funext fun input => ?_)
  unfold narrowFrom
  cases m.fixed? input <;> rfl

theorem narrowFrom_cases (node : Node) (n : Negotiation) (input : Nat) :
    (narrowFrom node n input = n ∧ ∀ format, n.fixed? input = some format →
      ∀ output ∈ node.outputLinks, narrow format n output = n) ∨
    (narrowFrom node n input).arena.loose < n.arena.loose := by
  unfold narrowFrom
  cases n.fixed? input with
  | none => exact .inl ⟨rfl, nofun⟩
  | some format =>
    refine (sweep_cases (narrow_cases format) node.outputLinks n).imp_left fun ⟨hn, houtputs⟩ => ⟨hn, ?_⟩
    intro format' hf
    cases hf
    exact houtputs

theorem reduceNode_cases (n : Negotiation) (node : Node) :
    (reduceNode n node = n ∧ ∀ input ∈ node.inputLinks, ∀ format, n.fixed? input = some format →
      ∀ output ∈ node.outputLinks, narrow format n output = n) ∨ (reduceNode n node).arena.loose < n.arena.loose := by
  have step : ∀ m input, narrowFrom node m input = m ∨ (narrowFrom node m input).arena.loose < m.arena.loose :=
    fun m input => (narrowFrom_cases node m input).imp_left And.left
  rw [reduceNode_eq]
  rcases sweep_cases step node.inputLinks n with ⟨hn, hinputs⟩ | hlt
  · refine .inl ⟨hn, fun input hinput => ?_⟩
    rcases narrowFrom_cases node n input with ⟨-, houtputs⟩ | hlt
    · exact houtputs
    · rw [hinputs input hinput] at hlt
      exact absurd hlt (Nat.lt_irrefl _)
  · exact .inr hlt

/-- No node has an input down to one format and an output of its kind that has that format among others. -/
def Irreducible (n : Negotiation) : Prop :=
  ∀ node ∈ n.session.graph.nodes, ∀ input ∈ node.inputLinks, ∀ output ∈ node.outputLinks, ∀ s f l t,
    n.arena.linkSet? input = some s → s.formats = [f] → n.session.graph.links[output]? = some l → l.kind = f.kind →
      n.arena.linkSet? output = some t → f ∈ t → t.size ≤ 1

/-- A pass takes a choice away, or has nothing to do. -/
theorem reducePass_cases (n : Negotiation) :
    (n.reducePass = n ∧ Irreducible n) ∨ n.reducePass.arena.loose < n.arena.loose := by
  have step : ∀ m node, reduceNode m node = m ∨ (reduceNode m node).arena.loose < m.arena.loose :=
    fun m node => (reduceNode_cases m node).imp_left And.left
  rcases sweep_cases step n.session.graph.nodes n with ⟨hn, hnodes⟩ | hlt
  · refine .inl ⟨hn, ?_⟩
    intro node hnode input hinput output houtput s f l t hs hsf hl hk ht hf
    rcases reduceNode_cases n node with ⟨-, hall⟩ | hlt
    · have hfixed : n.fixed? input = some f := by
        simp [fixed?, hs, FormatSet.isFixed, FormatSet.size, FormatSet.first?, hsf]
      exact narrow_eq (hall input hinput f hfixed output houtput) hl hk ht hf
    · rw [hnodes node hnode] at hlt
      exact absurd hlt (Nat.lt_irrefl _)
  · exact .inr hlt

/-- A pass has something to do only where a link is down to one format. -/
theorem reducePass_of_unfixed (h : ∀ link, n.fixed? link = none) : n.reducePass = n := by
  have node : ∀ node, reduceNode n node = n := fun node => List.foldl_fixed' (fun input => by rw [h]) node.inputLinks
  exact List.foldl_fixed' node n.session.graph.nodes

/-! ## All passes -/

/-- Reducing is the pass repeated until it changes nothing, that time included. -/
theorem reducePasses_eq (n : Negotiation) : ∃ k, n.reducePasses = (k + 1, reducePass^[k] n) ∧
    k + (reducePass^[k] n).arena.loose ≤ n.arena.loose ∧
      (reducePass^[k] n).reducePass = reducePass^[k] n ∧ Irreducible (reducePass^[k] n) ∧
        ∀ j < k, reducePass^[j + 1] n ≠ reducePass^[j] n := by
  induction n using reducePasses.induct with
  | case1 n next hlt ih =>
    obtain ⟨k, hk, hle, hfix, hirr, hmoves⟩ := ih
    refine ⟨k + 1, ?_, ?_, hfix, hirr, fun j hj => ?_⟩
    · rw [reducePasses, if_pos hlt, hk]
      rfl
    · have hlt' : next.arena.loose < n.arena.loose := hlt
      show k + 1 + (reducePass^[k] next).arena.loose ≤ n.arena.loose
      omega
    · cases j with
      | zero =>
        intro e
        have hlt' : n.reducePass.arena.loose < n.arena.loose := hlt
        have e' : n.reducePass = n := e
        rw [e'] at hlt'
        exact Nat.lt_irrefl _ hlt'
      | succ j => exact hmoves j (Nat.lt_of_succ_lt_succ hj)
  | case2 n next hnot =>
    obtain ⟨hfix, hirr⟩ := (reducePass_cases n).resolve_right hnot
    refine ⟨0, ?_, Nat.le_of_eq (Nat.zero_add _), hfix, hirr, fun j hj => absurd hj (Nat.not_lt_zero j)⟩
    rw [reducePasses, if_neg hnot]
    exact Prod.ext rfl hfix

theorem run_reduce {k : Nat} (h : n.reducePasses = (k, n')) : reduce.run n = (.ok k, n') := by
  show ((.ok n.reducePasses.1, n.reducePasses.2) : Except Error Nat × Negotiation) = _
  rw [h]

/-! ## After merging -/

/-- The sets the links offer. -/
def offers (n : Negotiation) : List Nat :=
  (List.range n.session.graph.links.length).filterMap fun i => (n.arena.link i).offered

theorem length_offers_le (n : Negotiation) : n.offers.length ≤ n.session.graph.links.length :=
  Nat.le_trans (List.length_filterMap_le _ _) (Nat.le_of_eq List.length_range)

/-- Both ends of each link hold one set, so a set that is held is offered. -/
theorem Merged.mem_offers (h : Merged n) {i id : Nat} {side : Side} (hi : (n.arena.link i).get side = some id) :
    id ∈ n.offers := by
  have hlt := h.coherent.known hi
  obtain ⟨id', hid'⟩ := h.settled (List.getElem?_eq_getElem hlt)
  refine List.mem_filterMap.mpr ⟨i, List.mem_range.mpr hlt, ?_⟩
  rw [hid'] at hi ⊢
  cases side <;> exact hi

/-- Every live set is held. -/
theorem Merged.liveSets_le (h : Merged n) : n.arena.liveSets ≤ n.session.graph.links.length := by
  rw [Arena.liveSets, Arena.countP_slots, List.countP_eq_length_filter]
  have hsub : (List.range n.arena.slots.length).filter (fun id => (n.arena.slot? id).isSome) ⊆ n.offers := by
    intro id hid
    obtain ⟨-, hid⟩ := List.mem_filter.mp hid
    obtain ⟨s, hs⟩ := Option.isSome_iff_exists.mp hid
    obtain ⟨i, side, hi⟩ := h.coherent.counted.held hs
    exact h.mem_offers hi
  have hnodup : ((List.range n.arena.slots.length).filter fun id => (n.arena.slot? id).isSome).Nodup :=
    List.nodup_range.filter _
  exact Nat.le_trans (hnodup.subperm hsub).length_le n.length_offers_le

/-- A pass that does something found a set without a choice: there are fewer sets with one than links. -/
theorem Merged.passes_le_links (h : Merged n) : n.reducePasses.1 ≤ max 1 n.session.graph.links.length := by
  obtain ⟨k, hk, hle, -, -, hmoves⟩ := reducePasses_eq n
  rw [hk]
  cases k with
  | zero => exact Nat.le_max_left _ _
  | succ k =>
    obtain ⟨link, hlink⟩ : ∃ link, n.fixed? link ≠ none := by
      refine not_forall.mp fun hnone => hmoves 0 (Nat.succ_pos k) (reducePass_of_unfixed hnone)
    obtain ⟨id, s, hs, hsize⟩ : ∃ id s, n.arena.slot? id = some s ∧ s.set.size = 1 := by
      rw [fixed?] at hlink
      cases hset : n.arena.linkSet? link with
      | none => rw [hset] at hlink; exact absurd rfl hlink
      | some t =>
        obtain ⟨id, -, ht⟩ := Option.bind_eq_some_iff.mp hset
        obtain ⟨s, hs, rfl⟩ := Arena.get?_eq_some.mp ht
        refine ⟨id, s, hs, ?_⟩
        rw [hset] at hlink
        by_cases hfixed : s.set.isFixed
        · simpa [FormatSet.isFixed] using hfixed
        · simp [hfixed] at hlink
    have := Arena.loose_lt_liveSets hs hsize
    have := h.liveSets_le
    have : k + 1 + 1 ≤ n.session.graph.links.length := by omega
    exact Nat.le_trans this (Nat.le_max_right _ _)

/-! ## What is left -/

theorem Reduced.refs (h : Reduced n n') (id : Nat) : n'.arena.refs id = n.arena.refs id := by
  unfold Arena.refs
  cases hs : n.arena.slot? id with
  | none => rw [h.gone hs]
  | some s =>
    obtain ⟨t, ht, hp⟩ := h.slot hs
    rw [ht]
    exact hp.refs

/-- A set stays as it was, or is left with one of several candidates. -/
theorem Reduced.get?_cases (h : Reduced n n') (id : Nat) : n'.arena.get? id = n.arena.get? id ∨
    ∃ s t f, n.arena.get? id = some s ∧ 1 < s.size ∧ f ∈ s ∧ n'.arena.get? id = some t ∧ t.kind = s.kind ∧
      t.formats = [f] := by
  unfold Arena.get?
  cases hs : n.arena.slot? id with
  | none => exact .inl (by rw [h.gone hs])
  | some s =>
    obtain ⟨t, ht, hp⟩ := h.slot hs
    rw [ht]
    rcases hp with rfl | ⟨hsize, -, hk, f, hf, htf⟩
    · exact .inl rfl
    · exact .inr ⟨s.set, t.set, f, rfl, hsize, hf, rfl, hk, htf⟩

/-- Reducing makes passes until one changes nothing: at most one more than there are sets with a choice, and after merging
no more than links, one at least. It takes choices away and touches nothing else; it leaves nothing to reduce, and to
reduce again takes the one pass that finds so. -/
theorem reduction_settles (n : Negotiation) :
    ∃ passes n', reduce.run n = (.ok (passes + 1), n') ∧
      n' = reducePass^[passes] n ∧ n'.reducePass = n' ∧ (∀ j < passes, reducePass^[j + 1] n ≠ reducePass^[j] n) ∧
      passes + 1 ≤ 1 + n.arena.loose ∧
      (∀ s n₁, s.Reachable → query.run { session := s } = (.ok (), n₁) → merge.run n₁ = (.ok (), n) →
        passes + 1 ≤ max 1 n.session.graph.links.length) ∧
      n'.session.graph = n.session.graph ∧ (∀ l, n'.arena.link l = n.arena.link l) ∧
      (∀ id, n'.arena.refs id = n.arena.refs id) ∧
      (∀ id, n'.arena.get? id = n.arena.get? id ∨
        ∃ s t f, n.arena.get? id = some s ∧ 1 < s.size ∧ f ∈ s ∧ n'.arena.get? id = some t ∧ t.kind = s.kind ∧
          t.formats = [f]) ∧
      Irreducible n' ∧ reduce.run n' = (.ok 1, n') := by
  obtain ⟨k, hk, hle, hfix, hirr, hmoves⟩ := reducePasses_eq n
  have hr := reduced_reduce n
  have hlinks : ∀ s n₁, s.Reachable → query.run { session := s } = (.ok (), n₁) → merge.run n₁ = (.ok (), n) →
      k + 1 ≤ max 1 n.session.graph.links.length := by
    intro s n₁ hs hq hm
    obtain ⟨ready, -⟩ := query_ok hs.wired hq
    obtain ⟨merged, -⟩ := merge_ok ready hm
    have hbound := merged.passes_le_links
    rw [hk] at hbound
    exact hbound
  rw [hk] at hr
  refine ⟨k, _, run_reduce hk, rfl, hfix, hmoves, by omega, hlinks, hr.graph, hr.link, hr.refs,
    hr.get?_cases, hirr, ?_⟩
  refine run_reduce ?_
  rw [reducePasses, hfix]
  exact if_neg (Nat.lt_irrefl _)

end Negotiation

/-! ## A chain met from its end -/

namespace Studio

def feed : FilterType where
  name := "feed"
  outputs := [⟨.output, "default", .video⟩]
  fresh := declaring .output [.i420]

/-- A feed of one format, two scalers and a screen that takes any, added from the screen to the feed. -/
def relay : Session :=
  after [.openNode (screen PixelFormat.all) none, .addNode 0, .create scaleType none none none,
    .create scaleType none none none, .openNode feed none, .addNode 0, .link 3 0 2 0, .link 2 0 1 0, .link 1 0 0 0]

theorem relay_reachable : relay.Reachable := after_reachable _

end Studio

/-- Each pass brings the feed's format one scaler further, and the last finds it has arrived: as many passes as links. -/
theorem Negotiation.relay_reduced :
    ∃ n₁ n n', query.run { session := Studio.relay } = (.ok (), n₁) ∧ merge.run n₁ = (.ok (), n) ∧
      reduce.run n = (.ok 3, n') ∧ Irreducible n' ∧ n.session.graph.links.length = 3 ∧
        3 ≤ max 1 n.session.graph.links.length := by
  have hq : (query.run { session := Studio.relay }).1 = .ok () := by decide +kernel
  have hm : (merge.run (query.run { session := Studio.relay }).2).1 = .ok () := by decide +kernel
  have hpasses : (merge.run (query.run { session := Studio.relay }).2).2.reducePasses.1 = 3 := by decide +kernel
  obtain ⟨passes, n', hr, -, -, -, -, hlinks, -, -, -, -, hirr, -⟩ :=
    reduction_settles (merge.run (query.run { session := Studio.relay }).2).2
  have hthree : passes + 1 = 3 := by
    have hok := congrArg Prod.fst hr
    rw [← hpasses]
    exact (Except.ok.inj hok).symm
  rw [hthree] at hr hlinks
  exact ⟨_, _, n', run_eq_of_ok hq, run_eq_of_ok hm, hr, hirr, by decide +kernel,
    hlinks _ _ Studio.relay_reachable (run_eq_of_ok hq) (run_eq_of_ok hm)⟩

end MediaGraph

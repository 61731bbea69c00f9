/-
  MediaGraph.Proofs.Session.Walk — links are configured once, and upstream first.

  The walk goes from a sink against the flow. The links it is at, nearest source
  first, are its stack: each is followed by the next, down to an input of the sink.
  A link is settled when the links into its source are, those of the stack apart,
  which lie on a cycle with it (`Settlings`). What a walk has done at any time is
  `Walking`; every step marks one more link, so the walk is never too deep
  (`configureInputs_visits`).

  Proved: where no filter refuses, configuring ends well, settles the links that
  lead to a sink, each once and after the links into its source, and leaves the
  others alone (`links_configured_once_upstream_first`).
-/

import MediaGraph.Proofs.Graph.Flow
import MediaGraph.Proofs.Session.Reach

namespace MediaGraph

open MediaGraph.Action

/-! ## What is done to links -/

def Call.configures : Call → Bool
  | .configOutput .. | .configInput .. => true
  | _ => false

/-- Nothing but the config hooks is called. -/
def History.Configuring (h : History) : Prop := ∀ r ∈ h, r.call.configures = true

theorem History.Configuring.cons {h : History} (hh : h.Configuring) {r : Record} (hr : r.call.configures = true) :
    History.Configuring (r :: h) := List.forall_mem_cons.mpr ⟨hr, hh⟩

namespace Graph

def props? (g : Graph) (i : Nat) : Option LinkProps := (g.links[i]?).map (·.props)

theorem inputProps_eq (g : Graph) (n : Node) : g.inputProps n = n.inputLinks.filterMap g.props? := rfl

/-- Every link that ends at the node and was not configured is listed. -/
def Covered (g : Graph) (ls : List Nat) (node : Nat) : Prop :=
  ∀ (j : Nat) (l : Link), g.links[j]? = some l → l.dst = node → l.state = .unconfigured → j ∈ ls

theorem Covered.mono {g : Graph} {ls ls' : List Nat} {node : Nat} (h : g.Covered ls node) (hs : ls ⊆ ls') :
    g.Covered ls' node := fun j l hl hd hu => hs (h j l hl hd hu)

/-- A link of another state is one more or one less to configure, or as many. -/
theorem unconfigured_modifyLink {g : Graph} {i : Nat} {l : Link} (hl : g.links[i]? = some l) (f : Link → Link) :
    (g.modifyLink i f).unconfigured + (if l.state = .unconfigured then 1 else 0) =
      g.unconfigured + if (f l).state = .unconfigured then 1 else 0 := by
  obtain ⟨hi, rfl⟩ := List.getElem?_eq_some_iff.mp hl
  have hset : (g.modifyLink i f).links = g.links.set i (f g.links[i]) := by
    rw [modifyLink, List.modify_eq_set_getElem?, hl]
    rfl
  rw [unconfigured, hset, List.countP_set hi, unconfigured]
  have hpos : g.links[i].state = .unconfigured → 0 < g.links.countP (·.state = .unconfigured) := fun hs =>
    List.countP_pos_iff.mpr ⟨_, List.getElem_mem hi, by simpa using hs⟩
  by_cases hs : g.links[i].state = .unconfigured
  · have := hpos hs
    simp [hs]
    omega
  · simp [hs]

end Graph

namespace Session

variable {s t t' : Session}

/-- The links of `order` were settled one after the other, the last one first: `g` has what was made of them, and `calls`
are all calls made, newest first. A link is settled by two calls, one right after the other: its source makes something
of the properties it has and of those of the source's inputs, and its destination accepts it. By then the links into the
source are settled, but for those on a directed cycle with it. -/
inductive Settlings (s : Session) (g : Graph) : List Nat → History → Prop
  | nil : Settlings s g [] []
  | cons {order : List Nat} {calls : History} {i : Nat} {l : Link} {source destination : Node}
      {inputs : List LinkProps} {left : LinkProps} : Settlings s g order calls → i ∉ order →
      s.graph.links[i]? = some l → s.graph.nodes[l.src]? = some source → s.graph.nodes[l.dst]? = some destination →
      inputs = source.inputLinks.filterMap (fun j => if j ∈ order then g.props? j else s.graph.props? j) →
      source.filter.configOutput (calls ++ s.history) source.serial l.srcPad l.props inputs = (left, .done) →
      g.links[i]? = some { l with props := left, state := .configured } →
      (∀ j ∈ source.inputLinks, ∀ k, s.graph.links[j]? = some k → k.state = .unconfigured →
        j ∈ order ∨ s.graph.OnCycle i j) →
      Settlings s g (i :: order) (⟨destination.serial, .configInput l.dstPad left .done⟩ ::
        ⟨source.serial, .configOutput l.srcPad l.props inputs left .done⟩ :: calls)

/-- What the links have, those of `order` by now and the others at first, is known from the links of `order`. -/
theorem filterMap_props_congr {g g' : Graph} {order : List Nat} (hg : ∀ i ∈ order, g'.links[i]? = g.links[i]?)
    (links : List Nat) : links.filterMap (fun i => if i ∈ order then g'.props? i else s.graph.props? i) =
      links.filterMap (fun i => if i ∈ order then g.props? i else s.graph.props? i) := by
  refine List.filterMap_congr fun i _ => ?_
  split
  · rename_i hi
    rw [Graph.props?, Graph.props?, hg i hi]
  · rfl

namespace Settlings

variable {g g' : Graph} {order : List Nat} {calls : History}

theorem nodup (h : Settlings s g order calls) : order.Nodup := by
  induction h with
  | nil => exact List.nodup_nil
  | cons _ hi _ _ _ _ _ _ _ ih => exact List.nodup_cons.mpr ⟨hi, ih⟩

theorem configured (h : Settlings s g order calls) {i : Nat} (hi : i ∈ order) :
    ∃ l props, s.graph.links[i]? = some l ∧ g.links[i]? = some { l with props, state := .configured } := by
  induction h with
  | nil => cases hi
  | cons _ _ hl _ _ _ _ hg _ ih =>
    rcases List.mem_cons.mp hi with rfl | hi
    · exact ⟨_, _, hl, hg⟩
    · exact ih hi

theorem configuring (h : Settlings s g order calls) : calls.Configuring := by
  induction h with
  | nil => exact fun _ hr => absurd hr List.not_mem_nil
  | cons _ _ _ _ _ _ _ _ _ ih => exact (ih.cons rfl).cons rfl

/-- Only the links settled matter. -/
theorem congr (h : Settlings s g order calls) (hg : ∀ i ∈ order, g'.links[i]? = g.links[i]?) :
    Settlings s g' order calls := by
  induction h with
  | nil => exact .nil
  | @cons order _ i _ source _ inputs _ _ hi hl hs hd hin hleft hgi hup ih =>
    have hg' : ∀ j ∈ order, g'.links[j]? = g.links[j]? := fun j hj => hg j (List.mem_cons_of_mem i hj)
    exact .cons (ih hg') hi hl hs hd (hin.trans (filterMap_props_congr hg' _).symm) hleft
      ((hg i List.mem_cons_self).trans hgi) hup

end Settlings

/-! ## On the way -/

/-- What a walk from `s` has done by `t`: it is at the links of `stack` and has settled those of `order`. -/
structure Walking (s : Session) (stack order : List Nat) (t : Session) : Prop where
  nodes : t.graph.nodes = s.graph.nodes
  size : t.graph.links.length = s.graph.links.length
  settled : ∃ calls, t.history = calls ++ s.history ∧ Settlings s t.graph order calls
  begun : ∀ i ∈ stack ++ order, ∃ l, s.graph.links[i]? = some l ∧ l.state = .unconfigured ∧ s.graph.LeadsToSink l.dst
  stacked : ∀ {i l}, i ∈ stack → s.graph.links[i]? = some l → t.graph.links[i]? = some { l with state := .configuring }
  others : ∀ {i}, i ∉ stack → i ∉ order → t.graph.links[i]? = s.graph.links[i]?
  nodup : stack.Nodup
  path : stack.IsChain s.graph.Follows
  /-- The links into the source of a link settled are settled too, or in the stack. -/
  closed : ∀ {i l}, i ∈ order → s.graph.links[i]? = some l → s.graph.Covered (stack ++ order) l.src
  count : t.graph.unconfigured + stack.length + order.length = s.graph.unconfigured

namespace Walking

variable {stack order : List Nat} {i : Nat} {l : Link}

theorem start (s : Session) : Walking s [] [] s where
  nodes := rfl
  size := rfl
  settled := ⟨[], rfl, .nil⟩
  begun := nofun
  stacked := nofun
  others _ _ := rfl
  nodup := List.nodup_nil
  path := .nil
  closed := nofun
  count := rfl

theorem tell (h : Walking s stack order t) (n : Notice) : Walking s stack order (t.tell n) :=
  ⟨h.nodes, h.size, h.settled, h.begun, h.stacked, h.others, h.nodup, h.path, h.closed, h.count⟩

theorem configured (h : Walking s stack order t) {i : Nat} (hi : i ∈ order) :
    ∃ l props, s.graph.links[i]? = some l ∧ t.graph.links[i]? = some { l with props, state := .configured } := by
  obtain ⟨calls, -, hs⟩ := h.settled
  exact hs.configured hi

theorem run_nodeAt (h : Walking s stack order t) {k : Nat} {n : Node} (hn : s.graph.nodes[k]? = some n) :
    (nodeAt k).run t = (.ok n, t) := by
  refine Session.run_nodeAt ?_
  rw [h.nodes]
  exact hn

theorem not_mem_order (h : Walking s stack order t) {i : Nat} (hi : i ∈ stack) : i ∉ order := by
  intro ho
  obtain ⟨l, props, hl, ht⟩ := h.configured ho
  rw [h.stacked hi hl] at ht
  cases ht

/-- The walk goes on to a link that was not configured, against the flow. -/
theorem mark (h : Walking s stack order t) (hl : s.graph.links[i]? = some l)
    (hu : l.state = .unconfigured) (hsink : s.graph.LeadsToSink l.dst) (his : i ∉ stack) (hio : i ∉ order)
    (hhead : ∀ j ∈ stack.head?, s.graph.Follows i j) :
    Walking s (i :: stack) order { t with graph := t.graph.modifyLink i ({ · with state := .configuring }) } := by
  have hti : t.graph.links[i]? = some l := (h.others his hio).trans hl
  have same : ∀ {j}, j ≠ i →
      (t.graph.modifyLink i ({ · with state := .configuring })).links[j]? = t.graph.links[j]? :=
    fun hj => Graph.getElem?_modifyLink_of_ne hj _
  refine ⟨h.nodes, (Graph.length_links_modifyLink ..).trans h.size, ?settled, ?begun, ?stacked, ?others,
    List.nodup_cons.mpr ⟨his, h.nodup⟩, ?path, ?closed, ?count⟩
  case settled =>
    obtain ⟨calls, hc, hs⟩ := h.settled
    exact ⟨calls, hc, hs.congr fun j hj => same (ne_of_mem_of_not_mem hj hio)⟩
  case begun =>
    intro j hj
    rcases List.mem_cons.mp hj with rfl | hj
    · exact ⟨l, hl, hu, hsink⟩
    · exact h.begun j hj
  case stacked =>
    intro j k hj hk
    rcases List.mem_cons.mp hj with rfl | hj
    · rw [hl] at hk
      cases hk
      exact Graph.getElem?_modifyLink_self hti _
    · exact (same (ne_of_mem_of_not_mem hj his)).trans (h.stacked hj hk)
  case others =>
    intro j hjs hjo
    exact (same fun e => hjs (e ▸ List.mem_cons_self)).trans (h.others (fun hj => hjs (List.mem_cons_of_mem _ hj)) hjo)
  case path =>
    exact List.isChain_cons.mpr ⟨hhead, h.path⟩
  case closed =>
    intro j k hj hk
    exact (h.closed hj hk).mono (List.subset_cons_self i _)
  case count =>
    have hcount := Graph.unconfigured_modifyLink hti ({ · with state := .configuring })
    have := h.count
    simp only [hu, if_true, reduceCtorEq, if_false] at hcount
    show (t.graph.modifyLink i _).unconfigured + (stack.length + 1) + order.length = _
    omega

/-- From the link it is at, the walk goes on to a link into its source: one link less is left to configure. -/
theorem goOn (h : Walking s stack order t) (hl : s.graph.links[i]? = some l) (hu : l.state = .unconfigured)
    (hsink : s.graph.LeadsToSink l.dst) (his : i ∉ stack) (hio : i ∉ order)
    (hhead : ∀ j ∈ stack.head?, ∃ k, s.graph.links[j]? = some k ∧ k.src = l.dst) :
    Walking s (i :: stack) order { t with graph := t.graph.modifyLink i ({ · with state := .configuring }) } ∧
      (t.graph.modifyLink i ({ · with state := .configuring })).unconfigured < t.graph.unconfigured ∧
      ∀ j ∈ (i :: stack).head?, ∃ k, s.graph.links[j]? = some k ∧ k.src = l.src := by
  have follows : ∀ j ∈ stack.head?, s.graph.Follows i j := by
    intro j hj
    obtain ⟨k, hk, hsrc⟩ := hhead j hj
    exact ⟨l, k, hl, hk, hsrc.symm⟩
  have marked := h.mark hl hu hsink his hio follows
  refine ⟨marked, ?_, fun j hj => ?_⟩
  · have hcount := h.count
    have hcount' := marked.count
    simp only [List.length_cons] at hcount'
    omega
  · cases hj
    exact ⟨l, hl, rfl⟩

/-- The inputs of a source are read as the links settled left them; the others are as they were. -/
theorem inputProps (h : Walking s stack order t) (n : Node) :
    t.graph.inputProps n =
      n.inputLinks.filterMap fun j => if j ∈ order then t.graph.props? j else s.graph.props? j := by
  rw [Graph.inputProps_eq]
  refine List.filterMap_congr fun j _ => ?_
  split
  · rfl
  · rename_i hjo
    by_cases hjs : j ∈ stack
    · obtain ⟨l, hl, -⟩ := h.begun j (List.mem_append_left _ hjs)
      rw [Graph.props?, h.stacked hjs hl, Graph.props?, hl]
      rfl
    · rw [Graph.props?, h.others hjs hjo, Graph.props?]

/-- A link into the source of the link the walk is at is settled, or lies on a cycle with it. -/
theorem settled_or_onCycle (h : Walking s (i :: stack) order t) (hw : s.graph.Wired) (hl : s.graph.links[i]? = some l)
    (hcov : s.graph.Covered (i :: stack ++ order) l.src) {source : Node} (hsource : s.graph.nodes[l.src]? = some source) :
    ∀ j ∈ source.inputLinks, ∀ k, s.graph.links[j]? = some k → k.state = .unconfigured →
      j ∈ order ∨ s.graph.OnCycle i j := by
  intro j hj k hk hu
  obtain ⟨k', hk', hdst⟩ := (hw.mem_inputLinks_iff hsource).mp hj
  rw [hk] at hk'
  cases hk'
  -- an input still in the stack leads down to this link
  rcases List.mem_append.mp (hcov j k hk hdst hu) with hstack | horder
  · exact .inr (Graph.onCycle_of_path h.nodup h.path hstack ⟨k, l, hk, hl, hdst⟩)
  · exact .inl horder

/-- The two calls made for the link the walk is at settle it. -/
theorem settle (h : Walking s (i :: stack) order t) (hw : s.graph.Wired) (hl : s.graph.links[i]? = some l)
    (hcov : s.graph.Covered (i :: stack ++ order) l.src) {source destination : Node}
    (hsource : s.graph.nodes[l.src]? = some source) (hdestination : s.graph.nodes[l.dst]? = some destination)
    {left : LinkProps}
    (hleft : source.filter.configOutput t.history source.serial l.srcPad l.props (t.graph.inputProps source) =
      (left, .done))
    (hgraph : t'.graph = t.graph.modifyLink i ({ · with props := left, state := .configured }))
    (hhistory : t'.history = ⟨destination.serial, .configInput l.dstPad left .done⟩ ::
      ⟨source.serial, .configOutput l.srcPad l.props (t.graph.inputProps source) left .done⟩ :: t.history) :
    Walking s stack (i :: order) t' := by
  obtain ⟨his, hnodup⟩ := List.nodup_cons.mp h.nodup
  have hio : i ∉ order := h.not_mem_order List.mem_cons_self
  have hti : t.graph.links[i]? = some { l with state := .configuring } := h.stacked List.mem_cons_self hl
  have self : t'.graph.links[i]? = some { l with props := left, state := .configured } := by
    rw [hgraph]
    exact Graph.getElem?_modifyLink_self hti _
  have same : ∀ {j}, j ≠ i → t'.graph.links[j]? = t.graph.links[j]? := by
    intro j hj
    rw [hgraph]
    exact Graph.getElem?_modifyLink_of_ne hj _
  have moved : ∀ {j}, j ∈ i :: stack ++ order ↔ j ∈ stack ++ i :: order := by
    intro j
    simp only [List.cons_append, List.mem_cons, List.mem_append]
    tauto
  refine ⟨?nodes, ?size, ?settled, ?begun, ?stacked, ?others, hnodup, h.path.tail, ?closed, ?count⟩
  case nodes =>
    rw [hgraph]
    exact h.nodes
  case size =>
    rw [hgraph, Graph.length_links_modifyLink]
    exact h.size
  case settled =>
    obtain ⟨calls, hc, hs⟩ := h.settled
    have kept : ∀ j ∈ order, t'.graph.links[j]? = t.graph.links[j]? := fun j hj => same (ne_of_mem_of_not_mem hj hio)
    have inputs := (h.inputProps source).trans (filterMap_props_congr (s := s) kept _).symm
    rw [hc] at hleft
    exact ⟨_ :: _ :: calls, by rw [hhistory, hc]; rfl, (hs.congr kept).cons hio hl hsource hdestination inputs hleft self
      (h.settled_or_onCycle hw hl hcov hsource)⟩
  case begun =>
    exact fun j hj => h.begun j (moved.mpr hj)
  case stacked =>
    intro j k hj hk
    exact (same (ne_of_mem_of_not_mem hj his)).trans (h.stacked (List.mem_cons_of_mem _ hj) hk)
  case others =>
    intro j hjs hjo
    obtain ⟨hne, hjo⟩ := not_or.mp (mt List.mem_cons.mpr hjo)
    exact (same hne).trans (h.others (List.not_mem_cons_of_ne_of_not_mem hne hjs) hjo)
  case closed =>
    intro j k hj hk
    rcases List.mem_cons.mp hj with rfl | hj
    · rw [hl] at hk
      cases hk
      exact hcov.mono fun _ => moved.mp
    · exact (h.closed hj hk).mono fun _ => moved.mp
  case count =>
    have hcount := Graph.unconfigured_modifyLink hti ({ · with props := left, state := .configured })
    have := h.count
    rw [← hgraph] at hcount
    simp only [reduceCtorEq, if_false] at hcount
    simp only [List.length_cons] at this ⊢
    omega

end Walking

/-! ## The walk -/

/-- A filter of the graph refuses a link at some time while links are configured, and the error is its report. -/
def Refuses (s : Session) (e : Error) : Prop :=
  ∃ n ∈ s.graph.nodes, ∃ calls : History, calls.Configuring ∧ ∃ pad props inputs rep, e = .reported rep ∧
    ((n.filter.configOutput (calls ++ s.history) n.serial pad props inputs).2 = .refused rep ∨
      n.filter.configInput (calls ++ s.history) n.serial pad props = .refused rep)

theorem settle_meets (hw : s.graph.Wired) {stack order : List Nat} {i : Nat} {l : Link}
    (h : Walking s (i :: stack) order t) (hl : s.graph.links[i]? = some l)
    (hcov : s.graph.Covered (i :: stack ++ order) l.src) :
    Meets (settle i l.src l.srcPad l.dst l.dstPad) t s.Refuses fun _ t' => Walking s stack (i :: order) t' := by
  obtain ⟨calls, hc, hs⟩ := h.settled
  have hti : t.graph.links[i]? = some { l with state := .configuring } := h.stacked List.mem_cons_self hl
  obtain ⟨source, hsource⟩ : ∃ n, s.graph.nodes[l.src]? = some n := hw.exists_node hl .output
  obtain ⟨destination, hdestination⟩ : ∃ n, s.graph.nodes[l.dst]? = some n := hw.exists_node hl .input
  rw [Meets, run_settle, h.nodes, hsource, hti]
  simp only [hdestination]
  rcases hleft : source.filter.configOutput t.history source.serial l.srcPad l.props (t.graph.inputProps source)
    with ⟨left, _ | rep⟩
  · simp only
    cases hanswer : destination.filter.configInput _ destination.serial l.dstPad left with
    | done =>
      refine h.settle hw hl hcov hsource hdestination hleft ?_ rfl
      show (t.graph.modifyLink i _).modifyLink i _ = _
      exact Graph.modifyLink_modifyLink t.graph i _ _
    | refused rep =>
      simp only [note, hc, ← List.cons_append] at hanswer
      exact ⟨destination, List.mem_of_getElem? hdestination, _, hs.configuring.cons rfl, _, _, [], rep, rfl, .inr hanswer⟩
  · rw [hc] at hleft
    exact ⟨source, List.mem_of_getElem? hsource, calls, hs.configuring, _, _, _, rep, rfl,
      .inl (congrArg Prod.snd hleft)⟩

/-- The action configures the inputs of any node a walk gets to with fewer links left to configure than `bound`. -/
def Visits (s : Session) (bound : Nat) (f : Nat → Action Session Unit) : Prop :=
  ∀ (stack order : List Nat) (t : Session) (node : Nat), Walking s stack order t → t.graph.unconfigured < bound →
    node < s.graph.nodes.length → s.graph.LeadsToSink node →
    (∀ i ∈ stack.head?, ∃ l, s.graph.links[i]? = some l ∧ l.src = node) →
    Meets (f node) t s.Refuses fun _ t' =>
      ∃ order', order <:+ order' ∧ Walking s stack order' t' ∧ s.graph.Covered (stack ++ order') node

theorem configureLink_meets (hw : s.graph.Wired) {bound : Nat} {f : Nat → Action Session Unit} (hf : s.Visits bound f)
    {stack order : List Nat} {i : Nat} {l : Link} (h : Walking s stack order t) (hb : t.graph.unconfigured < bound + 1)
    (hl : s.graph.links[i]? = some l) (hsink : s.graph.LeadsToSink l.dst)
    (hhead : ∀ j ∈ stack.head?, ∃ k, s.graph.links[j]? = some k ∧ k.src = l.dst) :
    Meets (configureLink f l.dst i) t s.Refuses fun _ t' =>
      ∃ order', order <:+ order' ∧ Walking s stack order' t' ∧ (l.state = .unconfigured → i ∈ stack ++ order') := by
  obtain ⟨n, hn⟩ : ∃ n, s.graph.nodes[l.dst]? = some n := hw.exists_node hl .input
  by_cases his : i ∈ stack
  · refine meets_bind_of_run (run_linkAt (h.stacked his hl)) (meets_bind_of_run (h.run_nodeAt hn) ?_)
    exact ⟨order, List.suffix_rfl, h.tell _, fun _ => List.mem_append_left _ his⟩
  by_cases hio : i ∈ order
  · obtain ⟨_, props, -, hk⟩ := h.configured hio
    exact meets_bind_of_run (run_linkAt hk) ⟨order, List.suffix_rfl, h, fun _ => List.mem_append_right _ hio⟩
  have hti : t.graph.links[i]? = some l := (h.others his hio).trans hl
  refine meets_bind_of_run (run_linkAt hti) ?_
  cases hu : l.state with
  | configured => exact ⟨order, List.suffix_rfl, h, nofun⟩
  | configuring => exact meets_bind_of_run (h.run_nodeAt hn) ⟨order, List.suffix_rfl, h.tell _, nofun⟩
  | unconfigured =>
    obtain ⟨marked, less, top⟩ := h.goOn hl hu hsink his hio hhead
    -- marking the link pays for one level of depth
    have fewer := Nat.lt_of_lt_of_le less (Nat.le_of_lt_succ hb)
    refine meets_bind_of_run rfl
      (meets_bind (hf _ _ _ _ marked fewer (hw.node_lt hl .output) (hsink.of_link hl) top) ?_)
    rintro - t' ⟨order', hsuffix, h', hcov⟩
    refine (settle_meets hw h' hl hcov).imp fun _ t'' h'' => ⟨i :: order', hsuffix.trans (List.suffix_cons i _), h'', ?_⟩
    exact fun _ => List.mem_append_right _ List.mem_cons_self

/-- On the way through the inputs of a node: each link into it is on the stack, is settled, or is one of those in `rest`,
still to come. -/
structure Entering (s : Session) (stack order : List Nat) (node : Nat) (rest : List Nat) (t : Session) : Prop where
  inputs : ∀ i ∈ rest, ∃ l, s.graph.links[i]? = some l ∧ l.dst = node
  walked : ∃ order', order <:+ order' ∧ Walking s stack order' t ∧ s.graph.Covered (rest ++ (stack ++ order')) node

theorem Entering.next (hw : s.graph.Wired) {bound : Nat} {f : Nat → Action Session Unit} (hf : s.Visits bound f)
    {stack order rest : List Nat} {node i : Nat} (hcount : ∀ {order' u}, order <:+ order' → Walking s stack order' u →
      u.graph.unconfigured < bound + 1) (hsink : s.graph.LeadsToSink node)
    (hhead : ∀ j ∈ stack.head?, ∃ k, s.graph.links[j]? = some k ∧ k.src = node)
    (h : Entering s stack order node (i :: rest) t) :
    Meets (configureLink f node i) t s.Refuses fun _ t' => Entering s stack order node rest t' := by
  obtain ⟨l, hl, rfl⟩ := h.inputs i List.mem_cons_self
  obtain ⟨order', hsuffix, h', hcov⟩ := h.walked
  refine (configureLink_meets hw hf h' (hcount hsuffix h') hl hsink hhead).imp ?_
  rintro - u ⟨order'', hsuffix', h'', hi⟩
  refine ⟨fun j hj => h.inputs j (List.mem_cons_of_mem i hj), order'', hsuffix.trans hsuffix', h'', ?_⟩
  intro j k hk hd hu
  simp only [List.mem_append]
  rcases List.mem_append.mp (hcov j k hk hd hu) with hj | hj
  · rcases List.mem_cons.mp hj with rfl | hj
    · obtain rfl := Option.some.inj (hl.symm.trans hk)
      exact .inr (List.mem_append.mp (hi hu))
    · exact .inl hj
  · exact .inr ((List.mem_append.mp hj).imp_right fun ho => hsuffix'.subset ho)

/-- The links left to configure do not become more on the way. -/
theorem Walking.unconfigured_le {stack order order' : List Nat} {t u : Session} (h : Walking s stack order t)
    (h' : Walking s stack order' u) (hsuffix : order <:+ order') : u.graph.unconfigured ≤ t.graph.unconfigured := by
  have hlen := hsuffix.length_le
  have := h.count
  have := h'.count
  omega

/-- The inputs of a node, one after the other. -/
theorem visits_succ (hw : s.graph.Wired) {bound : Nat} {f : Nat → Action Session Unit} (hf : s.Visits bound f) :
    s.Visits (bound + 1) fun node => nodeAt node >>= fun n => n.inputLinks.forM (configureLink f node) := by
  intro stack order t node h hb hnode hsink hhead
  have hn : s.graph.nodes[node]? = some s.graph.nodes[node] := List.getElem?_eq_getElem hnode
  refine meets_bind_of_run (h.run_nodeAt hn) ?_
  have start : Entering s stack order node s.graph.nodes[node].inputLinks t :=
    ⟨fun i hi => (hw.mem_inputLinks_iff hn).mp hi, order, List.suffix_rfl, h, fun j l hl hd _ =>
      List.mem_append_left _ ((hw.mem_inputLinks_iff hn).mpr ⟨l, hl, hd⟩)⟩
  have fewer : ∀ {order' u}, order <:+ order' → Walking s stack order' u → u.graph.unconfigured < bound + 1 :=
    fun hsuffix h' => Nat.lt_of_le_of_lt (h.unconfigured_le h' hsuffix) hb
  exact (meets_forM (fun _ _ _ => Entering.next hw hf fewer hsink hhead) _ t start).imp fun _ _ h => h.walked

/-- Every step marks one more link: with a bound on the links left, the walk is never too deep. -/
theorem configureInputs_visits (hw : s.graph.Wired) (depth : Nat) : s.Visits (depth + 1) (configureInputs depth) := by
  induction depth with
  | zero =>
    have none : s.Visits 0 fun _ => .fail .corrupt := fun _ _ _ _ _ hb => absurd hb (Nat.not_lt_zero _)
    exact visits_succ hw none
  | succ depth ih => exact visits_succ hw ih

/-- The walk from a node, if it is a sink. -/
def configureSink (node : Nat) : Action Session Unit := do
  if (← nodeAt node).isSink then configureInputs (← Action.read (·.graph.unconfigured)) node

theorem configureLinks_eq :
    configureLinks = Action.read (·.graph.nodes.length) >>= fun nodes => (List.range nodes).forM configureSink := rfl

/-- What a walk that starts at a node comes to: nothing where the node is no sink. -/
theorem configureSink_meets (hw : s.graph.Wired) {order : List Nat} {node : Nat} {n : Node} (h : Walking s [] order t)
    (hn : s.graph.nodes[node]? = some n) : Meets (configureSink node) t s.Refuses fun _ t' =>
      ∃ order', order <:+ order' ∧ Walking s [] order' t' ∧ (n.isSink = true → s.graph.Covered order' node) := by
  have hlt := (List.getElem?_eq_some_iff.mp hn).1
  refine meets_bind_of_run (h.run_nodeAt hn) ?_
  split
  · rename_i hs
    refine meets_bind_of_run (run_read _ t) ?_
    have hsink := Graph.leadsToSink_of_isSink hn hs
    refine (configureInputs_visits hw _ _ _ _ _ h (Nat.lt_succ_self _) hlt hsink nofun).imp ?_
    exact fun _ t' ⟨order', hsuffix, h', hcov⟩ => ⟨order', hsuffix, h', fun _ => hcov⟩
  · rename_i hs
    exact ⟨order, List.suffix_rfl, h, fun hs' => absurd hs' hs⟩

/-- On the way through the nodes: the walk was at every sink but those in `rest`, still to come. -/
structure Touring (s : Session) (rest : List Nat) (t : Session) : Prop where
  nodes : ∀ node ∈ rest, node < s.graph.nodes.length
  walked : ∃ order, Walking s [] order t ∧
    ∀ node n, s.graph.nodes[node]? = some n → n.isSink = true → node ∈ rest ∨ s.graph.Covered order node

theorem Touring.next (hw : s.graph.Wired) {node : Nat} {rest : List Nat} (h : Touring s (node :: rest) t) :
    Meets (configureSink node) t s.Refuses fun _ t' => Touring s rest t' := by
  obtain ⟨order, hwalk, hdone⟩ := h.walked
  have hn := List.getElem?_eq_getElem (h.nodes node List.mem_cons_self)
  refine (configureSink_meets hw hwalk hn).imp ?_
  rintro - u ⟨order', hsuffix, h', hcov⟩
  refine ⟨fun m hm => h.nodes m (List.mem_cons_of_mem node hm), order', h', fun m n hm hms => ?_⟩
  rcases hdone m n hm hms with hmem | hc
  · rcases List.mem_cons.mp hmem with rfl | hmem
    · obtain rfl := Option.some.inj (hn.symm.trans hm)
      exact .inr (hcov hms)
    · exact .inl hmem
  · exact .inr (hc.mono hsuffix.subset)

theorem configureLinks_meets (hw : s.graph.Wired) :
    Meets configureLinks s s.Refuses fun _ t => ∃ order, Walking s [] order t ∧
      ∀ node n, s.graph.nodes[node]? = some n → n.isSink = true → s.graph.Covered order node := by
  rw [configureLinks_eq]
  refine meets_bind_of_run (run_read _ s) ?_
  have start : Touring s (List.range s.graph.nodes.length) s :=
    ⟨fun _ hm => List.mem_range.mp hm, [], .start s, fun node n hn _ =>
      .inl (List.mem_range.mpr (List.getElem?_eq_some_iff.mp hn).1)⟩
  refine (meets_forM (fun _ _ _ => Touring.next hw) _ s start).imp ?_
  rintro - t ⟨-, order, h, hdone⟩
  exact ⟨order, h, fun node n hn hs => (hdone node n hn hs).resolve_left List.not_mem_nil⟩

/-! ## Configuring a fresh graph -/

/-- The config hooks of no filter refuse, whatever links they are given and in whatever order. -/
def Obliging (s : Session) : Prop :=
  ∀ n ∈ s.graph.nodes, ∀ calls : History, calls.Configuring → ∀ pad props,
    n.filter.configInput (calls ++ s.history) n.serial pad props = .done ∧
      ∀ inputs, (n.filter.configOutput (calls ++ s.history) n.serial pad props inputs).2 = .done

theorem Obliging.not_refuses (h : s.Obliging) (e : Error) : ¬ s.Refuses e := by
  rintro ⟨n, hn, calls, hc, pad, props, inputs, rep, -, hr⟩
  obtain ⟨hin, hout⟩ := h n hn calls hc pad props
  rcases hr with hr | hr
  · cases (hout inputs).symm.trans hr
  · cases hin.symm.trans hr

/-- Nothing is left out: from each sink on, the links into the source of a link settled are settled. -/
theorem Walking.covered {order : List Nat} (h : Walking s [] order t) (hu : ∀ l ∈ s.graph.links, l.state = .unconfigured)
    (hsinks : ∀ node n, s.graph.nodes[node]? = some n → n.isSink = true → s.graph.Covered order node) {a : Nat}
    (ha : s.graph.LeadsToSink a) : s.graph.Covered order a := by
  obtain ⟨b, n, hpath, hn, hs⟩ := ha
  -- from the sink back along the path
  induction hpath using Relation.ReflTransGen.head_induction_on with
  | refl => exact hsinks b n hn hs
  | head hstep _ ih =>
    obtain ⟨l, hl, rfl, hdst⟩ := hstep
    obtain ⟨i, hi⟩ := List.mem_iff_getElem?.mp hl
    exact h.closed (ih i l hi hdst (hu l hl)) hi

/-- On a fresh graph exactly the links that lead to a sink are settled. -/
theorem configureLinks_fresh (hw : s.graph.Wired) (hu : ∀ l ∈ s.graph.links, l.state = .unconfigured) :
    Meets configureLinks s s.Refuses fun _ t => ∃ order, Walking s [] order t ∧
      ∀ i l, s.graph.links[i]? = some l → (i ∈ order ↔ s.graph.LeadsToSink l.dst) := by
  refine (configureLinks_meets hw).imp ?_
  rintro - t ⟨order, h, hsinks⟩
  refine ⟨order, h, fun i l hl => ⟨fun hi => ?_, fun hsink => ?_⟩⟩
  · obtain ⟨l', hl', -, hsink⟩ := h.begun i (List.mem_append_right _ hi)
    rw [hl] at hl'
    cases hl'
    exact hsink
  · exact h.covered hu hsinks hsink i l hl rfl (hu l (List.mem_of_getElem? hl))

/-- Where there is no cycle and no node is blocked, all links of a fresh graph are. -/
theorem configureLinks_total (hw : s.graph.Wired) (hu : ∀ l ∈ s.graph.links, l.state = .unconfigured)
    (ha : s.graph.Acyclic) (hon : s.graph.Unblocked) (hr : configureLinks.run s = (.ok (), t)) :
    ∃ order, Walking s [] order t ∧ ∀ i l, s.graph.links[i]? = some l →
      i ∈ order ∧ ∃ props, t.graph.links[i]? = some { l with props, state := .configured } := by
  obtain ⟨order, hwalk, hsettled⟩ := (configureLinks_fresh hw hu).ok hr
  refine ⟨order, hwalk, fun i l hl => ?_⟩
  have hi := (hsettled i l hl).mpr (ha.leadsToSink hw hon (hw.node_lt hl .input))
  obtain ⟨l', props, hl', hk⟩ := hwalk.configured hi
  obtain rfl := Option.some.inj (hl.symm.trans hl')
  exact ⟨hi, props, hk⟩

/-- Where no filter refuses, configuring ends well. The links that lead to a sink, and no others, are settled, each once:
`order` lists them, and the calls made are theirs. When a link is settled the links into its source are, but for those on
a directed cycle with it; such a cycle takes each link once, but may come to a node more than once. So a link into the
source may come later just where the flow leads from the link back to it (`Graph.onCycle_iff_reaches`). -/
theorem links_configured_once_upstream_first (h : s.Reachable) (hu : ∀ l ∈ s.graph.links, l.state = .unconfigured)
    (hok : s.Obliging) :
    ∃ t order calls, configureLinks.run s = (.ok (), t) ∧ t.history = calls ++ s.history ∧
      Settlings s t.graph order calls ∧ order.Nodup ∧
      t.graph.nodes = s.graph.nodes ∧ t.graph.links.length = s.graph.links.length ∧
      ∀ i l, s.graph.links[i]? = some l → (i ∈ order ↔ s.graph.LeadsToSink l.dst) ∧
        ∃ k, t.graph.links[i]? = some k ∧ (k.state = .configured ↔ s.graph.LeadsToSink l.dst) ∧
          (¬ s.graph.LeadsToSink l.dst → k = l) := by
  obtain ⟨⟨⟩, t, hrun, order, hwalk, settled_iff⟩ := (configureLinks_fresh h.wired hu).total hok.not_refuses
  obtain ⟨calls, hcalls, hs⟩ := hwalk.settled
  refine ⟨t, order, calls, hrun, hcalls, hs, hs.nodup, hwalk.nodes, hwalk.size, fun i l hl => ⟨settled_iff i l hl, ?_⟩⟩
  by_cases hi : i ∈ order
  · obtain ⟨l', props, hl', hk⟩ := hwalk.configured hi
    rw [hl] at hl'
    cases hl'
    exact ⟨_, hk, iff_of_true rfl ((settled_iff i l hl).mp hi), fun hn => absurd ((settled_iff i l hl).mp hi) hn⟩
  · have hk := (hwalk.others List.not_mem_nil hi).trans hl
    refine ⟨l, hk, iff_of_false ?_ (mt (settled_iff i l hl).mpr hi), fun _ => rfl⟩
    rw [hu l (List.mem_of_getElem? hl)]
    nofun

end Session

/-! ## Two loops through one node -/

namespace Studio

/-- The config hooks never refuse, and what is made of an output link does not depend on the calls before. -/
def Plain (f : Filter) : Prop :=
  ∃ make : LinkProps → List LinkProps → LinkProps,
    (∀ h serial pad props inputs, f.configOutput h serial pad props inputs = (make props inputs, .done)) ∧
      ∀ h serial pad props, f.configInput h serial pad props = .done

theorem plain_builtin (b : Builtin) : Plain (.builtin b) :=
  ⟨b.configOutput, fun _ _ _ _ _ => rfl, fun _ _ _ _ => rfl⟩

theorem plain_declaring (d : Direction) (formats : List PixelFormat) : Plain (declaring d formats) :=
  ⟨.inheritFirst, fun _ _ _ _ _ => rfl, fun _ _ _ _ => rfl⟩

theorem obliging_of_plain {s : Session} (h : ∀ f ∈ s.graph.nodes.map (·.filter), Plain f) : s.Obliging := by
  intro n hn calls _ pad props
  obtain ⟨make, hout, hin⟩ := h n.filter (List.mem_map_of_mem hn)
  exact ⟨hin .., fun inputs => congrArg Prod.snd (hout ..)⟩

def hub : FilterType where
  name := "hub"
  inputs := [⟨.input, "in0", .video⟩, ⟨.input, "in1", .video⟩]
  outputs := [⟨.output, "out0", .video⟩, ⟨.output, "out1", .video⟩, ⟨.output, "out2", .video⟩]
  fresh := .builtin .null

/-- A hub feeds a screen and, through an overlay each, both its own inputs. -/
def loops : Session :=
  after [.openNode hub none, .openNode overlay none, .openNode overlay none, .openNode (screen []) none,
    .addNode 0, .addNode 0, .addNode 0, .addNode 0,
    .link 0 0 3 0, .link 1 0 0 0, .link 0 1 1 0, .link 2 0 0 1, .link 0 2 2 0]

theorem loops_reachable : loops.Reachable := after_reachable _

theorem loops_obliging : loops.Obliging := by
  have filters : loops.graph.nodes.map (·.filter) =
      [.builtin .null, .builtin .null, .builtin .null, declaring .input []] := rfl
  refine obliging_of_plain ?_
  rw [filters]
  simp [plain_builtin, plain_declaring]

end Studio

/-- The link that starts the second loop is settled, though the last of the first loop is in its way and no node-simple
cycle runs through both. -/
theorem Session.loops_settled :
    (∀ l ∈ Studio.loops.graph.links, l.state = .unconfigured) ∧
      ∃ t order calls, configureLinks.run Studio.loops = (.ok (), t) ∧ Settlings Studio.loops t.graph order calls ∧
        order.Nodup ∧ 4 ∈ order := by
  have fresh : ∀ l ∈ Studio.loops.graph.links, l.state = .unconfigured := by decide +kernel
  obtain ⟨t, order, calls, hrun, -, hs, hnodup, -, -, hlinks⟩ :=
    links_configured_once_upstream_first Studio.loops_reachable fresh Studio.loops_obliging
  refine ⟨fresh, t, order, calls, hrun, hs, hnodup, ?_⟩
  have out : Studio.loops.graph.links[0]? = some ⟨0, 0, 3, 0, .ofKind .video, .unconfigured⟩ := by decide +kernel
  have back : Studio.loops.graph.links[3]? = some ⟨2, 0, 0, 1, .ofKind .video, .unconfigured⟩ := by decide +kernel
  have screen : Studio.loops.graph.LeadsToSink 3 := Graph.leadsToSink_of_isSink rfl rfl
  have hub : Studio.loops.graph.LeadsToSink 0 := screen.of_link out
  have overlay : Studio.loops.graph.LeadsToSink 2 := hub.of_link back
  exact (hlinks 4 _ rfl).1.mpr overlay

end MediaGraph

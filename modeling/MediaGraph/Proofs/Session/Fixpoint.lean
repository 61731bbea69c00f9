/-
  MediaGraph.Proofs.Session.Fixpoint — what properties links end with on an acyclic graph.

  There the links into the source of a link are settled before it, so the properties
  of the links that lead to a sink solve an equation: each is what its source makes
  of the properties the link had and those its inputs end with. The equation has one
  solution, so the properties do not depend on the numbers nodes and links have, nor
  on the sink that is visited first.

  Proved: the equation, and that graphs that differ in the numbers alone end with the
  same properties (`final_props_solve_equation`).
-/

import Mathlib.Data.Option.Basic
import Mathlib.Logic.Equiv.Basic
import MediaGraph.Proofs.Session.Walk

namespace MediaGraph

open MediaGraph.Action

/-! ## Upstream first -/

namespace Session

variable {s s' u u' : Session} {node link : Equiv.Perm Nat}

/-- What a filter makes of an output link is not changed by the calls made while links are configured. -/
def Steady (s : Session) : Prop :=
  ∀ n ∈ s.graph.nodes, ∀ calls : History, calls.Configuring → ∀ pad props inputs,
    (n.filter.configOutput (calls ++ s.history) n.serial pad props inputs).1 =
      (n.filter.configOutput s.history n.serial pad props inputs).1

/-- Properties flow through a fresh acyclic graph of such filters, and no filter refuses. -/
structure Propagates (s s' : Session) : Prop where
  reachable : s.Reachable
  acyclic : s.graph.Acyclic
  fresh : ∀ l ∈ s.graph.links, l.state = .unconfigured
  steady : s.Steady
  run : configureLinks.run s = (.ok (), s')

/-- The properties of a link are what its source makes of those the link had and those its inputs have. -/
def Solves (s : Session) (g : Graph) (i : Nat) : Prop :=
  ∀ l source, s.graph.links[i]? = some l → s.graph.nodes[l.src]? = some source →
    g.props? i = some (source.filter.configOutput s.history source.serial l.srcPad l.props (g.inputProps source)).1

/-- Some time while links were configured the source made what the link has of the properties it had and of those the
source's inputs have. -/
def Makes (s : Session) (g : Graph) (i : Nat) : Prop :=
  ∀ l source, s.graph.links[i]? = some l → s.graph.nodes[l.src]? = some source →
    ∃ calls : History, calls.Configuring ∧ g.props? i =
      some (source.filter.configOutput (calls ++ s.history) source.serial l.srcPad l.props (g.inputProps source)).1

/-- Whoever makes the same at any time makes what it made. -/
theorem Makes.solves {g : Graph} {i : Nat} (h : s.Makes g i) (hsteady : s.Steady) : s.Solves g i := by
  intro l source hl hsource
  obtain ⟨calls, hcalls, hmade⟩ := h l source hl hsource
  rw [hmade, hsteady source (List.mem_of_getElem? hsource) calls hcalls]

/-- Upstream induction: what holds of a link settled whenever it holds of the links into its source. -/
theorem Settlings.upstream {g : Graph} {order : List Nat} {calls : History} (h : Settlings s g order calls)
    (hw : s.graph.Wired) (hac : s.graph.Acyclic) (hfresh : ∀ l ∈ s.graph.links, l.state = .unconfigured)
    {P : Nat → Prop}
    (hP : ∀ i l source, s.graph.links[i]? = some l → s.graph.nodes[l.src]? = some source → s.Makes g i →
      (∀ j ∈ source.inputLinks, P j) → P i) : ∀ i ∈ order, P i := by
  induction h with
  | nil => exact fun _ hi => absurd hi List.not_mem_nil
  | @cons order calls i l source _ inputs left hs _ hl hsource _ hinputs hleft hgi hup ih =>
    have upstream : ∀ j ∈ source.inputLinks, j ∈ order := by
      intro j hj
      obtain ⟨k, hk, -⟩ := (hw.mem_inputLinks_iff hsource).mp hj
      rcases hup j hj k hk (hfresh k (List.mem_of_getElem? hk)) with ho | ⟨ls, hcycle, -⟩
      · exact ho
      · exact absurd hcycle (hac ls)
    have hinputs : inputs = g.inputProps source := by
      rw [hinputs, Graph.inputProps_eq]
      exact List.filterMap_congr fun j hj => if_pos (upstream j hj)
    have makes : s.Makes g i := by
      intro l' source' hl' hsource'
      rw [hl] at hl'
      cases hl'
      rw [hsource] at hsource'
      cases hsource'
      refine ⟨calls, hs.configuring, ?_⟩
      rw [Graph.props?, hgi, ← hinputs, hleft]
      rfl
    exact List.forall_mem_cons.mpr ⟨hP i l source hl hsource makes fun j hj => ih j (upstream j hj), ih⟩

namespace Propagates

/-- The links that lead to a sink are settled, the others are as they were. -/
theorem settlings (h : Propagates s s') : ∃ order, Walking s [] order s' ∧
    ∀ i l, s.graph.links[i]? = some l → (i ∈ order ↔ s.graph.LeadsToSink l.dst) :=
  (configureLinks_fresh h.reachable.wired h.fresh).ok h.run

theorem upstream (h : Propagates s s') {order : List Nat} (hwalk : Walking s [] order s') {P : Nat → Prop}
    (hP : ∀ i l source, s.graph.links[i]? = some l → s.graph.nodes[l.src]? = some source → s.Solves s'.graph i →
      (∀ j ∈ source.inputLinks, P j) → P i) : ∀ i ∈ order, P i := by
  obtain ⟨calls, -, hs⟩ := hwalk.settled
  exact hs.upstream h.reachable.wired h.acyclic h.fresh fun i l source hl hsource hmakes =>
    hP i l source hl hsource (hmakes.solves h.steady)

theorem solves (h : Propagates s s') {i : Nat} {l : Link} (hl : s.graph.links[i]? = some l)
    (hsink : s.graph.LeadsToSink l.dst) : s.Solves s'.graph i := by
  obtain ⟨order, hwalk, hiff⟩ := h.settlings
  exact h.upstream hwalk (fun _ _ _ _ _ hsolves _ => hsolves) i ((hiff i l hl).mpr hsink)

/-- A link that leads to no sink keeps its properties. -/
theorem props?_of_not_leadsToSink (h : Propagates s s') {i : Nat}
    (hsink : ∀ l, s.graph.links[i]? = some l → ¬ s.graph.LeadsToSink l.dst) :
    s'.graph.props? i = s.graph.props? i := by
  obtain ⟨order, hwalk, hiff⟩ := h.settlings
  have hi : i ∉ order := by
    intro hi
    obtain ⟨l, hl, -, hs⟩ := hwalk.begun i (List.mem_append_right _ hi)
    exact hsink l hl hs
  rw [Graph.props?, hwalk.others List.not_mem_nil hi, Graph.props?]

end Propagates

/-! ## Other numbers -/

/-- Two instances of the same kind, at links that have other numbers. -/
structure Alike (s u : Session) (link : Equiv.Perm Nat) (n m : Node) : Prop where
  inputs : m.inputLinks = n.inputLinks.map link
  sink : m.isSink = n.isSink
  makes : ∀ pad props inputs, (m.filter.configOutput u.history m.serial pad props inputs).1 =
    (n.filter.configOutput s.history n.serial pad props inputs).1

/-- Two graphs that differ in the numbers of nodes and links alone. -/
structure Renumbered (s u : Session) (node link : Equiv.Perm Nat) : Prop where
  nodes : ∀ a, Option.Rel (Alike s u link) s.graph.nodes[a]? u.graph.nodes[node a]?
  links : ∀ i, u.graph.links[link i]? = (s.graph.links[i]?).map fun l => { l with src := node l.src, dst := node l.dst }

theorem Alike.symm {n m : Node} (h : Alike s u link n m) : Alike u s link.symm m n where
  inputs := by simp [h.inputs]
  sink := h.sink.symm
  makes pad props inputs := (h.makes pad props inputs).symm

namespace Renumbered

theorem node_of (h : Renumbered s u node link) {a : Nat} {n : Node} (hn : s.graph.nodes[a]? = some n) :
    ∃ m, u.graph.nodes[node a]? = some m ∧ Alike s u link n m := by
  have ha := h.nodes a
  rw [hn] at ha
  rcases hm : u.graph.nodes[node a]? with _ | m <;> rw [hm] at ha <;> cases ha
  exact ⟨m, rfl, ‹_›⟩

theorem link_of (h : Renumbered s u node link) {i : Nat} {l : Link} (hl : s.graph.links[i]? = some l) :
    u.graph.links[link i]? = some { l with src := node l.src, dst := node l.dst } := by
  rw [h.links, hl]
  rfl

theorem props? (h : Renumbered s u node link) (i : Nat) : u.graph.props? (link i) = s.graph.props? i := by
  rw [Graph.props?, h.links, Option.map_map, Graph.props?]
  rfl

theorem symm (h : Renumbered s u node link) : Renumbered u s node.symm link.symm where
  nodes a := by
    have ha := h.nodes (node.symm a)
    rw [node.apply_symm_apply] at ha
    generalize s.graph.nodes[node.symm a]? = n at ha ⊢
    generalize u.graph.nodes[a]? = m at ha ⊢
    cases ha with
    | some hr => exact .some hr.symm
    | none => exact .none
  links i := by
    have hi := h.links (link.symm i)
    rw [link.apply_symm_apply] at hi
    rw [hi, Option.map_map]
    cases s.graph.links[link.symm i]? <;> simp

theorem leadsToSink (h : Renumbered s u node link) {a : Nat} (ha : s.graph.LeadsToSink a) :
    u.graph.LeadsToSink (node a) := by
  obtain ⟨b, n, hpath, hn, hs⟩ := ha
  obtain ⟨m, hm, halike⟩ := h.node_of hn
  refine ⟨node b, m, ?_, hm, halike.sink.trans hs⟩
  refine Relation.ReflTransGen.lift node ?_ a b hpath
  rintro c d ⟨l, hl, rfl, rfl⟩
  obtain ⟨i, hi⟩ := List.mem_iff_getElem?.mp hl
  exact ⟨_, List.mem_of_getElem? (h.link_of hi), rfl, rfl⟩

theorem leadsToSink_iff (h : Renumbered s u node link) {a : Nat} :
    u.graph.LeadsToSink (node a) ↔ s.graph.LeadsToSink a := by
  refine ⟨fun ha => ?_, h.leadsToSink⟩
  have := h.symm.leadsToSink ha
  rwa [node.symm_apply_apply] at this

end Renumbered

/-- If the link leads to a sink, it ends with the same properties under either numbering. -/
def SameProps (s s' u' : Session) (link : Equiv.Perm Nat) (i : Nat) : Prop :=
  ∀ l, s.graph.links[i]? = some l → s.graph.LeadsToSink l.dst → u'.graph.props? (link i) = s'.graph.props? i

/-- A link ends the same if the links into its source do. -/
theorem Propagates.same_step (h : Propagates s s') (k : Propagates u u') (hr : Renumbered s u node link) {i : Nat}
    {l : Link} {source : Node} (hl : s.graph.links[i]? = some l) (hsource : s.graph.nodes[l.src]? = some source)
    (ih : ∀ j ∈ source.inputLinks, SameProps s s' u' link j) : SameProps s s' u' link i := by
  intro l' hl' hsink
  rw [hl] at hl'
  cases hl'
  obtain ⟨m, hm, alike⟩ := hr.node_of hsource
  have inputs : u'.graph.inputProps m = s'.graph.inputProps source := by
    rw [Graph.inputProps_eq, Graph.inputProps_eq, alike.inputs, List.filterMap_map]
    refine List.filterMap_congr fun j hj => ?_
    obtain ⟨k, hk, hdst⟩ := (h.reachable.wired.mem_inputLinks_iff hsource).mp hj
    exact ih j hj k hk (hdst ▸ hsink.of_link hl)
  rw [k.solves (hr.link_of hl) (hr.leadsToSink hsink) _ m (hr.link_of hl) hm, h.solves hl hsink l source hl hsource,
    inputs, alike.makes]

/-- The equation has one solution, whatever the numbers. -/
theorem Propagates.props?_renumbered (h : Propagates s s') (k : Propagates u u') (hr : Renumbered s u node link)
    (i : Nat) : u'.graph.props? (link i) = s'.graph.props? i := by
  by_cases hsink : ∃ l, s.graph.links[i]? = some l ∧ s.graph.LeadsToSink l.dst
  · obtain ⟨order, hwalk, hiff⟩ := h.settlings
    obtain ⟨l, hl, hsink⟩ := hsink
    have step : ∀ i l source, s.graph.links[i]? = some l → s.graph.nodes[l.src]? = some source → s.Solves s'.graph i →
        (∀ j ∈ source.inputLinks, SameProps s s' u' link j) → SameProps s s' u' link i :=
      fun _ _ _ hl hsource _ ih => h.same_step k hr hl hsource ih
    exact h.upstream hwalk step i ((hiff i l hl).mpr hsink) l hl hsink
  · have hs : ∀ l, s.graph.links[i]? = some l → ¬ s.graph.LeadsToSink l.dst := fun l hl hd => hsink ⟨l, hl, hd⟩
    have hu : ∀ l, u.graph.links[link i]? = some l → ¬ u.graph.LeadsToSink l.dst := by
      intro l hl hd
      rw [hr.links] at hl
      obtain ⟨l', hl', rfl⟩ := Option.map_eq_some_iff.mp hl
      exact hs l' hl' (hr.leadsToSink_iff.mp hd)
    rw [h.props?_of_not_leadsToSink hs, k.props?_of_not_leadsToSink hu, hr.props?]

/-- Where configuring a fresh acyclic graph ends well, each link that leads to a sink has what its source makes of the
properties the link had and the final ones of the source's inputs, in pad order. A graph that differs in its numbers
alone ends with the same properties. -/
theorem final_props_solve_equation (h : Propagates s s') :
    (∀ i l source, s.graph.links[i]? = some l → s.graph.LeadsToSink l.dst → s.graph.nodes[l.src]? = some source →
      s'.graph.props? i =
        some (source.filter.configOutput s.history source.serial l.srcPad l.props (s'.graph.inputProps source)).1) ∧
    ∀ u u' node link, Propagates u u' → Renumbered s u node link →
      ∀ i, u'.graph.props? (link i) = s'.graph.props? i :=
  ⟨fun _ _ source hl hsink hsource => h.solves hl hsink _ source hl hsource,
    fun _ _ _ _ k hr i => h.props?_renumbered k hr i⟩

end Session

/-! ## One chain, inserted either way round -/

namespace Studio

theorem steady_of_plain {s : Session} (h : ∀ f ∈ s.graph.nodes.map (·.filter), Plain f) : s.Steady := by
  intro n hn calls _ pad props inputs
  obtain ⟨make, hout, -⟩ := h n.filter (List.mem_map_of_mem hn)
  rw [hout, hout]

def generator : FilterType where
  name := "generator"
  outputs := [⟨.output, "default", .video⟩]
  fresh := .builtin (.nullSource {})

/-- Generator to overlay to screen. -/
def chain (wiring : List Request) : Session :=
  after ([.openNode generator none, .openNode overlay none, .openNode (screen []) none] ++ wiring)

def forward : Session := chain [.addNode 0, .addNode 0, .addNode 0, .link 0 0 1 0, .link 1 0 2 0]

def backward : Session := chain [.addNode 2, .addNode 1, .addNode 0, .link 1 0 0 0, .link 2 0 1 0]

theorem forward_propagates : forward.Propagates (Session.configureLinks.run forward).2 where
  reachable := after_reachable _
  acyclic := Graph.acyclic_of_rank id (by decide +kernel)
  fresh := by decide +kernel
  steady := by
    have filters : forward.graph.nodes.map (·.filter) =
        [.builtin (.nullSource {}), .builtin .null, declaring .input []] := rfl
    refine steady_of_plain ?_
    rw [filters]
    simp [plain_builtin, plain_declaring]
  run := run_eq_of_ok (by decide +kernel)

theorem backward_propagates : backward.Propagates (Session.configureLinks.run backward).2 where
  reachable := after_reachable _
  acyclic := Graph.acyclic_of_rank (2 - ·) (by decide +kernel)
  fresh := by decide +kernel
  steady := by
    have filters : backward.graph.nodes.map (·.filter) =
        [declaring .input [], .builtin .null, .builtin (.nullSource {})] := rfl
    refine steady_of_plain ?_
    rw [filters]
    simp [plain_builtin, plain_declaring]
  run := run_eq_of_ok (by decide +kernel)

theorem backward_renumbers : Session.Renumbered forward backward (Equiv.swap 0 2) (Equiv.swap 0 1) where
  nodes
    | 0 => .some ⟨rfl, rfl, fun _ _ _ => rfl⟩
    | 1 => .some ⟨rfl, rfl, fun _ _ _ => rfl⟩
    | 2 => .some ⟨rfl, rfl, fun _ _ _ => rfl⟩
    | a + 3 => .none
  links
    | 0 => by decide +kernel
    | 1 => by decide +kernel
    | i + 2 => rfl

end Studio

theorem Session.chains_end_alike :
    Studio.forward.Propagates (configureLinks.run Studio.forward).2 ∧
      (configureLinks.run Studio.forward).2.graph.props? 1 = some { kind := .video, width := 320, height := 240 } ∧
      ∀ i, (configureLinks.run Studio.backward).2.graph.props? (Equiv.swap 0 1 i) =
        (configureLinks.run Studio.forward).2.graph.props? i := by
  obtain ⟨equation, same⟩ := final_props_solve_equation Studio.forward_propagates
  have screen : Studio.forward.graph.LeadsToSink 2 := Graph.leadsToSink_of_isSink rfl rfl
  have last : Studio.forward.graph.links[1]? = some ⟨1, 0, 2, 0, .ofKind .video, .unconfigured⟩ := by decide +kernel
  refine ⟨Studio.forward_propagates, (equation 1 _ _ last screen rfl).trans ?_, fun i => ?_⟩
  · decide +kernel
  · exact same _ _ _ _ Studio.backward_propagates Studio.backward_renumbers i

end MediaGraph

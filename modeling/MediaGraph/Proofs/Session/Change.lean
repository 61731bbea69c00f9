/-
  MediaGraph.Proofs.Session.Change — all that happens to a session.

  Whatever is asked of a session, and wherever it fails, what happened to it is a
  sequence of changes (`Change`): something was noted beside the graph, a new
  instance took its place in it, a link was made or a node spliced into one, a link
  was marked, or a filter's answer was written to one. No call is ever taken back
  and no serial used again (`Later`).

  What each change keeps is kept by all: the graph stays wired (`Change.wired`); its
  links stay of the kind of their pads unless a filter gives one another kind
  (`Change.matched`); and no two instances have one serial (`Change.numbered`).
-/

import Mathlib.Data.List.Perm.Subperm
import Mathlib.Logic.Relation
import MediaGraph.Negotiation
import MediaGraph.Proofs.Action
import MediaGraph.Proofs.Graph.Wiring

namespace MediaGraph

open MediaGraph.Action

/-- Whoever configured an output left the kind it was given. -/
def Call.KeepsKind : Call → Prop
  | configOutput _ given _ left _ => left.kind = given.kind
  | _ => True

instance : DecidablePred Call.KeepsKind
  | .configOutput _ given _ left _ => inferInstanceAs (Decidable (left.kind = given.kind))
  | .opened _ | .init _ _ _ | .query _ _ _ | .configInput _ _ _ | .uninit => isTrue trivial

def History.KeepsKinds (calls : History) : Prop := ∀ r ∈ calls, r.call.KeepsKind

instance (calls : History) : Decidable calls.KeepsKinds := List.decidableBAll _ calls

theorem Registry.name_of_lookup {r : Registry} {name : String} {t : FilterType} (h : r.lookup name = some t) :
    t.name = name := by
  unfold lookup at h
  simpa using List.find?_some h

namespace Session

variable {s s' s'' : Session} {α : Type}

/-! ## Single calls -/

theorem run_withSpan (wanted : Bool) (span : Span) (x : Action Session α) (s : Session) :
    (withSpan wanted span x).run s =
      if wanted then
        let r := x.run { s with spans := s.spans ++ [span] }
        (r.1, { r.2 with spans := r.2.spans.dropLast })
      else x.run s := by
  unfold withSpan
  split <;> rfl

theorem run_queryNode (n : Node) (s : Session) :
    (queryNode n).run s = (.ok (n.filter.query s.history n.serial n.layout),
      s.note n.serial (.query n.layout (n.filter.query s.history n.serial n.layout).1
        (n.filter.query s.history n.serial n.layout).2)) := rfl

/-- The session after a filter was asked for its formats. -/
def asked (s : Session) (n : Node) : Session := ((ask n).run s).2

theorem run_ask (n : Node) (s : Session) :
    (ask n).run s = (.ok (n.filter.query s.history n.serial n.layout), s.asked n) := by
  refine Prod.ext ?_ rfl
  unfold ask
  simp only [run_bind, run_read, run_withSpan, run_queryNode]
  cases s.options.tracing.filterSpans <;> rcases n.filter.query s.history n.serial n.layout with ⟨ds, _ | r⟩ <;> rfl

/-- Asking leaves a record of the call, and otherwise changes nothing but notices. -/
theorem asked_eq (n : Node) (s : Session) : (s.asked n).graph = s.graph ∧ (s.asked n).opened = s.opened ∧
    (s.asked n).history = ⟨n.serial, .query n.layout (n.filter.query s.history n.serial n.layout).1
      (n.filter.query s.history n.serial n.layout).2⟩ :: s.history := by
  unfold asked ask
  simp only [run_bind, run_read, run_withSpan, run_queryNode]
  cases s.options.tracing.filterSpans <;> rcases n.filter.query s.history n.serial n.layout with ⟨ds, _ | r⟩ <;>
    exact ⟨rfl, rfl, rfl⟩

@[simp] theorem graph_asked (n : Node) (s : Session) : (s.asked n).graph = s.graph := (asked_eq n s).1

theorem node_asked {s : Session} {i : Nat} {n : Node} (hn : s.graph.nodes[i]? = some n) :
    (s.asked n).graph.nodes[i]? = some n := by rw [graph_asked, hn]

theorem registry_asked (n : Node) (s : Session) : (s.asked n).registry = s.registry := by
  unfold asked ask
  simp only [run_bind, run_read, run_withSpan, run_queryNode]
  cases s.options.tracing.filterSpans <;> rcases n.filter.query s.history n.serial n.layout with ⟨ds, _ | r⟩ <;> rfl

theorem run_nodeAt {s : Session} {i : Nat} {n : Node} (hn : s.graph.nodes[i]? = some n) :
    (nodeAt i).run s = (.ok n, s) := run_expect_ok.mpr ⟨hn, rfl⟩

theorem run_linkAt {s : Session} {i : Nat} {l : Link} (hl : s.graph.links[i]? = some l) :
    (linkAt i).run s = (.ok l, s) := run_expect_ok.mpr ⟨hl, rfl⟩

theorem run_edit (f : Graph → Except Error (Nat × Graph)) (s : Session) :
    (edit f).run s = match f s.graph with
      | .ok (link, graph) => (.ok link, { s with graph })
      | .error e => (.error e, s) := by
  unfold edit
  rw [run_bind, run_read]
  rcases f s.graph with e | ⟨link, graph⟩ <;> rfl

/-- An instance is opened and initialized, and then either added or uninitialized. -/
theorem run_create (type : String) (name args : Option String) (context : Option Context) (s : Session) :
    (create type name args context).run s = match s.registry.lookup type with
      | none => (.error (.unknownType type), s)
      | some t =>
        let n := Node.ofType t name s.opened
        let fresh : Session := { s.note s.opened (.opened t.name) with opened := s.opened + 1 }
        let r := n.filter.init fresh.history s.opened args context
        let called := fresh.note s.opened (.init args context r.2)
        match r.2 with
        | .done => (.ok s.graph.nodes.length, { called with graph := s.graph.addNode { n with filter := r.1 } })
        | .refused rep =>
          (.error (.reported rep), (called.tell (.initFailed n.display type rep)).note s.opened .uninit) := by
  unfold create
  rw [run_bind, run_read]
  cases s.registry.lookup type with
  | none => rfl
  | some t =>
    let n := Node.ofType t name s.opened
    let fresh : Session := { s.note s.opened (.opened t.name) with opened := s.opened + 1 }
    let r := n.filter.init fresh.history s.opened args context
    have ho : (openNode t name).run s = (.ok n, fresh) := rfl
    have hi : (initNode n args context).run fresh =
        (.ok ({ n with filter := r.1 }, r.2), fresh.note s.opened (.init args context r.2)) := rfl
    simp only [run_bind, ho, hi]
    cases r.2 <;> rfl

/-- The nodes are uninitialized one after the other, from the last to the first. -/
theorem free_eq (s : Session) : s.free.graph = {} ∧ s.free.opened = s.opened ∧
    s.free.history = s.graph.nodes.map (⟨·.serial, .uninit⟩) ++ s.history := by
  have fold : ∀ (nodes : List Node) (s : Session), (nodes.foldl destroy s).opened = s.opened ∧
      (nodes.foldl destroy s).history = nodes.reverse.map (⟨·.serial, .uninit⟩) ++ s.history := by
    intro nodes
    induction nodes with
    | nil => exact fun s => ⟨rfl, rfl⟩
    | cons n nodes ih =>
      intro s
      obtain ⟨ho, hh⟩ := ih (s.destroy n)
      refine ⟨ho, hh.trans ?_⟩
      rw [List.reverse_cons, List.map_append, List.append_assoc]
      rfl
  obtain ⟨ho, hh⟩ := fold s.graph.nodes.reverse s
  rw [List.reverse_reverse] at hh
  exact ⟨rfl, ho, hh⟩

/-! ## Changes -/

/-- `s'` is `s` later on: no call was taken back, and no serial is used again. -/
structure Later (s s' : Session) : Prop where
  opened : s.opened ≤ s'.opened
  history : ∃ calls, s'.history = calls ++ s.history

namespace Later

theorem of_eq (ho : s'.opened = s.opened) (hh : s'.history = s.history) : Later s s' :=
  ⟨Nat.le_of_eq ho.symm, [], hh⟩

theorem refl (s : Session) : Later s s := of_eq rfl rfl

theorem note (s : Session) (serial : Nat) (call : Call) : Later s (s.note serial call) :=
  ⟨Nat.le_refl _, [⟨serial, call⟩], rfl⟩

theorem trans (h : Later s s') (h' : Later s' s'') : Later s s'' := by
  obtain ⟨ho, calls, hh⟩ := h
  obtain ⟨ho', calls', hh'⟩ := h'
  exact ⟨Nat.le_trans ho ho', calls' ++ calls, by rw [hh', hh, List.append_assoc]⟩

/-- Filters that kept the kinds of links until later kept them until now. -/
theorem keepsKinds (h : Later s s') (hk : s'.history.KeepsKinds) : s.history.KeepsKinds := by
  obtain ⟨calls, hh⟩ := h.history
  exact fun r hr => hk r (by rw [hh]; exact List.mem_append_right calls hr)

end Later

/-- Something happened beside the graph. -/
structure Aside (s s' : Session) : Prop extends Later s s' where
  graph : s'.graph = s.graph

theorem Aside.refl (s : Session) : Aside s s := ⟨.refl s, rfl⟩

/-- A new instance was opened and added. -/
structure Added (s : Session) (n : Node) (s' : Session) : Prop extends Later s s' where
  unbound : n.Unbound
  serial : n.serial = s.opened
  issued : s.opened < s'.opened
  graph : s'.graph = s.graph.addNode n

/-- All that happens to a session. -/
inductive Change (s : Session) : Session → Prop
  /-- Notices, spans, options and calls to filters. -/
  | aside {s' : Session} : Aside s s' → Change s s'
  | add {n : Node} {s' : Session} : Added s n s' → Change s s'
  | link {src srcPad dst dstPad j : Nat} {graph : Graph} : s.graph.link src srcPad dst dstPad = .ok (j, graph) →
      Change s { s with graph }
  | insert {link node inPad outPad j : Nat} {graph : Graph} : s.graph.insert link node inPad outPad = .ok (j, graph) →
      Change s { s with graph }
  /-- The state or the format of a link. -/
  | mark (link : Nat) {f : Link → Link} : (∀ l, (f l).port = l.port ∧ (f l).kind = l.kind) →
      Change s { s with graph := s.graph.modifyLink link f }
  /-- What a filter left of the properties of a link is written to it. -/
  | configure {link : Nat} {l : Link} (serial pad : Nat) (inputs : List LinkProps) (left : LinkProps) (answer : Answer) :
      s.graph.links[link]? = some l →
      Change s { s.note serial (.configOutput pad l.props inputs left answer) with
        graph := s.graph.modifyLink link ({ · with props := left }) }

abbrev Changes : Session → Session → Prop := Relation.ReflTransGen Change

theorem Change.later (h : Change s s') : Later s s' := by
  cases h with
  | aside h => exact h.toLater
  | add h => exact h.toLater
  | link | insert | mark => exact .of_eq rfl rfl
  | configure => exact ⟨Nat.le_refl _, [_], rfl⟩

theorem Change.wired (h : Change s s') (hw : s.graph.Wired) : s'.graph.Wired := by
  cases h with
  | aside h => exact h.graph ▸ hw
  | add h => exact h.graph ▸ hw.addNode h.unbound
  | link h =>
    obtain ⟨kind, hp, -, rfl⟩ := Graph.link_ok h
    refine hw.pushLink (fun d => ?_) fun d => (hp d).2
    obtain ⟨p, hp, -⟩ := Option.map_eq_some_iff.mp (hp d).1
    rw [hp]
    rfl
  | insert h =>
    obtain ⟨-, l, hl⟩ := Graph.insert_ok h
    exact hw.splice hl
  | mark link hf => exact hw.modifyLink link fun l => (hf l).1
  | configure => exact hw.modifyLink _ fun _ => rfl

/-- Only a filter that is given one kind and leaves another can set a link apart from its pads. -/
theorem Change.matched (h : Change s s') (hm : s.history.KeepsKinds → s.graph.Matched) (hk : s'.history.KeepsKinds) :
    s'.graph.Matched := by
  have hm := hm (h.later.keepsKinds hk)
  cases h with
  | aside h => exact h.graph ▸ hm
  | add h => exact h.graph ▸ hm.addNode _
  | link h =>
    obtain ⟨kind, hp, -, rfl⟩ := Graph.link_ok h
    exact hm.pushLink fun d => (hp d).1
  | insert h =>
    obtain ⟨-, l, hl⟩ := Graph.insert_ok h
    exact hm.splice hl
  | mark link hf => exact hm.modifyLink link fun l _ => hf l
  | configure serial pad inputs left answer hl =>
    refine hm.modifyLink _ fun k hk' => ⟨rfl, ?_⟩
    rw [hl] at hk'
    cases hk'
    exact hk _ List.mem_cons_self

/-- Nodes and links are only ever appended. -/
theorem Change.size_le (h : Change s s') :
    s.graph.nodes.length ≤ s'.graph.nodes.length ∧ s.graph.links.length ≤ s'.graph.links.length := by
  cases h with
  | aside h => rw [h.graph]; exact ⟨Nat.le_refl _, Nat.le_refl _⟩
  | add h => rw [h.graph]; simp [Graph.addNode]
  | link h =>
    obtain ⟨kind, -, -, rfl⟩ := Graph.link_ok h
    simp
  | insert h =>
    obtain ⟨-, l, hl⟩ := Graph.insert_ok h
    exact ⟨Nat.le_of_eq hl.nodes.symm, by rw [hl.links]; simp⟩
  | mark | configure => simp [Graph.modifyLink]

theorem Changes.size_le (h : Changes s s') :
    s.graph.nodes.length ≤ s'.graph.nodes.length ∧ s.graph.links.length ≤ s'.graph.links.length := by
  induction h with
  | refl => exact ⟨Nat.le_refl _, Nat.le_refl _⟩
  | tail _ hc ih => exact ⟨Nat.le_trans ih.1 hc.size_le.1, Nat.le_trans ih.2 hc.size_le.2⟩

/-- Nodes keep all but their bindings. -/
theorem Change.detached (h : Change s s') : s.graph.nodes.map Node.detached <+: s'.graph.nodes.map Node.detached := by
  cases h with
  | aside h => exact h.graph ▸ List.prefix_rfl
  | add h =>
    rw [h.graph, Graph.addNode, List.map_append]
    exact List.prefix_append _ _
  | link h =>
    obtain ⟨kind, -, -, rfl⟩ := Graph.link_ok h
    exact (Graph.detached_pushLink _).symm ▸ List.prefix_rfl
  | insert h =>
    obtain ⟨-, l, hl⟩ := Graph.insert_ok h
    exact hl.detached.symm ▸ List.prefix_rfl
  | mark | configure => exact List.prefix_rfl

theorem Changes.detached (h : Changes s s') : s.graph.nodes.map Node.detached <+: s'.graph.nodes.map Node.detached := by
  induction h with
  | refl => exact List.prefix_rfl
  | tail _ hc ih => exact ih.trans hc.detached

theorem Changes.later (h : Changes s s') : Later s s' := by
  induction h with
  | refl => exact .refl s
  | tail _ hc ih => exact ih.trans hc.later

theorem exists_of_mem_detached {nodes : List Node} {n : Node} (h : n.detached ∈ nodes.map Node.detached) :
    ∃ m ∈ nodes, m.detached = n.detached ∧ m.serial = n.serial := by
  obtain ⟨m, hm, e⟩ := List.mem_map.mp h
  have same : m.detached.serial = n.detached.serial := congrArg Node.serial e
  exact ⟨m, hm, e, same⟩

/-- A node was there before, bindings apart, or was opened since. -/
theorem Change.origin (h : Change s s') {n : Node} (hn : n ∈ s'.graph.nodes) :
    n.detached ∈ s.graph.nodes.map Node.detached ∨ s.opened ≤ n.serial := by
  have same : ∀ {t : Session}, t.graph.nodes.map Node.detached = s.graph.nodes.map Node.detached → n ∈ t.graph.nodes →
      n.detached ∈ s.graph.nodes.map Node.detached := fun hd hn => hd ▸ List.mem_map_of_mem hn
  cases h with
  | aside h => exact .inl (same (by rw [h.graph]) hn)
  | add h =>
    rw [h.graph] at hn
    rcases List.mem_append.mp hn with hn | hn
    · exact .inl (List.mem_map_of_mem hn)
    · rw [List.mem_singleton.mp hn, h.serial]
      exact .inr (Nat.le_refl _)
  | link h =>
    obtain ⟨kind, -, -, rfl⟩ := Graph.link_ok h
    exact .inl (same (Graph.detached_pushLink _) hn)
  | insert h =>
    obtain ⟨-, l, hl⟩ := Graph.insert_ok h
    exact .inl (same hl.detached hn)
  | mark | configure => exact .inl (List.mem_map_of_mem hn)

theorem Changes.origin (h : Changes s s') {n : Node} (hn : n ∈ s'.graph.nodes) :
    n.detached ∈ s.graph.nodes.map Node.detached ∨ s.opened ≤ n.serial := by
  induction h generalizing n with
  | refl => exact .inl (List.mem_map_of_mem hn)
  | tail hs hc ih =>
    rcases hc.origin hn with hold | hnew
    · obtain ⟨m, hm, e, same⟩ := exists_of_mem_detached hold
      rcases ih hm with hm | hm
      · exact .inl (e ▸ hm)
      · exact .inr (same ▸ hm)
    · exact .inr (Nat.le_trans (Changes.later hs).opened hnew)

theorem Changes.wired (h : Changes s s') (hw : s.graph.Wired) : s'.graph.Wired := by
  induction h with
  | refl => exact hw
  | tail _ hc ih => exact hc.wired ih

/-! ### Serials -/

/-- No two instances have one serial, those kept outside the graph included, and none has the next one. -/
structure Numbered (s : Session) (loose : List Node) : Prop where
  nodup : ((s.graph.nodes ++ loose).map (·.serial)).Nodup
  used : ∀ n ∈ s.graph.nodes ++ loose, n.serial < s.opened

/-- Instances gone leave the others their serials. -/
theorem Numbered.of_subperm {loose loose' : List Node} (h : Numbered s loose) (ho : s.opened ≤ s'.opened)
    (hn : ((s'.graph.nodes ++ loose').map (·.serial)).Subperm ((s.graph.nodes ++ loose).map (·.serial))) :
    Numbered s' loose' := by
  constructor
  · obtain ⟨l, hperm, hsub⟩ := hn
    exact hperm.nodup_iff.mp (h.nodup.sublist hsub)
  · intro n hmem
    obtain ⟨m, hm, e⟩ := List.mem_map.mp (hn.subset (List.mem_map_of_mem hmem))
    exact e ▸ Nat.lt_of_lt_of_le (h.used m hm) ho

theorem Numbered.of_serials {loose : List Node} (h : Numbered s loose) (ho : s.opened ≤ s'.opened)
    (hn : s'.graph.nodes.map (·.serial) = s.graph.nodes.map (·.serial)) : Numbered s' loose :=
  h.of_subperm ho (by rw [List.map_append, hn, List.map_append])

theorem serials_of_detached {g g' : Graph} (h : g'.nodes.map Node.detached = g.nodes.map Node.detached) :
    g'.nodes.map (·.serial) = g.nodes.map (·.serial) := by
  have hs := congrArg (List.map (·.serial)) h
  rw [List.map_map, List.map_map] at hs
  exact hs

theorem Change.numbered {loose : List Node} (h : Change s s') (hn : Numbered s loose) : Numbered s' loose := by
  cases h with
  | aside h => exact hn.of_serials h.opened (by rw [h.graph])
  | @add n s' h =>
    have hperm : (s'.graph.nodes ++ loose).Perm (n :: (s.graph.nodes ++ loose)) := by
      rw [h.graph, Graph.addNode, List.append_assoc]
      exact List.perm_middle
    constructor
    · rw [(hperm.map _).nodup_iff, List.map_cons, List.nodup_cons, h.serial]
      refine ⟨fun hmem => ?_, hn.nodup⟩
      obtain ⟨m, hm, e⟩ := List.mem_map.mp hmem
      exact absurd e (Nat.ne_of_lt (hn.used m hm))
    · intro m hm
      rcases List.mem_cons.mp (hperm.mem_iff.mp hm) with rfl | hm
      · rw [h.serial]
        exact h.issued
      · exact Nat.lt_of_lt_of_le (hn.used m hm) h.opened
  | link h =>
    obtain ⟨kind, -, -, rfl⟩ := Graph.link_ok h
    exact hn.of_serials (Nat.le_refl _) (serials_of_detached (Graph.detached_pushLink _))
  | insert h =>
    obtain ⟨-, l, hl⟩ := Graph.insert_ok h
    exact hn.of_serials (Nat.le_refl _) (serials_of_detached hl.detached)
  | mark => exact hn.of_serials (Nat.le_refl _) rfl
  | configure => exact hn.of_serials (Nat.le_refl _) rfl

/-! ## What actions change -/

variable {s₀ : Session}

theorem keeps_aside {x : Action Session α} (h : ∀ s, Aside s (x.run s).2) : Keeps (Changes s₀) x :=
  fun s hs => hs.tail (.aside (h s))

theorem aside_note (s : Session) (serial : Nat) (call : Call) : Aside s (s.note serial call) := ⟨.note .., rfl⟩

theorem aside_tell (s : Session) (n : Notice) : Aside s (s.tell n) := ⟨.of_eq rfl rfl, rfl⟩

theorem aside_asked (n : Node) (s : Session) : Aside s (s.asked n) := by
  obtain ⟨hg, ho, hh⟩ := asked_eq n s
  exact ⟨⟨Nat.le_of_eq ho.symm, [_], hh⟩, hg⟩

theorem keeps_notice (n : Notice) : Keeps (Changes s₀) (notice n) := keeps_aside fun s => aside_tell s n

theorem keeps_nodeAt {P : Session → Prop} (i : Nat) : Keeps P (nodeAt i) := keeps_expect _

theorem keeps_linkAt {P : Session → Prop} (i : Nat) : Keeps P (linkAt i) := keeps_expect _

theorem keeps_withSpan {P : Session → Prop} (hP : ∀ (s : Session) spans, P s → P { s with spans }) (wanted : Bool)
    (span : Span) {x : Action Session α} (hx : Keeps P x) : Keeps P (withSpan wanted span x) := by
  unfold withSpan
  split
  · exact keeps_bind (keeps_update fun s h => hP s _ h) fun _ => keeps_always hx fun s h => hP s _ h
  · exact hx

theorem changes_spans (s : Session) (spans : List Span) (h : Changes s₀ s) : Changes s₀ { s with spans } :=
  h.tail (.aside ⟨.of_eq rfl rfl, rfl⟩)

/-- What creating an instance comes to. -/
structure Created (s : Session) (type : String) (name args : Option String) (context : Option Context) (n : Node)
    (s' : Session) : Prop extends Added s n s' where
  name : n.name = name
  type : n.type.name = type
  calls : s'.history = ⟨n.serial, .init args context .done⟩ :: ⟨n.serial, .opened n.type.name⟩ :: s.history

/-- Either an instance was created, or the graph is as it was. -/
theorem create_cases (type : String) (name args : Option String) (context : Option Context) (s : Session) :
    (∃ e s', (create type name args context).run s = (.error e, s') ∧ e ≠ .corrupt ∧ Aside s s') ∨
      ∃ n s', (create type name args context).run s = (.ok s.graph.nodes.length, s') ∧
        Created s type name args context n s' := by
  rw [run_create]
  cases hl : s.registry.lookup type with
  | none => exact Or.inl ⟨_, _, rfl, nofun, .refl s⟩
  | some t =>
    simp only
    split
    · rename_i hr
      let n := Node.ofType t name s.opened
      let r := n.filter.init (⟨s.opened, .opened t.name⟩ :: s.history) s.opened args context
      refine Or.inr ⟨{ n with filter := r.1 }, _, rfl,
        ⟨⟨⟨Nat.le_succ _, [_, _], rfl⟩, fun d => Node.unbound_ofType t name s.opened d, rfl, Nat.lt_succ_self _, rfl⟩,
          rfl, Registry.name_of_lookup hl, ?_⟩⟩
      rw [← hr]
      rfl
    · exact Or.inl ⟨_, _, rfl, nofun, ⟨Nat.le_succ _, [_, _, _], rfl⟩, rfl⟩

theorem keeps_create (type : String) (name args : Option String) (context : Option Context) :
    Keeps (Changes s₀) (create type name args context) := by
  intro s h
  rcases create_cases type name args context s with ⟨e, s', hr, -, ha⟩ | ⟨n, s', hr, hc⟩ <;> rw [hr]
  · exact h.tail (.aside ha)
  · exact h.tail (.add hc.toAdded)

theorem keeps_edit {P : Session → Prop} {f : Graph → Except Error (Nat × Graph)}
    (hf : ∀ s, P s → ∀ {j graph}, f s.graph = .ok (j, graph) → P { s with graph }) : Keeps P (edit f) := by
  intro s h
  rw [run_edit]
  split
  · rename_i j graph hg
    exact hf s h hg
  · exact h

theorem keeps_link (src srcPad dst dstPad : Nat) : Keeps (Changes s₀) (link src srcPad dst dstPad) :=
  keeps_edit fun _ h _ _ hg => h.tail (.link hg)

theorem keeps_insert (link node inPad outPad : Nat) : Keeps (Changes s₀) (insert link node inPad outPad) :=
  keeps_edit fun _ h _ _ hg => h.tail (.insert hg)

theorem keeps_updateLink (link : Nat) {f : Link → Link} (hf : ∀ l, (f l).port = l.port ∧ (f l).kind = l.kind) :
    Keeps (Changes s₀) (updateLink link f) := keeps_update fun _ h => h.tail (.mark link hf)

end Session

end MediaGraph

/-
  MediaGraph.Proofs.Session.Edits — when an edit of the graph succeeds, and what it changes.

  An edit asks for pads that are there, bound to nothing and of the kind it needs
  (`Graph.Free`). A node is spliced into a link if its two pads are free and of the
  link's kind, whichever node it is: also one the link runs from or to
  (`insert_isOk_iff`). Then just three pads change what they are bound to and one
  link where it ends (`splicing_law`).

  An edit that fails does so before it touches the graph: a link is made where its two
  pads are free and of one kind (`link_isOk_iff`), an instance where its type is
  registered and it initializes (`create_isOk_iff`), and otherwise all is as it was
  (`edits_all_or_nothing`).
-/

import MediaGraph.Proofs.Session.Walk

namespace MediaGraph

namespace Graph

variable {g : Graph} {node pad : Nat} {d : Direction} {kind : MediaKind}

/-- The node has this pad, bound to nothing and of the kind. -/
def Free (g : Graph) (node : Nat) (d : Direction) (pad : Nat) (kind : MediaKind) : Prop :=
  ∃ n p, g.nodes[node]? = some n ∧ (n.pads d)[pad]? = some p ∧ p.link = none ∧ p.kind = kind

theorem freePad_eq_ok {n : Node} {p : Pad} (hn : g.nodes[node]? = some n) (hp : (n.pads d)[pad]? = some p)
    (hl : p.link = none) : g.freePad node d pad = .ok (n, p) := by
  simp [freePad, hn, hp, Pad.isLinked, hl]

theorem free_iff : g.Free node d pad kind ↔
    g.kindAt? ⟨node, d, pad⟩ = some kind ∧ g.bound? ⟨node, d, pad⟩ = none := by
  simp only [Free, kindAt?, bound?, padAt?, pad?]
  cases hn : g.nodes[node]? with
  | none => simp
  | some n =>
    cases hp : (n.pads d)[pad]? with
    | none => simp [hp]
    | some p => simp [hp, and_comm]

theorem Free.exists_pad (h : g.Free node d pad kind) : ∃ n p, g.freePad node d pad = .ok (n, p) ∧ p.kind = kind := by
  obtain ⟨n, p, hn, hp, hl, hk⟩ := h
  exact ⟨n, p, freePad_eq_ok hn hp hl, hk⟩

/-- A link needs two free pads of one kind, and nothing else. -/
theorem link_isOk_iff {src srcPad dst dstPad : Nat} :
    (∃ j g', g.link src srcPad dst dstPad = .ok (j, g')) ↔
      ∃ kind, g.Free src .output srcPad kind ∧ g.Free dst .input dstPad kind := by
  constructor
  · intro hok
    obtain ⟨j, g', hok⟩ := hok
    obtain ⟨kind, hpads, -⟩ := link_ok hok
    exact ⟨kind, free_iff.mpr (hpads .output), free_iff.mpr (hpads .input)⟩
  · intro hfree
    obtain ⟨kind, hsrc, hdst⟩ := hfree
    obtain ⟨n, p, hn, hpk⟩ := hsrc.exists_pad
    obtain ⟨m, q, hm, hqk⟩ := hdst.exists_pad
    simp [link, hn, hm, hpk, hqk, bind, Except.bind]

/-- In a wired graph a splice needs the link and two free pads of its kind, and nothing else. -/
theorem insert_isOk_iff (hg : g.Wired) {link inPad outPad : Nat} :
    (∃ j g', g.insert link node inPad outPad = .ok (j, g')) ↔
      ∃ l, g.links[link]? = some l ∧ g.Free node .input inPad l.kind ∧ g.Free node .output outPad l.kind := by
  constructor
  · intro hok
    obtain ⟨j, g', hok⟩ := hok
    obtain ⟨-, l, hs⟩ := insert_ok hok
    exact ⟨l, hs.found, free_iff.mpr ⟨hs.inKind, hs.inFree⟩, free_iff.mpr ⟨hs.outKind, hs.outFree⟩⟩
  · intro hfree
    obtain ⟨l, hl, ⟨n, p, hn, hp, hpl, hpk⟩, ⟨m, q, hm, hq, hql, hqk⟩⟩ := hfree
    have hdst := padAt?_isSome_of_bound (hg.ends hl .input)
    rw [padAt?, Link.port, ← Option.not_isNone, Bool.not_eq_true'] at hdst
    simp [insert, hl, freePad_eq_ok hn hp hpl, freePad_eq_ok hm hq hql, hpk, hqk, hdst, bind, Except.bind]

namespace Spliced

variable {g' : Graph} {link inPad outPad : Nat} {l : Link} (h : g.Spliced link node inPad outPad l g')
include h

theorem link_of_other {i : Nat} (hi : i ≠ link) (hnew : i ≠ g.links.length) : g'.links[i]? = g.links[i]? := by
  refine Option.ext fun m => ?_
  rw [h.links_iff]
  simp [hi, hnew]

theorem bound_in : g'.bound? ⟨node, .input, inPad⟩ = some link := by rw [h.bound, if_pos rfl]

theorem bound_out : g'.bound? ⟨node, .output, outPad⟩ = some g.links.length := by
  rw [h.bound, if_neg (by simp), if_pos (.inl rfl)]

theorem bound_of_other {p : Port} (hin : p ≠ ⟨node, .input, inPad⟩) (hout : p ≠ ⟨node, .output, outPad⟩)
    (hdst : p ≠ l.port .input) : g'.bound? p = g.bound? p := by
  rw [h.bound, if_neg hin, if_neg (not_or.mpr ⟨hout, hdst⟩)]

/-- The pad the link ended at was bound, so it is none of the two free ones. -/
theorem bound_dst (hg : g.Wired) : g'.bound? (l.port .input) = some g.links.length := by
  rw [h.bound, if_neg (h.ne_of_bound (hg.ends h.found .input)).1, if_pos (.inr rfl)]

end Spliced

end Graph

namespace Session

theorem run_insert_ok {s : Session} {link node inPad outPad j : Nat}
    (hr : ((insert link node inPad outPad).run s).1 = .ok j) :
    ∃ g, s.graph.insert link node inPad outPad = .ok (j, g) ∧
      ((insert link node inPad outPad).run s).2 = { s with graph := g } := by
  rw [insert, run_edit] at hr ⊢
  rcases hi : s.graph.insert link node inPad outPad with e | ⟨k, g⟩ <;> rw [hi] at hr
  · cases hr
  · obtain rfl : k = j := by simpa using hr
    exact ⟨g, rfl, rfl⟩

theorem run_edit_isOk {s : Session} {f : Graph → Except Error (Nat × Graph)} :
    (∃ j, ((edit f).run s).1 = .ok j) ↔ ∃ j g, f s.graph = .ok (j, g) := by
  rw [run_edit]
  rcases f s.graph with e | ⟨j, g⟩ <;> simp

theorem run_edit_error {s : Session} {f : Graph → Except Error (Nat × Graph)} {e : Error}
    (hr : ((edit f).run s).1 = .error e) : f s.graph = .error e ∧ ((edit f).run s).2 = s := by
  rw [run_edit] at hr ⊢
  rcases hf : f s.graph with e' | ⟨j, g⟩ <;> rw [hf] at hr <;> cases hr
  exact ⟨rfl, rfl⟩

theorem run_insert_isOk {s : Session} {link node inPad outPad : Nat} :
    (∃ j, ((insert link node inPad outPad).run s).1 = .ok j) ↔
      ∃ j g, s.graph.insert link node inPad outPad = .ok (j, g) := run_edit_isOk

/-- A splice succeeds just where the link is there and the two pads are free and of its kind. Then the link ends at the
node's input pad, its source, properties and state as they were; the one new link, whose number is returned, runs from
the node's output pad to where the link ended, and nothing is known of it but the kind; the three pads concerned are
bound accordingly, and all else is as it was. The node may be one the link runs from or to. -/
theorem splicing_law {s : Session} (h : s.Reachable) (link node inPad outPad : Nat) :
    let r := (insert link node inPad outPad).run s
    ((∃ j, r.1 = .ok j) ↔ ∃ l, s.graph.links[link]? = some l ∧ s.graph.Free node .input inPad l.kind ∧
      s.graph.Free node .output outPad l.kind) ∧
    ∀ j, r.1 = .ok j → ∃ l g, s.graph.links[link]? = some l ∧ r.2 = { s with graph := g } ∧
      g.links[link]? = some { l with dst := node, dstPad := inPad } ∧
      j = s.graph.links.length ∧ g.links.length = s.graph.links.length + 1 ∧
      g.links[j]? = some {
        src := node, srcPad := outPad, dst := l.dst, dstPad := l.dstPad
        props := { kind := l.kind, format := none, width := 0, height := 0, sampleRate := 0, channels := 0 }
        state := .unconfigured } ∧
      (∀ i, i ≠ link → i ≠ j → g.links[i]? = s.graph.links[i]?) ∧
      g.bound? ⟨node, .input, inPad⟩ = some link ∧ g.bound? ⟨node, .output, outPad⟩ = some j ∧
      g.bound? ⟨l.dst, .input, l.dstPad⟩ = some j ∧
      (∀ p, p ≠ ⟨node, .input, inPad⟩ → p ≠ ⟨node, .output, outPad⟩ → p ≠ ⟨l.dst, .input, l.dstPad⟩ →
        g.bound? p = s.graph.bound? p) ∧
      g.nodes.map Node.detached = s.graph.nodes.map Node.detached := by
  intro r
  refine ⟨run_insert_isOk.trans (Graph.insert_isOk_iff h.wired), fun j hj => ?_⟩
  obtain ⟨g, hi, hr⟩ := run_insert_ok hj
  obtain ⟨rfl, l, hs⟩ := Graph.insert_ok hi
  exact ⟨l, g, hs.found, hr, hs.link_self, rfl, hs.length_links, hs.link_new, fun i => hs.link_of_other, hs.bound_in,
    hs.bound_out, hs.bound_dst h.wired, fun p => hs.bound_of_other, hs.detached⟩

end Session

/-- A hub linked to itself. -/
def Studio.whirl : Session := after [.openNode hub none, .addNode 0, .link 0 0 0 0]

namespace Session

/-- The hub spliced into the link it has to itself: two links from the hub to the hub. -/
theorem self_loop_spliced :
    Studio.whirl.Reachable ∧ ∃ j, ((insert 0 0 1 1).run Studio.whirl).1 = .ok j ∧
      ((insert 0 0 1 1).run Studio.whirl).2.graph.links =
        [⟨0, 0, 0, 1, .ofKind .video, .unconfigured⟩, ⟨0, 1, 0, 0, .ofKind .video, .unconfigured⟩] := by
  have reachable : Studio.whirl.Reachable := Studio.after_reachable _
  obtain ⟨succeeds, effect⟩ := splicing_law reachable 0 0 1 1
  obtain ⟨j, hj⟩ := succeeds.mpr ⟨⟨0, 0, 0, 0, .ofKind .video, .unconfigured⟩, by decide +kernel,
    Graph.free_iff.mpr (by decide +kernel), Graph.free_iff.mpr (by decide +kernel)⟩
  obtain ⟨l, g, hl, hr, hself, rfl, hlength, hnew, -⟩ := effect j hj
  obtain rfl : ⟨0, 0, 0, 0, .ofKind .video, .unconfigured⟩ = l := Option.some.inj hl
  refine ⟨reachable, _, hj, ?_⟩
  rw [hr]
  have two : g.links.length = 2 := hlength
  exact List.ext_getElem? fun i => match i with
    | 0 => hself
    | 1 => hnew
    | i + 2 => List.getElem?_eq_none (by rw [two]; exact Nat.le_add_left 2 i)

/-! ## All edits -/

/-- A change to the graph that a caller may ask for. -/
inductive Edit where
  | create (type : String) (name args : Option String) (context : Option Context)
  | link (src srcPad dst dstPad : Nat)
  | insert (link node inPad outPad : Nat)

/-- It gives the number of the node or the link it made. -/
def Edit.action : Edit → Action Session Nat
  | .create type name args context => Session.create type name args context
  | .link src srcPad dst dstPad => Session.link src srcPad dst dstPad
  | .insert i node inPad outPad => Session.insert i node inPad outPad

variable {s : Session} {type : String} {name args : Option String} {context : Option Context}

theorem create_isOk_iff : (∃ k, ((create type name args context).run s).1 = .ok k) ↔
    ∃ t, s.registry.lookup type = some t ∧
      (t.fresh.init (⟨s.opened, .opened t.name⟩ :: s.history) s.opened args context).2 = .done := by
  rw [run_create]
  cases s.registry.lookup type with
  | none => simp
  | some t =>
    have fresh : (Node.ofType t name s.opened).filter = t.fresh := rfl
    simp only [Option.some.injEq, exists_eq_left', fresh, note]
    cases (t.fresh.init (⟨s.opened, .opened t.name⟩ :: s.history) s.opened args context).2 <;> simp

/-- What is created is one more node, of the type asked for, with all its pads free. -/
theorem create_appends {k : Nat} (hr : ((create type name args context).run s).1 = .ok k) :
    k = s.graph.nodes.length ∧ ∃ n, ((create type name args context).run s).2.graph = s.graph.addNode n ∧ n.Unbound ∧
      n.name = name ∧ s.registry.lookup type = some n.type := by
  rw [run_create] at hr ⊢
  cases hl : s.registry.lookup type with
  | none =>
    rw [hl] at hr
    cases hr
  | some t =>
    simp only [hl] at hr ⊢
    split at hr
    · rename_i hdone
      cases hr
      rw [hdone]
      exact ⟨rfl, _, rfl, fun d => Node.unbound_ofType t name s.opened d, rfl, rfl⟩
    · cases hr

theorem Edit.unchanged_of_error (hw : s.graph.Wired) (edit : Edit) {e : Error}
    (hr : (edit.action.run s).1 = .error e) : e ≠ .corrupt ∧ (edit.action.run s).2.graph = s.graph := by
  cases edit with
  | create type name args context =>
    simp only [Edit.action] at hr ⊢
    rcases create_cases type name args context s with ⟨e', s', hrun, he, ha⟩ | ⟨n, s', hrun, -⟩ <;> rw [hrun] at hr ⊢
    · cases hr
      exact ⟨he, ha.graph⟩
    · cases hr
  | link src srcPad dst dstPad =>
    obtain ⟨hl, hs⟩ := run_edit_error hr
    exact ⟨(Graph.link_error hl).ne_corrupt, congrArg Session.graph hs⟩
  | insert link node inPad outPad =>
    obtain ⟨hi, hs⟩ := run_edit_error hr
    exact ⟨(hw.insert_error hi).ne_corrupt, congrArg Session.graph hs⟩

/-- An edit that fails leaves the graph as it was, and every name is found where it was. A link is made if and only if
both pads are there, free and of one kind; an instance if and only if its type is registered and it initializes, and then
it is the last node, linked to nothing, behind those there were. -/
theorem edits_all_or_nothing (h : s.Reachable) :
    (∀ (edit : Edit) e, (edit.action.run s).1 = .error e → e ≠ .corrupt ∧ (edit.action.run s).2.graph = s.graph ∧
      ∀ name, (edit.action.run s).2.graph.find? name = s.graph.find? name) ∧
    (∀ src srcPad dst dstPad, (∃ j, ((link src srcPad dst dstPad).run s).1 = .ok j) ↔
      ∃ kind, s.graph.Free src .output srcPad kind ∧ s.graph.Free dst .input dstPad kind) ∧
    ∀ type name args context, let r := (create type name args context).run s
      ((∃ k, r.1 = .ok k) ↔ ∃ t, s.registry.lookup type = some t ∧
        (t.fresh.init (⟨s.opened, .opened t.name⟩ :: s.history) s.opened args context).2 = .done) ∧
      ∀ k, r.1 = .ok k → k = s.graph.nodes.length ∧ ∃ n, r.2.graph = s.graph.addNode n ∧ n.Unbound ∧ n.name = name ∧
        s.registry.lookup type = some n.type := by
  refine ⟨fun edit e he => ?_, fun _ _ _ _ => run_edit_isOk.trans Graph.link_isOk_iff,
    fun type name args context => ⟨create_isOk_iff, fun k => create_appends⟩⟩
  obtain ⟨hne, hg⟩ := edit.unchanged_of_error h.wired he
  exact ⟨hne, hg, fun name => congrArg (·.find? name) hg⟩

/-- The hub's first output is taken, its second is free. -/
theorem taken_pad_refused :
    Studio.whirl.Reachable ∧ (∃ e, ((link 0 0 0 1).run Studio.whirl).1 = .error e) ∧
      ((link 0 0 0 1).run Studio.whirl).2.graph = Studio.whirl.graph ∧
      ∃ j, ((link 0 1 0 1).run Studio.whirl).1 = .ok j := by
  have reachable : Studio.whirl.Reachable := Studio.after_reachable _
  obtain ⟨unchanged, linked, -⟩ := edits_all_or_nothing reachable
  have taken : ((link 0 0 0 1).run Studio.whirl).1 = .error (.padTaken "hub" .output "out0") := by decide +kernel
  obtain ⟨-, hgraph, -⟩ := unchanged (.link 0 0 0 1) _ taken
  have free : ∃ kind, Studio.whirl.graph.Free 0 .output 1 kind ∧ Studio.whirl.graph.Free 0 .input 1 kind :=
    ⟨.video, Graph.free_iff.mpr (by decide +kernel), Graph.free_iff.mpr (by decide +kernel)⟩
  exact ⟨reachable, ⟨_, taken⟩, hgraph, (linked 0 1 0 1).mpr free⟩

end Session

end MediaGraph

/-
  MediaGraph.Proofs.Negotiation.Steps — all that a negotiation does.

  However the phases are called, and wherever one of them fails, what happened to
  the negotiation is a sequence of steps: a filter's declarations took effect, or the
  ends it left bare were filled; two sets were merged; a node was added; a converter
  was spliced into a link, with what the link accepts moved on; sets were pinned; a
  link was given its format. Anything else leaves the graph and the sets alone.

  `Move` says the same closer to the text, with the calls made to filters: what a
  move keeps every phase keeps (`Stable`, `keeps_runPhases`), and a move is a few
  steps (`Move.steps`).
-/

import MediaGraph.Proofs.Negotiation.Reduction
import MediaGraph.Proofs.Session.Change

namespace MediaGraph

open MediaGraph.Action

namespace Negotiation

/-! ## Single calls -/

/-- A query: what the filter declares takes effect; if it does not refuse, bare ends are filled and the
query is put on record. -/
theorem run_queryNode (node : Nat) (m : Negotiation) :
    (queryNode node).run m = match m.session.graph.nodes[node]? with
      | none => (.error .corrupt, m)
      | some n =>
        let r := n.filter.query m.session.history n.serial n.layout
        let a := m.arena.declareAll n r.1
        match r.2 with
        | .refused rep => (.error (.reported rep), { m with session := m.session.asked n, arena := a })
        | .done => (.ok (), { m with
            session := m.session.asked n
            arena := a.fillBare n
            surveys := ⟨node, n, r.1, a.fillBare n⟩ :: m.surveys }) := by
  unfold queryNode onSession Session.nodeAt
  simp only [run_bind, run_onPart, run_expect]
  cases m.session.graph.nodes[node]? with
  | none => rfl
  | some n =>
    simp only [Session.run_ask]
    rcases n.filter.query m.session.history n.serial n.layout with ⟨ds, _ | r⟩ <;> rfl

theorem run_planConverter (kind : MediaKind) (m : Negotiation) :
    (planConverter kind).run m =
      match m.converters.plan kind m.session.registry m.session.options.scaleOpts with
      | .ok (plan, converters) => (.ok plan, { m with converters })
      | .error e => (.error e, if e = .noResampler then { m with session := m.session.tell .noResampler } else m) := by
  unfold planConverter
  rw [run_bind, run_read]
  rcases m.converters.plan kind m.session.registry m.session.options.scaleOpts with e | ⟨plan, c⟩
  · simp only
    split <;> rfl
  · rfl

/-- With the plan just made from the count `c`: that is what the catalog and the options there are give, and the count is
the one after it. -/
structure Planning (P : Negotiation → Prop) (c : Converters) (kind : MediaKind) (plan : ConverterPlan)
    (m : Negotiation) : Prop where
  kept : P m
  planned : c.plan kind m.session.registry m.session.options.scaleOpts = .ok (plan, m.converters)

theorem plan_of_run {kind : MediaKind} {m m' : Negotiation} {plan : ConverterPlan}
    (hr : (planConverter kind).run m = (.ok plan, m')) :
    m.converters.plan kind m'.session.registry m'.session.options.scaleOpts = .ok (plan, m'.converters) := by
  rw [run_planConverter] at hr
  split at hr <;> cases hr
  assumption

theorem run_mergeBeside (src dst : Node) (link : Nat) (m : Negotiation) :
    (mergeBeside src dst link).run m = match m.arena.link link with
      | ⟨some i, some j⟩ =>
        match m.arena.merge i j with
        | some arena => (.ok (), { m with arena })
        | none => (.error (.inconvertible src.display dst.display),
            { m with session := m.session.tell (.inconvertible src.display dst.display) })
      | _ => (.ok (), m) := by
  unfold mergeBeside readArena
  simp only [run_bind, run_read]
  rcases m.arena.link link with ⟨_ | i, _ | j⟩
  · rfl
  · rfl
  · rfl
  · simp only
    cases m.arena.merge i j <;> rfl

theorem run_mergeLink (link : Nat) (m : Negotiation) :
    (mergeLink link).run m = match m.arena.link link with
      | ⟨some i, some j⟩ =>
        if i = j then (.ok (), m)
        else
          match m.arena.merge i j with
          | some arena => (.ok (), { m with
              arena, session := m.session.tell (.merged link ((arena.get? i).getD (.empty .video))) })
          | none => (insertConverter link).run m
      | _ => (.ok (), m) := by
  unfold mergeLink readArena
  simp only [run_bind, run_read]
  rcases m.arena.link link with ⟨_ | i, _ | j⟩
  · rfl
  · rfl
  · rfl
  · simp only
    split
    · rfl
    · cases m.arena.merge i j <;> rfl

/-- A link that holds no set is left alone; else its format is the first candidate of what it holds. -/
theorem run_pickLink (link : Nat) (m : Negotiation) :
    (pickLink link).run m = match (m.arena.link link).current with
      | none => (.ok (), m)
      | some id =>
        match m.arena.get? id >>= FormatSet.first? with
        | some format => (.ok (), { m with
            session := { m.session with
              graph := m.session.graph.modifyLink link fun l => { l with props := { l.props with format } } }.tell
                (.picked link format)
            arena := ((m.arena.pin? id format).getD m.arena).release link })
        | none => (do
            let l ← onSession (Session.linkAt link)
            let src ← onSession (Session.nodeAt l.src)
            let dst ← onSession (Session.nodeAt l.dst)
            fail (.noFormatLeft src.display dst.display) : Action Negotiation Unit).run m := by
  unfold pickLink readArena
  simp only [run_bind, run_read]
  cases (m.arena.link link).current with
  | none => rfl
  | some id =>
    simp only [Option.map_some]
    cases m.arena.get? id >>= FormatSet.first? <;> rfl

/-! ## Steps -/

inductive Step (n : Negotiation) : Negotiation → Prop
  /-- Notices, calls to filters and plans. -/
  | aside {session : Session} (converters : Converters) : n.session.Aside session →
      Step n { n with session, converters }
  | declare {i : Nat} {node : Node} (ds : List Declaration) : n.session.graph.nodes[i]? = some node →
      Step n { n with arena := n.arena.declareAll node ds }
  | fill {i : Nat} {node : Node} (ds : List Declaration) : n.session.graph.nodes[i]? = some node →
      Step n { n with
        arena := n.arena.fillBare node
        surveys := ⟨i, node, ds, n.arena.fillBare node⟩ :: n.surveys }
  | create {session : Session} {node : Node} : n.session.Added node session → Step n { n with session }
  | splice {link node j : Nat} {graph : Graph} : n.session.graph.insert link node 0 0 = .ok (j, graph) →
      Step n { n with session := { n.session with graph }, arena := n.arena.moveAccepted link j }
  | merge {link i j : Nat} {arena : Arena} : n.arena.link link = ⟨some i, some j⟩ →
      n.arena.merge i j = some arena → Step n { n with arena }
  | reduce {n' : Negotiation} : Reduced n n' → Step n n'
  | pick {link id : Nat} {format : Format} : (n.arena.link link).current = some id →
      n.arena.get? id >>= FormatSet.first? = some format →
      Step n { n with
        session := { n.session with
          graph := n.session.graph.modifyLink link fun l => { l with props := { l.props with format } } }
        arena := ((n.arena.pin? id format).getD n.arena).release link }

abbrev Steps : Negotiation → Negotiation → Prop := Relation.ReflTransGen Step

theorem step_asked (n : Negotiation) (node : Node) : Step n { n with session := n.session.asked node } :=
  .aside n.converters (Session.aside_asked node n.session)

/-- A filter is asked, and what it declares takes effect. -/
theorem steps_declared {n : Negotiation} {i : Nat} {node : Node} (hn : n.session.graph.nodes[i]? = some node)
    (ds : List Declaration) :
    Steps n { n with session := n.session.asked node, arena := n.arena.declareAll node ds } :=
  .tail (.single (step_asked n node)) (.declare ds (Session.node_asked hn))

/-! ## Moves -/

/-- What the phases are made of, with the call made to a filter where there is one. -/
inductive Move (n : Negotiation) : Negotiation → Prop
  | tell (notice : Notice) : Move n { n with session := n.session.tell notice }
  | plan (converters : Converters) : Move n { n with converters }
  | refuse {i : Nat} {node : Node} {ds : List Declaration} {r : Report} : n.session.graph.nodes[i]? = some node →
      node.filter.query n.session.history node.serial node.layout = (ds, .refused r) →
      Move n { n with session := n.session.asked node, arena := n.arena.declareAll node ds }
  | answer {i : Nat} {node : Node} {ds : List Declaration} : n.session.graph.nodes[i]? = some node →
      node.filter.query n.session.history node.serial node.layout = (ds, .done) →
      Move n { n with
        session := n.session.asked node
        arena := (n.arena.declareAll node ds).fillBare node
        surveys := ⟨i, node, ds, (n.arena.declareAll node ds).fillBare node⟩ :: n.surveys }
  | create {c : Converters} {kind : MediaKind} {plan : ConverterPlan} :
      c.plan kind n.session.registry n.session.options.scaleOpts = .ok (plan, n.converters) →
      Move n { n with session := ((Session.create plan.type (some plan.name) plan.args none).run n.session).2 }
  | splice {link node j : Nat} {graph : Graph} : n.session.graph.insert link node 0 0 = .ok (j, graph) →
      Move n { n with session := { n.session with graph }, arena := n.arena.moveAccepted link j }
  | merge {link i j : Nat} {arena : Arena} : n.arena.link link = ⟨some i, some j⟩ →
      n.arena.merge i j = some arena → Move n { n with arena }
  | reduce : Move n n.reducePasses.2
  | pick {link id : Nat} {format : Format} : (n.arena.link link).current = some id →
      n.arena.get? id >>= FormatSet.first? = some format →
      Move n { n with
        session := { n.session with
          graph := n.session.graph.modifyLink link fun l => { l with props := { l.props with format } } }
        arena := ((n.arena.pin? id format).getD n.arena).release link }

theorem Move.steps {n n' : Negotiation} (h : Move n n') : Steps n n' := by
  cases h with
  | tell notice => exact .single (.aside n.converters (Session.aside_tell _ _))
  | plan c => exact .single (.aside c (.refl n.session))
  | refuse hn hq => exact steps_declared hn _
  | answer hn hq => exact (steps_declared hn _).tail (.fill _ (Session.node_asked hn))
  | @create c kind plan hp =>
    rcases Session.create_cases plan.type (some plan.name) plan.args none n.session with
      ⟨e, s', hr, -, ha⟩ | ⟨c, s', hr, hc⟩ <;> rw [hr]
    · exact .single (.aside n.converters ha)
    · exact .single (.create hc.toAdded)
  | splice hi => exact .single (.splice hi)
  | merge hl hm => exact .single (.merge hl hm)
  | reduce => exact .single (.reduce (reduced_reduce n))
  | pick hc hf => exact .single (.pick hc hf)

/-- What holds after a move if it held before holds after any phase. -/
def Stable (P : Negotiation → Prop) : Prop := ∀ ⦃n n'⦄, Move n n' → P n → P n'

theorem stable_steps (n₀ : Negotiation) : Stable (Steps n₀) := fun _ _ hm h => h.trans hm.steps

section Phases

variable {P : Negotiation → Prop} (hP : Stable P)
include hP

theorem keeps_notice (n : Notice) : Keeps P (onSession (Session.notice n)) := fun _ h => hP (.tell n) h

omit hP in
theorem keeps_expect {α : Type} {f : Session → Option α} : Keeps P (onSession (.expect f)) := by
  intro m h
  rw [onSession, run_onPart, run_expect]
  split <;> exact h

omit hP in
theorem keeps_nodeAt (i : Nat) : Keeps P (onSession (Session.nodeAt i)) := keeps_expect

omit hP in
theorem keeps_linkAt (i : Nat) : Keeps P (onSession (Session.linkAt i)) := keeps_expect

theorem keeps_queryNode (i : Nat) : Keeps P (queryNode i) := by
  intro m h
  rw [run_queryNode]
  cases hn : m.session.graph.nodes[i]? with
  | none => exact h
  | some n =>
    simp only
    rcases hq : n.filter.query m.session.history n.serial n.layout with ⟨ds, _ | r⟩
    · exact hP (.answer hn hq) h
    · exact hP (.refuse hn hq) h

theorem keeps_query : Keeps P query :=
  keeps_bind (keeps_read _) fun _ => keeps_bind (keeps_notice hP _) fun _ => keeps_forM (keeps_queryNode hP) _

theorem keeps_planConverter (kind : MediaKind) : Keeps P (planConverter kind) := by
  intro m h
  rw [run_planConverter]
  split
  · exact hP (.plan _) h
  · show P (if _ then _ else _)
    split
    · exact hP (.tell _) h
    · exact h

theorem keeps_mergeBeside (src dst : Node) (link : Nat) : Keeps P (mergeBeside src dst link) := by
  intro m h
  rw [run_mergeBeside]
  split
  · rename_i i j hl
    split
    · rename_i b hm
      exact hP (.merge hl hm) h
    · exact hP (.tell _) h
  · exact h

/-- A converter is spliced in and what the link accepts is moved on in one move. -/
theorem keeps_splice (link node : Nat) {f : Nat → Action Negotiation Unit} (hf : ∀ j, Keeps P (f j)) :
    Keeps P (onSession (Session.insert link node 0 0) >>= fun j =>
      updateArena (·.moveAccepted link j) >>= fun _ => f j) := by
  intro m h
  have hi : (Session.insert link node 0 0).run m.session = _ := Session.run_edit _ m.session
  rw [run_bind, onSession, run_onPart, hi]
  rcases hg : m.session.graph.insert link node 0 0 with e | ⟨j, graph⟩
  · exact h
  · exact hf j _ (hP (.splice hg) h)

/-- What was planned is what is created: nothing in between changes the catalog, the options or the count. -/
theorem keeps_insertConverter (link : Nat) : Keeps P (insertConverter link) := by
  refine keeps_bind (keeps_linkAt _) fun l m h => ?_
  have hkept := keeps_planConverter hP l.kind m h
  rcases hrun : (planConverter l.kind).run m with ⟨e | plan, m'⟩ <;> rw [hrun] at hkept <;> rw [run_bind, hrun]
  · exact hkept
  have kept : ∀ n, Planning P m.converters l.kind plan n → P n := fun _ hn => hn.kept
  have planned : Planning P m.converters l.kind plan m' := ⟨hkept, plan_of_run hrun⟩
  refine leads_bind kept (keeps_nodeAt _) (fun src n hn => ?_) planned
  refine leads_bind kept (keeps_nodeAt _) (fun dst n hn => ?_) hn
  refine leads_bind kept (fun n hn => ⟨hP (.tell _) hn.kept, hn.planned⟩) (fun _ n hn => ?_) hn
  refine leads_bind (fun _ h => h) (fun n hn => hP (.create hn.planned) hn.kept) (fun _ => ?_) hn
  exact keeps_splice hP link _ fun _ => keeps_bind (keeps_queryNode hP _) fun _ =>
    keeps_bind (keeps_mergeBeside hP _ _ _) fun _ => keeps_mergeBeside hP _ _ _

theorem keeps_mergeLink (link : Nat) : Keeps P (mergeLink link) := by
  intro m h
  rw [run_mergeLink]
  split
  · rename_i i j hl
    split
    · exact h
    · split
      · rename_i b hm
        exact hP (.tell _) (hP (.merge hl hm) h)
      · exact keeps_insertConverter hP link m h
  · exact h

theorem keeps_mergeNode (i : Nat) : Keeps P (mergeNode i) :=
  keeps_bind (keeps_nodeAt i) fun _ => keeps_forM (keeps_mergeLink hP) _

theorem keeps_mergeFrom (rounds node : Nat) : Keeps P (mergeFrom rounds node) := by
  induction rounds generalizing node with
  | zero => exact keeps_fail _
  | succ rounds ih =>
    refine keeps_bind (keeps_read _) fun k => ?_
    split
    · exact keeps_bind (keeps_mergeNode hP node) fun _ => ih (node + 1)
    · exact keeps_pure ()

theorem keeps_merge : Keeps P merge := keeps_bind (keeps_read _) fun _ => keeps_mergeFrom hP _ _

theorem keeps_reduce : Keeps P reduce := fun _ h => hP .reduce h

theorem keeps_pickLink (link : Nat) : Keeps P (pickLink link) := by
  intro m h
  rw [run_pickLink]
  split
  · exact h
  · rename_i id hc
    split
    · rename_i format hf
      exact hP (.tell _) (hP (.pick hc hf) h)
    · exact keeps_bind (keeps_linkAt _) (fun _ => keeps_bind (keeps_nodeAt _) fun _ =>
        keeps_bind (keeps_nodeAt _) fun _ => keeps_fail _) m h

theorem keeps_pickNode (i : Nat) : Keeps P (pickNode i) :=
  keeps_bind (keeps_nodeAt _) fun _ => keeps_forM (keeps_pickLink hP) _

theorem keeps_pick : Keeps P pick := keeps_bind (keeps_read _) fun _ => keeps_forM (keeps_pickNode hP) _

theorem keeps_runPhases : Keeps P runPhases :=
  keeps_bind (keeps_query hP) fun _ => keeps_bind (keeps_merge hP) fun _ => keeps_bind (keeps_reduce hP) fun _ =>
    keeps_bind (keeps_notice hP _) fun _ => keeps_pick hP

end Phases

/-! ## What steps keep -/

theorem Step.changes {n n' : Negotiation} (hs : Step n n') : n.session.Changes n'.session := by
  cases hs with
  | aside c h => exact .single (.aside h)
  | declare | fill | merge => exact .refl
  | create h => exact .single (.add h)
  | splice hi => exact .single (.insert hi)
  | reduce hr => exact .single (.aside ⟨.of_eq (by rw [hr.session]) (by rw [hr.session]), hr.graph⟩)
  | pick => exact .single (.mark _ fun _ => ⟨rfl, rfl⟩)

theorem Steps.changes {n n' : Negotiation} (hs : Steps n n') : n.session.Changes n'.session := by
  induction hs with
  | refl => exact .refl
  | tail _ hs ih => exact ih.trans hs.changes

end Negotiation

end MediaGraph

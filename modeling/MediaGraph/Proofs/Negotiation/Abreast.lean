/-
  MediaGraph.Proofs.Negotiation.Abreast — a negotiation that is traced, beside one that is not.

  Nothing a negotiation does depends on what is traced: from sessions that are abreast
  the phases make the same queries, plan, insert and merge the same, and pick the same
  formats, and where one run fails the other fails with the same error at the same step
  (`tandem_runPhases`). A converter is queried in the middle of merging, and stays
  abreast like any other node.
-/

import MediaGraph.Proofs.Negotiation.Steps
import MediaGraph.Proofs.Session.Course

namespace MediaGraph

open MediaGraph.Action

namespace Negotiation

/-- The sessions are abreast; the sets, the counts of converters and the queries on record are the same. -/
structure Abreast (outer outer' : List Span) (s₀ t₀ : Session) (m n : Negotiation) : Prop where
  session : Session.Abreast outer outer' s₀ t₀ m.session n.session
  arena : n.arena = m.arena
  converters : n.converters = m.converters
  surveys : n.surveys = m.surveys

variable {outer outer' : List Span} {s₀ t₀ : Session} {m n : Negotiation} {α : Type}

/-! ## Parts of the state -/

theorem tandem_onSession {x : Action Session α} (hx : Tandem (Session.Abreast outer outer' s₀ t₀) x) :
    Tandem (Abreast outer outer' s₀ t₀) (onSession x) :=
  tandem_onPart (fun _ _ h => h.session) (fun _ _ _ _ h hs => ⟨hs, h.arena, h.converters, h.surveys⟩) hx

theorem tandem_readArena (f : Arena → α) : Tandem (Abreast outer outer' s₀ t₀) (readArena f) :=
  tandem_read fun _ _ h => congrArg f h.arena

theorem tandem_updateArena (f : Arena → Arena) : Tandem (Abreast outer outer' s₀ t₀) (updateArena f) :=
  tandem_update fun _ _ h => ⟨h.session, congrArg f h.arena, h.converters, h.surveys⟩

theorem tandem_notice (notice : Notice) : Tandem (Abreast outer outer' s₀ t₀) (onSession (Session.notice notice)) :=
  tandem_onSession (Session.tandem_notice notice)

theorem tandem_nodeAt (i : Nat) : Tandem (Abreast outer outer' s₀ t₀) (onSession (Session.nodeAt i)) :=
  tandem_onSession (Session.tandem_nodeAt i)

theorem tandem_linkAt (i : Nat) : Tandem (Abreast outer outer' s₀ t₀) (onSession (Session.linkAt i)) :=
  tandem_onSession (Session.tandem_linkAt i)

theorem tandem_nodeCount : Tandem (Abreast outer outer' s₀ t₀) nodeCount :=
  tandem_read fun _ _ h => congrArg (·.nodes.length) h.session.graph

/-! ## Asking -/

theorem tandem_queryNode (node : Nat) : Tandem (Abreast outer outer' s₀ t₀) (queryNode node) := by
  intro m n h
  rw [run_queryNode, run_queryNode, h.session.graph, h.session.history, h.arena, h.surveys]
  cases hn : m.session.graph.nodes[node]? with
  | none => exact ⟨rfl, h⟩
  | some x =>
    have asked := h.session.asked (List.mem_of_getElem? hn)
    simp only
    rcases x.filter.query m.session.history x.serial x.layout with ⟨ds, _ | r⟩
    · exact ⟨rfl, asked, rfl, h.converters, rfl⟩
    · exact ⟨rfl, asked, rfl, h.converters, rfl⟩

theorem tandem_query : Tandem (Abreast outer outer' s₀ t₀) query :=
  tandem_bind tandem_nodeCount fun _ => tandem_bind (tandem_notice _) fun _ => tandem_forM tandem_queryNode _

/-! ## Merging -/

theorem tandem_planConverter (kind : MediaKind) : Tandem (Abreast outer outer' s₀ t₀) (planConverter kind) := by
  intro m n h
  rw [run_planConverter, run_planConverter, h.converters, h.session.registry, h.session.scaleOpts]
  rcases m.converters.plan kind m.session.registry m.session.options.scaleOpts with e | ⟨plan, converters⟩
  · refine ⟨rfl, ?_⟩
    show Abreast outer outer' s₀ t₀ (if _ then _ else _) (if _ then _ else _)
    split
    · exact ⟨h.session.tell _, h.arena, rfl, h.surveys⟩
    · exact h
  · exact ⟨rfl, h.session, h.arena, rfl, h.surveys⟩

theorem tandem_mergeBeside (src dst : Node) (link : Nat) :
    Tandem (Abreast outer outer' s₀ t₀) (mergeBeside src dst link) := by
  refine tandem_bind (tandem_readArena _) fun found => ?_
  obtain ⟨⟨_ | i, _ | j⟩, a⟩ := found
  · exact tandem_pure ()
  · exact tandem_pure ()
  · exact tandem_pure ()
  · dsimp only
    cases a.merge i j with
    | some b => exact tandem_updateArena _
    | none => exact tandem_bind (tandem_notice _) fun _ => tandem_fail _

theorem tandem_insertConverter (link : Nat) : Tandem (Abreast outer outer' s₀ t₀) (insertConverter link) := by
  refine tandem_bind (tandem_linkAt _) fun l => tandem_bind (tandem_planConverter _) fun plan => ?_
  refine tandem_bind (tandem_nodeAt _) fun src => tandem_bind (tandem_nodeAt _) fun dst => ?_
  refine tandem_bind (tandem_notice _) fun _ => ?_
  refine tandem_bind (tandem_onSession (Session.tandem_create _ _ _ _)) fun converter => ?_
  refine tandem_bind (tandem_onSession (Session.tandem_edit _)) fun downstream => ?_
  refine tandem_bind (tandem_updateArena _) fun _ => tandem_bind (tandem_queryNode converter) fun _ => ?_
  exact tandem_bind (tandem_mergeBeside src dst link) fun _ => tandem_mergeBeside src dst downstream

theorem tandem_mergeLink (link : Nat) : Tandem (Abreast outer outer' s₀ t₀) (mergeLink link) := by
  refine tandem_bind (tandem_readArena _) fun found => ?_
  obtain ⟨⟨_ | i, _ | j⟩, a⟩ := found
  · exact tandem_pure ()
  · exact tandem_pure ()
  · exact tandem_pure ()
  · dsimp only
    split
    · exact tandem_pure ()
    · cases a.merge i j with
      | some b => exact tandem_bind (tandem_updateArena _) fun _ => tandem_notice _
      | none => exact tandem_insertConverter link

theorem tandem_mergeNode (node : Nat) : Tandem (Abreast outer outer' s₀ t₀) (mergeNode node) :=
  tandem_bind (tandem_nodeAt node) fun _ => tandem_forM tandem_mergeLink _

/-- By induction on the rounds: nodes appended on the way are there in both runs. -/
theorem tandem_mergeFrom (rounds node : Nat) : Tandem (Abreast outer outer' s₀ t₀) (mergeFrom rounds node) := by
  induction rounds generalizing node with
  | zero => exact tandem_fail _
  | succ rounds ih =>
    refine tandem_bind tandem_nodeCount fun nodes => ?_
    split
    · exact tandem_bind (tandem_mergeNode node) fun _ => ih (node + 1)
    · exact tandem_pure ()

theorem tandem_merge : Tandem (Abreast outer outer' s₀ t₀) merge :=
  tandem_bind (tandem_read fun _ _ h => h.session.graph) fun _ => tandem_mergeFrom _ _

/-! ## Reducing -/

theorem Abreast.narrow (h : Abreast outer outer' s₀ t₀ m n) (format : Format) (output : Nat) :
    Abreast outer outer' s₀ t₀ (m.narrow format output) (n.narrow format output) := by
  unfold Negotiation.narrow
  rw [h.session.graph, h.arena]
  split
  · split
    · split
      · split
        · exact ⟨h.session.tell _, rfl, h.converters, h.surveys⟩
        · exact h
      · exact h
    · exact h
  · exact h

theorem Abreast.reduceNode (h : Abreast outer outer' s₀ t₀ m n) (node : Node) :
    Abreast outer outer' s₀ t₀ (m.reduceNode node) (n.reduceNode node) := by
  refine List.foldl_rel h fun input _ m n h => ?_
  have fixed : n.fixed? input = m.fixed? input := by rw [fixed?, fixed?, h.arena]
  rw [fixed]
  cases m.fixed? input with
  | none => exact h
  | some format => exact List.foldl_rel h fun output _ _ _ h => h.narrow format output

theorem Abreast.reducePass (h : Abreast outer outer' s₀ t₀ m n) :
    Abreast outer outer' s₀ t₀ m.reducePass n.reducePass := by
  unfold Negotiation.reducePass
  rw [h.session.graph]
  exact List.foldl_rel h fun node _ _ _ h => h.reduceNode node

/-- Both runs stop after the same number of passes. -/
theorem Abreast.reducePasses : ∀ {n : Negotiation}, Abreast outer outer' s₀ t₀ m n →
    n.reducePasses.1 = m.reducePasses.1 ∧ Abreast outer outer' s₀ t₀ m.reducePasses.2 n.reducePasses.2 := by
  induction m using reducePasses.induct with
  | case1 m next hless =>
    rename_i ih
    intro n h
    have hnext := h.reducePass
    have hless' : n.reducePass.arena.loose < n.arena.loose := by rwa [hnext.arena, h.arena]
    rw [reducePasses.eq_1 m, reducePasses.eq_1 n, if_pos hless, if_pos hless']
    obtain ⟨passes, rest⟩ := ih hnext
    exact ⟨congrArg (· + 1) passes, rest⟩
  | case2 m next =>
    rename_i hless
    intro n h
    have hnext := h.reducePass
    have hless' : ¬ n.reducePass.arena.loose < n.arena.loose := by rwa [hnext.arena, h.arena]
    rw [reducePasses.eq_1 m, reducePasses.eq_1 n, if_neg hless, if_neg hless']
    exact ⟨rfl, hnext⟩

theorem tandem_reduce : Tandem (Abreast outer outer' s₀ t₀) reduce := fun _ _ h =>
  ⟨congrArg Except.ok h.reducePasses.1, h.reducePasses.2⟩

/-! ## Picking -/

theorem tandem_pickLink (link : Nat) : Tandem (Abreast outer outer' s₀ t₀) (pickLink link) := by
  refine tandem_bind (tandem_readArena _) fun found => ?_
  match found with
  | none => exact tandem_pure ()
  | some (_, none) =>
    exact tandem_bind (tandem_linkAt link) fun l => tandem_bind (tandem_nodeAt l.src) fun _ =>
      tandem_bind (tandem_nodeAt l.dst) fun _ => tandem_fail _
  | some (id, some format) =>
    exact tandem_bind (tandem_updateArena _) fun _ =>
      tandem_bind (tandem_onSession (Session.tandem_updateLink link _)) fun _ => tandem_notice _

theorem tandem_pickNode (node : Nat) : Tandem (Abreast outer outer' s₀ t₀) (pickNode node) :=
  tandem_bind (tandem_nodeAt node) fun _ => tandem_forM tandem_pickLink _

theorem tandem_pick : Tandem (Abreast outer outer' s₀ t₀) pick :=
  tandem_bind tandem_nodeCount fun _ => tandem_forM tandem_pickNode _

/-! ## A run -/

theorem tandem_runPhases : Tandem (Abreast outer outer' s₀ t₀) runPhases :=
  tandem_bind tandem_query fun _ => tandem_bind tandem_merge fun _ => tandem_bind tandem_reduce fun _ =>
    tandem_bind (tandem_notice _) fun _ => tandem_pick

end Negotiation

theorem Session.tandem_negotiate {outer outer' : List Span} {s₀ t₀ : Session} :
    Tandem (Abreast outer outer' s₀ t₀) negotiate := by
  intro s t h
  obtain ⟨result, after⟩ := Negotiation.tandem_runPhases { session := s } { session := t } ⟨h, rfl, rfl, rfl⟩
  exact ⟨result, after.session⟩

end MediaGraph

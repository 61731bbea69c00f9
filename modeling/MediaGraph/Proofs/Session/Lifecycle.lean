/-
  MediaGraph.Proofs.Session.Lifecycle — every instance is torn down, once.

  A session has a roster (`Session.roster`). Whatever is asked of it, wherever it
  fails, comes to turns of the roster: creating an instance to one turn or none
  (`turns_create`), negotiating and configuring links to questions put to the nodes
  in the graph and to converters made for it, freeing to one. Opening a node is the
  one request that is no turn (`Workbench.turns_exec`, `Workbench.rounds_exec`).

  Proved, of any program that ends with the graph dropped (`instances_torn_down_once`):
  - every instance ever opened is uninitialized once, and that is the last call it gets;
  - one opened for the graph, by its caller or in a negotiation, is initialized once and
    before it is asked anything, or it refused and is gone before it is asked at all;
  - whenever the graph is freed or dropped its nodes are uninitialized from the last to
    the first.
-/

import MediaGraph.Proofs.Session.Reach
import MediaGraph.Proofs.Session.Roster

namespace MediaGraph

open MediaGraph.Action

namespace Session

variable {s : Session} {r : Roster} {loose : List Nat}

def roster (s : Session) (loose : List Nat) : Roster := ⟨s.history, s.opened, s.graph.nodes.map (·.serial), loose⟩

/-- Some turns led to where the session is. -/
def Follows (r : Roster) (loose : List Nat) (s : Session) : Prop := Turns r (s.roster loose)

/-! ## Edits and questions -/

/-- Bindings apart, the nodes are the same. -/
theorem Follows.rewire (h : Follows r loose s) {graph : Graph}
    (hg : graph.nodes.map Node.detached = s.graph.nodes.map Node.detached) : Follows r loose { s with graph } := by
  unfold Follows roster
  rw [serials_of_detached hg]
  exact h

theorem Follows.ask (h : Follows r loose s) {n : Node} (hn : n ∈ s.graph.nodes) {c : Call} (hc : c.asks = true) :
    Follows r loose (s.note n.serial c) := h.tail (.ask (List.mem_map_of_mem hn) hc)

theorem Follows.asked (h : Follows r loose s) {n : Node} (hn : n ∈ s.graph.nodes) : Follows r loose (s.asked n) := by
  obtain ⟨hg, ho, hh⟩ := asked_eq n s
  unfold Follows roster
  rw [hg, ho, hh]
  exact h.ask hn rfl

theorem Follows.link (h : Follows r loose s) {src srcPad dst dstPad j : Nat} {graph : Graph}
    (hg : s.graph.link src srcPad dst dstPad = .ok (j, graph)) : Follows r loose { s with graph } := by
  obtain ⟨kind, -, -, rfl⟩ := Graph.link_ok hg
  exact h.rewire (Graph.detached_pushLink _)

theorem Follows.insert (h : Follows r loose s) {link node inPad outPad j : Nat} {graph : Graph}
    (hg : s.graph.insert link node inPad outPad = .ok (j, graph)) : Follows r loose { s with graph } := by
  obtain ⟨-, l, hl⟩ := Graph.insert_ok hg
  exact h.rewire hl.detached

/-- Both calls of a settling go to nodes in the graph. -/
theorem keeps_follows_settle (link src srcPad dst dstPad : Nat) :
    Keeps (Follows r loose) (settle link src srcPad dst dstPad) := by
  intro s h
  rw [run_settle]
  split
  · rename_i source l hsource hl
    let answer := source.filter.configOutput s.history source.serial srcPad l.props (s.graph.inputProps source)
    have asked := h.ask (List.mem_of_getElem? hsource)
      (c := .configOutput srcPad l.props (s.graph.inputProps source) answer.1 answer.2) rfl
    simp only
    split
    · exact asked
    · split
      · exact asked
      · rename_i destination hdestination
        have hn : destination ∈ s.graph.nodes := List.mem_of_getElem? hdestination
        split
        · exact Follows.ask (s := { s.note _ _ with graph := s.graph.modifyLink link _ }) asked hn rfl
        · exact Follows.ask (s := { s.note _ _ with graph := s.graph.modifyLink link _ }) asked hn rfl
  · exact h

theorem keeps_follows_configureLinks : Keeps (Follows r loose) configureLinks :=
  keeps_configureLinks (fun _ _ h => h) (fun _ _ h => h) keeps_follows_settle

/-! ## Instances made -/

theorem serials_addNode (g : Graph) (n : Node) :
    (g.addNode n).nodes.map (·.serial) = g.nodes.map (·.serial) ++ [n.serial] := List.map_append

theorem turns_create (type : String) (name args : Option String) (context : Option Context) (s : Session)
    (loose : List Nat) : Turns (s.roster loose) (((create type name args context).run s).2.roster loose) := by
  rw [run_create]
  cases s.registry.lookup type with
  | none => exact .refl
  | some t =>
    simp only
    split
    · rename_i hdone
      rw [hdone]
      have made := Turn.make (r := s.roster loose) t.name args context
      unfold roster
      rw [serials_addNode]
      exact .single made
    · rename_i report hrefused
      rw [hrefused]
      exact .single (.fail t.name args context report)

theorem keeps_follows_create (type : String) (name args : Option String) (context : Option Context) :
    Keeps (Follows r loose) (create type name args context) :=
  fun s h => h.trans (turns_create type name args context s loose)

/-- An instance that refuses to initialize is uninitialized before the call returns, and nothing else is called on it. -/
theorem create_error {type : String} {name args : Option String} {context : Option Context} {e : Error} {s' : Session}
    (hr : (create type name args context).run s = (.error e, s')) :
    s'.graph = s.graph ∧ (s'.opened = s.opened ∧ s'.history = s.history ∨
      s'.opened = s.opened + 1 ∧ ∃ report, s'.history = ⟨s.opened, .uninit⟩ ::
        ⟨s.opened, .init args context (.refused report)⟩ :: ⟨s.opened, .opened type⟩ :: s.history) := by
  rw [run_create] at hr
  cases hl : s.registry.lookup type with
  | none =>
    rw [hl] at hr
    cases hr
    exact ⟨rfl, .inl ⟨rfl, rfl⟩⟩
  | some t =>
    simp only [hl] at hr
    split at hr
    · cases hr
    · rename_i report hrefused
      cases hr
      refine ⟨rfl, .inr ⟨rfl, report, ?_⟩⟩
      rw [← Registry.name_of_lookup hl, ← hrefused]
      rfl

/-- Negotiating comes to questions to nodes in the graph, and to converters made for it. -/
theorem stable_follows : Negotiation.Stable fun n => Follows r loose n.session := by
  intro n n' hm h
  cases hm with
  | tell | plan | merge | pick => exact h
  | refuse hn | answer hn => exact h.asked (List.mem_of_getElem? hn)
  | @create c kind plan hp => exact keeps_follows_create plan.type (some plan.name) plan.args none n.session h
  | splice hg => exact h.insert hg
  | reduce =>
    have hreduced := Negotiation.reduced_reduce n
    unfold Follows roster
    rw [hreduced.graph, hreduced.session]
    exact h

theorem keeps_follows_negotiate : Keeps (Follows r loose) negotiate := fun s h =>
  Negotiation.keeps_runPhases stable_follows { session := s } h

/-! ## Freeing -/

theorem turn_free (s : Session) (loose : List Nat) : Turn (s.roster loose) (s.free.roster loose) := by
  have freed := Turn.free (r := s.roster loose)
  obtain ⟨hg, ho, hh⟩ := free_eq s
  unfold roster at freed ⊢
  rw [hg, ho, hh]
  rwa [List.map_map] at freed

end Session

namespace Workbench

variable {w : Workbench}

def roster (w : Workbench) : Roster := w.session.roster (w.loose.map (·.serial))

/-! ## Requests -/

theorem turns_act {α : Type} {x : Action Session α}
    (hx : Keeps (Session.Follows w.roster (w.loose.map (·.serial))) x) : Turns w.roster (w.act x).roster :=
  hx w.session .refl

/-- A call to a node outside the graph. -/
theorem turn_handle {n : Node} (hn : n ∈ w.loose) {c : Call} (hc : c.inner = true) :
    Turn w.roster (Workbench.roster { w with session := w.session.note n.serial c }) :=
  .handle (List.mem_map_of_mem hn) hc

theorem serials_eraseIdx {loose : List Node} {i : Nat} {n : Node} (hn : loose[i]? = some n) :
    (loose.map (·.serial)).Perm (n.serial :: (loose.eraseIdx i).map (·.serial)) := by
  obtain ⟨hi, rfl⟩ := List.getElem?_eq_some_iff.mp hn
  exact (List.getElem_cons_eraseIdx_perm hi).symm.map _

theorem turns_withLoose (i : Nat) {f : Node → Workbench}
    (hf : ∀ n, w.loose[i]? = some n → Turn w.roster (f n).roster) : Turns w.roster (w.withLoose i f).roster :=
  withLoose_cases (P := fun v => Turns w.roster v.roster) .refl i fun n hn => .single (hf n hn)

theorem turns_exec (w : Workbench) {request : Request} (hr : ∀ type name, request ≠ .openNode type name) :
    Turns w.roster (w.exec request).roster := by
  cases request with
  | openNode type name => exact absurd rfl (hr type name)
  | setOptions options => exact .refl
  | initNode i args context =>
    refine turns_withLoose i fun n hn => ?_
    let answer := n.filter.init w.session.history n.serial args context
    have called := turn_handle (List.mem_of_getElem? hn) (c := .init args context answer.2) rfl
    have serials := serials_set hn { n with filter := answer.1 } rfl
    show Turn w.roster ((w.session.note n.serial _).roster ((w.loose.set i { n with filter := answer.1 }).map (·.serial)))
    rw [serials]
    exact called
  | configOutput i pad props inputs =>
    exact turns_withLoose i fun n hn => turn_handle (List.mem_of_getElem? hn) rfl
  | configInput i pad props => exact turns_withLoose i fun n hn => turn_handle (List.mem_of_getElem? hn) rfl
  | discardNode i => exact turns_withLoose i fun n hn => .discard (serials_eraseIdx hn)
  | addNode i =>
    refine turns_withLoose i fun n hn => ?_
    have placed := Turn.place (r := w.roster) (serials_eraseIdx hn)
    show Turn w.roster ⟨_, _, (w.session.graph.addNode n).nodes.map (·.serial), _⟩
    rw [Session.serials_addNode]
    exact placed
  | create type name args context => exact turns_act (Session.keeps_follows_create type name args context)
  | link src srcPad dst dstPad => exact turns_act (Session.keeps_edit fun _ h => h.link)
  | insert link node inPad outPad => exact turns_act (Session.keeps_edit fun _ h => h.insert)
  | validate => exact turns_act (Session.keeps_validate fun _ _ h => h)
  | negotiate => exact turns_act Session.keeps_follows_negotiate
  | phases calls => exact Session.stable_follows.calls calls (n := { session := w.session }) .refl
  | configureLinks => exact turns_act Session.keeps_follows_configureLinks
  | configure =>
    exact turns_act (Session.keeps_configure (fun _ _ h => h) (fun _ _ h => h) Session.keeps_follows_negotiate
      Session.keeps_follows_configureLinks)
  | free => exact .single (Session.turn_free w.session _)

/-- A node opened by the caller is one more outside the graph; all else comes to turns. -/
theorem rounds_exec (w : Workbench) (request : Request) : Rounds w.roster (w.exec request).roster := by
  by_cases hr : ∃ type name, request = .openNode type name
  · obtain ⟨type, name, rfl⟩ := hr
    have opened := Round.openNode (r := w.roster) type.name
    let n := Node.ofType type name w.session.opened
    have serials : (w.loose ++ [n]).map (·.serial) = w.loose.map (·.serial) ++ [n.serial] := List.map_append
    show Rounds w.roster ⟨_, _, _, (w.loose ++ [n]).map (·.serial)⟩
    rw [serials]
    exact .single opened
  · exact (turns_exec w fun type name h => hr ⟨type, name, h⟩).rounds

theorem rounds_requests (requests : List Request) (w : Workbench) :
    Rounds w.roster (requests.foldl Workbench.exec w).roster := by
  induction requests generalizing w with
  | nil => exact .refl
  | cons request requests ih => exact (rounds_exec w request).trans (ih _)

/-- After a program and the drop of its graph: nothing was called that was not opened; every instance was uninitialized,
once and last of all, unless its caller still keeps it; one that a request other than `openNode` opened was initialized
before it was asked anything, or it refused and was never called again once that request was over. A graph freed at any
point of the program has its nodes uninitialized from the last to the first. Wherever creating fails, an instance it
opened was uninitialized by the time it fails. -/
theorem instances_torn_down_once (registry : Registry) (options : Options) (program : List Request) :
    let start : Workbench := { session := { registry, options } }
    let w := program.foldl Workbench.exec start
    let t := w.session.free
    (∀ c ∈ t.history, c.serial < t.opened) ∧
    (∀ i < t.opened, i ∉ w.loose.map (·.serial) → t.history.Ended i) ∧
    (∀ before request after, program = before ++ request :: after → (∀ type name, request ≠ .openNode type name) →
      let u := before.foldl Workbench.exec start
      let v := u.exec request
      ∀ i, u.session.opened ≤ i → i < v.session.opened →
        (t.history.Refused i ∧ v.session.history.callsOf i = t.history.callsOf i) ∨
          ∃ calls, t.history.callsOf i = .uninit :: calls ∧ Call.Served calls) ∧
    (∀ before after, program = before ++ after →
      let u := (before.foldl Workbench.exec start).session
      u.free.history = u.graph.nodes.map (⟨·.serial, .uninit⟩) ++ u.history ∧ u.free.graph.nodes = [] ∧
        (u.graph.nodes.map (·.serial)).Nodup) ∧
    ∀ (s : Session) type name args context e s', (Session.create type name args context).run s = (.error e, s') →
      s'.graph = s.graph ∧ (s'.opened = s.opened ∧ s'.history = s.history ∨
        s'.opened = s.opened + 1 ∧ ∃ report, s'.history = ⟨s.opened, .uninit⟩ ::
          ⟨s.opened, .init args context (.refused report)⟩ :: ⟨s.opened, .opened type⟩ :: s.history) := by
  intro start w t
  have sound : ∀ requests : List Request, (requests.foldl Workbench.exec start).roster.Sound :=
    fun requests => (rounds_requests requests start).sound Roster.sound_start
  have dropped : Round w.roster (t.roster (w.loose.map (·.serial))) := .turn (Session.turn_free w.session _)
  have final := dropped.sound (sound program)
  have gone : ∀ i, i ∉ (t.roster (w.loose.map (·.serial))).inGraph := fun _ hg => List.not_mem_nil hg
  refine ⟨final.past, fun i hi hl => (final.lawful i hi).2 fun hp => ?_, ?opened, ?freed, ?created⟩
  · rcases Roster.mem_present.mp hp with hg | hl'
    · exact gone i hg
    · exact hl hl'
  case opened =>
    intro before request after hprogram hr u v i hi hi'
    have hw : w = after.foldl Workbench.exec v := by
      show program.foldl Workbench.exec start = _
      rw [hprogram, List.foldl_append]
      rfl
    have later : Rounds v.roster w.roster := hw ▸ rounds_requests after v
    exact (turns_exec u hr).outcome (later.tail dropped) (sound before) hi hi' (gone i)
  case freed =>
    intro before after _ u
    obtain ⟨hg, -, hh⟩ := Session.free_eq u
    refine ⟨hh, by rw [hg], ?_⟩
    exact (List.nodup_append.mp (sound before).nodup).1
  case created => exact fun s type name args context e s' => Session.create_error

end Workbench

namespace Studio

/-- A converter is made. -/
def opening : List Request := requests [.rgb24] ++ [.negotiate]

/-- Then a filter refuses its arguments, a node is opened and dropped, and the graph is freed and used again. -/
def season : List Request := opening ++
  [.create scaleType none (some "x") none, .openNode camera none, .discardNode 0, .free, .create "null" none none none]

/-- All seven are torn down; the converter, 3, was initialized before it was asked, and 4 refused. -/
theorem season_torn_down :
    let start : Workbench := { session := { registry := .standard, options := {} } }
    let t := (season.foldl Workbench.exec start).session.free
    let u := (opening.foldl Workbench.exec start).session
    let v := ((Session.create scaleType none (some "x") none).run u).2
    t.opened = 7 ∧ (∀ i < 7, t.history.Ended i) ∧
      (∃ calls, t.history.callsOf 3 = .uninit :: calls ∧ Call.Served calls) ∧
      u.free.history = u.graph.nodes.map (⟨·.serial, .uninit⟩) ++ u.history ∧
      ∃ report, v.history = ⟨4, .uninit⟩ :: ⟨4, .init (some "x") none (.refused report)⟩ :: ⟨4, .opened scaleType⟩ ::
        u.history := by
  intro start t u v
  obtain ⟨-, hended, hopened, hfreed, hcreated⟩ := Workbench.instances_torn_down_once .standard {} season
  have count : t.opened = 7 := by decide +kernel
  refine ⟨count, ?_, ?_, ?_, ?_⟩
  · intro i hi
    refine hended i (Nat.lt_of_lt_of_eq hi count.symm) ?_
    have none_loose : (season.foldl Workbench.exec start).loose.map (·.serial) = [] := by decide +kernel
    rw [none_loose]
    exact List.not_mem_nil
  · have four : (t.history.callsOf 3).length = 4 := by decide +kernel
    have negotiated := hopened (requests [.rgb24]) .negotiate _ (List.append_assoc ..) nofun 3
    rcases negotiated (by decide +kernel) (by decide +kernel) with h | h
    · obtain ⟨⟨type, args, context, report, hcalls⟩, -⟩ := h
      rw [hcalls] at four
      cases four
    · exact h
  · simpa only [u, start] using (hfreed opening _ rfl).1
  · have fails : ((Session.create scaleType none (some "x") none).failure? u).isSome = true := by decide +kernel
    obtain ⟨e, he⟩ := Option.isSome_iff_exists.mp fails
    have open4 : u.opened = 4 := by decide +kernel
    have open5 : v.opened = 5 := by decide +kernel
    rcases (hcreated u scaleType none (some "x") none e v (run_eq_of_failure he)).2 with ⟨ho, -⟩ | ⟨-, h⟩
    · omega
    · rw [open4] at h
      exact h

end Studio

end MediaGraph

/-
  MediaGraph.Proofs.Session.Reach — the sessions a caller can get to.

  A caller has one session and the nodes it opened and did not put into the graph
  yet (`Workbench`). It may make any request at any time, with any numbers and
  names, whether the request before it failed or not; a negotiation is run as a
  whole or by its single phases. `Reach` is every state such requests lead to.

  Proved of every such state (`Workbench.Sound`): the graph is wired, its links are
  of the kind of their pads unless a filter gave one another kind, and no two
  instances have one serial. The graphs of `Studio` are small ones that can be run.
-/

import MediaGraph.Proofs.Negotiation.Steps
import MediaGraph.Proofs.Session.Propagation
import MediaGraph.Session.Configuration

namespace MediaGraph

/-! ## Requests -/

namespace Negotiation

inductive Call where
  | query
  | merge
  | reduce
  | pick
  | run
  deriving DecidableEq, Repr

/-- A phase leaves its changes behind also where it fails. -/
def exec (n : Negotiation) : Call → Negotiation
  | .query => (query.run n).2
  | .merge => (merge.run n).2
  | .reduce => (reduce.run n).2
  | .pick => (pick.run n).2
  | .run => (runPhases.run n).2

end Negotiation

structure Workbench where
  session : Session
  /-- The nodes opened that are in no graph. -/
  loose : List Node := []

inductive Request where
  | setOptions (options : Options)
  | openNode (type : FilterType) (name : Option String)
  | initNode (loose : Nat) (args : Option String) (context : Option Context)
  | configOutput (loose pad : Nat) (props : LinkProps) (inputs : List LinkProps)
  | configInput (loose pad : Nat) (props : LinkProps)
  | discardNode (loose : Nat)
  | addNode (loose : Nat)
  | create (type : String) (name args : Option String) (context : Option Context)
  | link (src srcPad dst dstPad : Nat)
  | insert (link node inPad outPad : Nat)
  | validate
  | negotiate
  /-- The phases of one new negotiation, called one by one. -/
  | phases (calls : List Negotiation.Call)
  | configureLinks
  | configure
  | free

namespace Workbench

variable {α : Type}

def act (w : Workbench) (x : Action Session α) : Workbench := { w with session := (x.run w.session).2 }

/-- Something done with a loose node, if there is one of that number. -/
def withLoose (w : Workbench) (i : Nat) (f : Node → Workbench) : Workbench := (w.loose[i]?.map f).getD w

def exec (w : Workbench) : Request → Workbench
  | .setOptions options => { w with session := { w.session with options } }
  | .openNode type name =>
    match (Session.openNode type name).run w.session with
    | (.ok n, session) => { session, loose := w.loose ++ [n] }
    | (.error _, session) => { w with session }
  | .initNode i args context => w.withLoose i fun n =>
    match (Session.initNode n args context).run w.session with
    | (.ok (n, _), session) => { session, loose := w.loose.set i n }
    | (.error _, session) => { w with session }
  | .configOutput i pad props inputs => w.withLoose i fun n => w.act (Session.configOutput n pad props inputs)
  | .configInput i pad props => w.withLoose i fun n => w.act (Session.configInput n pad props)
  | .discardNode i => w.withLoose i fun n => { w.act (Session.discardNode n) with loose := w.loose.eraseIdx i }
  | .addNode i => w.withLoose i fun n => { w.act (Session.addNode n) with loose := w.loose.eraseIdx i }
  | .create type name args context => w.act (Session.create type name args context)
  | .link src srcPad dst dstPad => w.act (Session.link src srcPad dst dstPad)
  | .insert link node inPad outPad => w.act (Session.insert link node inPad outPad)
  | .validate => w.act Session.validate
  | .negotiate => w.act Session.negotiate
  | .phases calls => { w with session := (calls.foldl Negotiation.exec { session := w.session }).session }
  | .configureLinks => w.act Session.configureLinks
  | .configure => w.act Session.configure
  | .free => { w with session := w.session.free }

end Workbench

inductive Reach : Workbench → Prop
  | start (registry : Registry) (options : Options) : Reach { session := { registry, options } }
  | step {w : Workbench} (r : Request) : Reach w → Reach (w.exec r)

theorem Reach.requests {w : Workbench} (h : Reach w) (rs : List Request) : Reach (rs.foldl Workbench.exec w) := by
  induction rs generalizing w with
  | nil => exact h
  | cons r rs ih => exact ih (.step r h)

/-- A session some requests lead to. -/
def Session.Reachable (s : Session) : Prop := ∃ loose, Reach ⟨s, loose⟩

open MediaGraph.Action

/-! ## What requests change -/

/-- What every move keeps is kept however the phases are called. -/
theorem Negotiation.Stable.exec {P : Negotiation → Prop} (hP : Stable P) {n : Negotiation} (h : P n) (c : Call) :
    P (n.exec c) := by
  cases c with
  | query => exact keeps_query hP n h
  | merge => exact keeps_merge hP n h
  | reduce => exact keeps_reduce hP n h
  | pick => exact keeps_pick hP n h
  | run => exact keeps_runPhases hP n h

theorem Negotiation.Stable.calls {P : Negotiation → Prop} (hP : Stable P) (calls : List Call) {n : Negotiation}
    (h : P n) : P (calls.foldl Negotiation.exec n) := by
  induction calls generalizing n with
  | nil => exact h
  | cons c calls ih => exact ih (hP.exec h c)

theorem Negotiation.steps_exec (n : Negotiation) (c : Call) : Steps n (n.exec c) := (stable_steps n).exec .refl c

theorem Negotiation.steps_calls (calls : List Call) (n : Negotiation) : Steps n (calls.foldl exec n) :=
  (stable_steps n).calls calls .refl

namespace Session

section Phases

variable {P : Session → Prop} (hn : ∀ n, Keeps P (notice n))
include hn

theorem keeps_validate : Keeps P validate := by
  refine keeps_bind (keeps_read _) fun p => ?_
  rcases p with _ | ⟨n, d, p⟩
  · exact keeps_pure ()
  · exact keeps_bind (hn _) fun _ => keeps_fail _

theorem keeps_phase (p : Phase) {x : Action Session Unit} (hx : Keeps P x) : Keeps P (phase p x) :=
  keeps_bind (keeps_read _) fun _ => keeps_bind (hn _) fun _ => keeps_onFailure hx fun _ => hn _

theorem keeps_configure (hs : ∀ (s : Session) spans, P s → P { s with spans }) (hnegotiate : Keeps P negotiate)
    (hlinks : Keeps P configureLinks) : Keeps P configure :=
  keeps_bind (keeps_read _) fun _ => keeps_withSpan hs _ _ <|
    keeps_bind (keeps_phase hn _ (keeps_validate hn)) fun _ => keeps_bind (keeps_phase hn _ hnegotiate) fun _ =>
      keeps_bind (keeps_phase hn _ hlinks) fun _ => keeps_bind (keeps_read _) fun _ => hn _

end Phases

variable {s₀ : Session}

theorem keeps_negotiate : Keeps (Changes s₀) negotiate := fun s h =>
  h.trans (Negotiation.steps_exec { session := s } .run).changes

theorem keeps_changes_configure : Keeps (Changes s₀) configure :=
  keeps_configure keeps_notice changes_spans keeps_negotiate keeps_changes_configureLinks

end Session

/-! ## What holds at any time -/

namespace Workbench

structure Sound (w : Workbench) : Prop where
  wired : w.session.graph.Wired
  matched : w.session.history.KeepsKinds → w.session.graph.Matched
  numbered : w.session.Numbered w.loose
  /-- The pads of loose nodes are free. -/
  loose : ∀ n ∈ w.loose, n.Unbound

variable {w : Workbench}

theorem Sound.changes (h : w.Sound) {session : Session} (hs : w.session.Changes session) :
    Sound { w with session } := by
  induction hs with
  | refl => exact h
  | tail _ hc ih => exact ⟨hc.wired ih.wired, hc.matched ih.matched, hc.numbered ih.numbered, ih.loose⟩

theorem withLoose_cases {P : Workbench → Prop} (h : P w) (i : Nat) {f : Node → Workbench}
    (hf : ∀ n, w.loose[i]? = some n → P (f n)) : P (w.withLoose i f) := by
  unfold withLoose
  cases hn : w.loose[i]? with
  | none => exact h
  | some n => exact hf n hn

theorem Sound.withLoose (h : w.Sound) (i : Nat) {f : Node → Workbench} (hf : ∀ n, w.loose[i]? = some n → (f n).Sound) :
    (w.withLoose i f).Sound := withLoose_cases h i hf

/-- A request opens, initializes, discards or adds a node, or frees the graph; any other comes to changes of the session,
with the nodes outside the graph as they were. -/
theorem exec_cases {P : Workbench → Prop} (changes : ∀ session, w.session.Changes session → P { w with session })
    (openNode : ∀ type name, P (w.exec (.openNode type name)))
    (initNode : ∀ i args context, P (w.exec (.initNode i args context)))
    (discardNode : ∀ i, P (w.exec (.discardNode i))) (addNode : ∀ i, P (w.exec (.addNode i)))
    (free : P (w.exec .free)) (request : Request) : P (w.exec request) := by
  have act : ∀ {α : Type} {x : Action Session α}, Keeps (Session.Changes w.session) x → P (w.act x) :=
    fun hx => changes _ (hx w.session .refl)
  have unchanged : P w := changes w.session .refl
  cases request with
  | openNode type name => exact openNode type name
  | initNode i args context => exact initNode i args context
  | discardNode i => exact discardNode i
  | addNode i => exact addNode i
  | free => exact free
  | setOptions options => exact changes _ (.single (.aside ⟨.of_eq rfl rfl, rfl⟩))
  | configOutput i pad props inputs =>
    exact withLoose_cases unchanged i fun n _ => act (Session.keeps_configOutput n pad props inputs)
  | configInput i pad props => exact withLoose_cases unchanged i fun n _ => act (Session.keeps_configInput n pad props)
  | create type name args context => exact act (Session.keeps_create type name args context)
  | link src srcPad dst dstPad => exact act (Session.keeps_link src srcPad dst dstPad)
  | insert link node inPad outPad => exact act (Session.keeps_insert link node inPad outPad)
  | validate => exact act (Session.keeps_validate Session.keeps_notice)
  | negotiate => exact act Session.keeps_negotiate
  | phases calls => exact changes _ (Negotiation.steps_calls calls { session := w.session }).changes
  | configureLinks => exact act Session.keeps_changes_configureLinks
  | configure => exact act Session.keeps_changes_configure

theorem Sound.openNode (h : w.Sound) (type : FilterType) (name : Option String) :
    (w.exec (.openNode type name)).Sound := by
  let n := Node.ofType type name w.session.opened
  refine ⟨h.wired, fun hk => h.matched fun r hr => hk r (List.mem_cons_of_mem _ hr), ⟨?_, ?_⟩, ?_⟩
  · show ((w.session.graph.nodes ++ (w.loose ++ [n])).map (·.serial)).Nodup
    rw [← List.append_assoc, List.map_append, List.nodup_append]
    refine ⟨h.numbered.nodup, List.pairwise_singleton _ _, fun i hi j hj => ?_⟩
    obtain ⟨m, hm, rfl⟩ := List.mem_map.mp hi
    rw [List.mem_singleton.mp hj]
    exact Nat.ne_of_lt (h.numbered.used m hm)
  · intro m (hm : m ∈ w.session.graph.nodes ++ (w.loose ++ [n]))
    rw [← List.append_assoc, List.mem_append, List.mem_singleton] at hm
    rcases hm with hm | rfl
    · exact Nat.lt_succ_of_lt (h.numbered.used m hm)
    · exact Nat.lt_succ_self _
  · intro m hm
    rcases List.mem_append.mp hm with hm | hm
    · exact h.loose m hm
    · rw [List.mem_singleton.mp hm]
      exact Node.unbound_ofType type name _

theorem serials_set {loose : List Node} {i : Nat} {n : Node} (hn : loose[i]? = some n) (n' : Node)
    (hserial : n'.serial = n.serial) : (loose.set i n').map (·.serial) = loose.map (·.serial) := by
  obtain ⟨hi, rfl⟩ := List.getElem?_eq_some_iff.mp hn
  have hi' : i < (loose.map (·.serial)).length := by rwa [List.length_map]
  calc
    (loose.set i n').map (·.serial) = (loose.map (·.serial)).set i (loose.map (·.serial))[i] := by
      rw [List.map_set, hserial, List.getElem_map]
    _ = loose.map (·.serial) := List.set_getElem_self hi'

theorem Sound.initNode (h : w.Sound) (i : Nat) (args : Option String) (context : Option Context) :
    (w.exec (.initNode i args context)).Sound := by
  refine h.withLoose i fun n hn => ?_
  let n' : Node := { n with filter := (n.filter.init w.session.history n.serial args context).1 }
  refine ⟨h.wired, fun hk => h.matched fun r hr => hk r (List.mem_cons_of_mem _ hr), ?_, ?_⟩
  · refine h.numbered.of_subperm (Nat.le_refl _) ?_
    show ((w.session.graph.nodes ++ w.loose.set i n').map (·.serial)).Subperm _
    rw [List.map_append, serials_set hn n' rfl, ← List.map_append]
  · intro m hm
    rcases List.mem_or_eq_of_mem_set hm with hm | rfl
    · exact h.loose m hm
    · exact fun d => h.loose n (List.mem_of_getElem? hn) d

theorem Sound.discardNode (h : w.Sound) (i : Nat) : (w.exec (.discardNode i)).Sound := by
  refine h.withLoose i fun n hn => ⟨h.wired, fun hk => h.matched fun r hr => hk r (List.mem_cons_of_mem _ hr), ?_,
    fun m hm => h.loose m (List.mem_of_mem_eraseIdx hm)⟩
  exact h.numbered.of_subperm (Nat.le_refl _)
    (((List.Sublist.refl _).append (List.eraseIdx_sublist w.loose i)).map _).subperm

theorem Sound.addNode (h : w.Sound) (i : Nat) : (w.exec (.addNode i)).Sound := by
  refine h.withLoose i fun n hn => ⟨h.wired.addNode (h.loose n (List.mem_of_getElem? hn)),
    fun hk => (h.matched hk).addNode n, ?_, fun m hm => h.loose m (List.mem_of_mem_eraseIdx hm)⟩
  refine h.numbered.of_subperm (Nat.le_refl _) (List.Perm.subperm (.map _ ?_))
  obtain ⟨hi, rfl⟩ := List.getElem?_eq_some_iff.mp hn
  show ((w.session.graph.nodes ++ [w.loose[i]]) ++ w.loose.eraseIdx i).Perm _
  rw [List.append_assoc]
  exact (List.getElem_cons_eraseIdx_perm hi).append_left _

theorem Sound.free (h : w.Sound) : (w.exec .free).Sound := by
  refine ⟨Graph.wired_empty, fun _ => Graph.matched_empty, ?_, h.loose⟩
  exact h.numbered.of_subperm (Nat.le_of_eq (Session.free_eq w.session).2.1.symm)
    ((List.sublist_append_right w.session.graph.nodes w.loose).map _).subperm

theorem Sound.exec (h : w.Sound) (request : Request) : (w.exec request).Sound :=
  exec_cases (fun _ => h.changes) h.openNode h.initNode h.discardNode h.addNode h.free request

end Workbench

theorem Reach.sound {w : Workbench} (h : Reach w) : w.Sound := by
  induction h with
  | start registry options =>
    exact ⟨Graph.wired_empty, fun _ => Graph.matched_empty, ⟨List.nodup_nil, nofun⟩, nofun⟩
  | step r _ ih => exact ih.exec r

theorem Session.Reachable.wired {s : Session} (h : s.Reachable) : s.graph.Wired := by
  obtain ⟨loose, h⟩ := h
  exact h.sound.wired

/-! ## A small graph -/

namespace Studio

/-- A filter that declares one list of formats for one of its pads. -/
def declaring (d : Direction) (formats : List PixelFormat) : Filter :=
  .custom { query := fun _ _ l => l.declare [.pad d 0 (.ofList .video (formats.map .video))] }

def camera : FilterType where
  name := "camera"
  outputs := [⟨.output, "default", .video⟩]
  fresh := declaring .output [.i420, .nv12]

/-- A filter that says nothing about formats. -/
def overlay : FilterType where
  name := "overlay"
  inputs := [⟨.input, "default", .video⟩]
  outputs := [⟨.output, "default", .video⟩]
  fresh := .builtin .null

def screen (formats : List PixelFormat) : FilterType where
  name := "screen"
  inputs := [⟨.input, "default", .video⟩]
  fresh := declaring .input formats

/-- Camera to overlay to screen. -/
def requests (formats : List PixelFormat) : List Request :=
  [.openNode camera none, .openNode overlay none, .openNode (screen formats) none, .addNode 0, .addNode 0, .addNode 0,
    .link 0 0 1 0, .link 1 0 2 0]

def bench (formats : List PixelFormat) : Workbench :=
  (requests formats).foldl Workbench.exec { session := { registry := .standard, options := {} } }

def session (formats : List PixelFormat) : Session := (bench formats).session

theorem reachable (formats : List PixelFormat) : (session formats).Reachable :=
  ⟨(bench formats).loose, (Reach.start .standard {}).requests (requests formats)⟩

/-- The screen takes one of the formats the camera has. -/
def matched : Session := session [.rgb24, .nv12]

/-- The screen takes none of them. -/
def mismatched : Session := session [.rgb24]

theorem matched_reachable : matched.Reachable := reachable _

theorem mismatched_reachable : mismatched.Reachable := reachable _

/-- What some requests lead to from the start. -/
def after (rs : List Request) : Session :=
  (rs.foldl Workbench.exec { session := { registry := .standard, options := {} } }).session

theorem after_reachable (rs : List Request) : (after rs).Reachable := ⟨_, (Reach.start .standard {}).requests rs⟩

end Studio

end MediaGraph

/-
  MediaGraph.Proofs.Session.Course — what is told of a session, and when.

  A run asks filters for their formats, one after the other and never one within the
  query of another. A notice is given while a filter is being asked, or at any other
  time (`Told`); `Course` takes a run apart in this way, without a look at the spans.

  Two sessions that differ in what they trace go side by side (`Abreast`): each comes to
  the same graph, the same calls and the same things told at the same times, and what
  spans an event carries can be read off the options and the time (`Told.event`). Giving
  a notice, calling and asking filters and changing the graph keep two sessions abreast.
-/

import MediaGraph.Proofs.Session.Change

namespace MediaGraph

open MediaGraph.Action

/-! ## What is told, and when -/

/-- A notice, with the node that was being asked for its formats when it was given. -/
structure Told where
  asked : Option Node
  notice : Notice

namespace Options

/-- The span around a configuration. -/
def graphSpan (o : Options) : List Span := if o.tracing.graphSpans then [.graph o.name] else []

/-- The span around the query of a node. -/
def filterSpan (o : Options) : Option Node → List Span
  | some n => if o.tracing.filterSpans then [.filter o.name n.display n.type.name] else []
  | none => []

end Options

/-- The event of a notice, where `outer` are the spans open all the time. -/
def Told.event (x : Told) (o : Options) (outer : List Span) : Event := ⟨outer ++ o.filterSpan x.asked, x.notice⟩

def Call.queries : Call → Bool
  | query .. => true
  | _ => false

/-- The notices given while a node is asked: that it refused, if it does. -/
def Node.refusals (n : Node) (h : History) : List Notice :=
  match (n.filter.query h n.serial n.layout).2 with
  | .done => []
  | .refused r => [.queryFailed n.display n.type.name r]

namespace Session

variable {outer outer' : List Span} {s₀ t₀ s t s' t' : Session} {told : List Told} {α : Type}

/-- Nothing is told, no filter is asked for its formats, and no span is opened or closed. -/
structure Quiet (s s' : Session) : Prop where
  events : s'.events = s.events
  spans : s'.spans = s.spans
  options : s'.options = s.options
  calls : ∃ calls : History, s'.history = calls ++ s.history ∧ ∀ r ∈ calls, r.call.queries = false

/-- One thing after the other, with what was told so far, newest first. Whatever is told in the run of a query is told
while that node is being asked. -/
inductive Course (s : Session) : List Told → Session → Prop
  | start : Course s [] s
  | quiet {told : List Told} {t t' : Session} : Course s told t → Quiet t t' → Course s told t'
  | trace {told : List Told} {t : Session} (spans : List Span) : Course s told t → Course s told { t with spans }
  | tell {told : List Told} {t : Session} (n : Notice) : Course s told t → Course s (⟨none, n⟩ :: told) (t.tell n)
  | ask {told : List Told} {t : Session} {n : Node} {notices : List Notice} : Course s told t → n ∈ t.graph.nodes →
      ((ask n).run t).2.events.map (·.notice) = notices ++ t.events.map (·.notice) →
      Course s (notices.map (⟨some n, ·⟩) ++ told) ((ask n).run t).2

/-- What a query tells carries its span, and after it no span is open that was not open before. -/
theorem asked_events (n : Node) (s : Session) : (s.asked n).options = s.options ∧ (s.asked n).spans = s.spans ∧
    (s.asked n).events =
      (n.refusals s.history).map (⟨s.spans ++ s.options.filterSpan (some n), ·⟩) ++ s.events := by
  unfold asked Session.ask Options.filterSpan Node.refusals
  simp only [run_bind, run_read, run_withSpan, run_queryNode]
  rcases n.filter.query s.history n.serial n.layout with ⟨ds, answer⟩
  cases s.options.tracing.filterSpans with
  | true => cases answer <;> exact ⟨rfl, List.dropLast_concat, rfl⟩
  | false =>
    cases answer with
    | done => exact ⟨rfl, rfl, rfl⟩
    | refused r =>
      let event (spans : List Span) : Event := ⟨spans, .queryFailed n.display n.type.name r⟩
      exact ⟨rfl, rfl, congrArg (event · :: s.events) (List.append_nil s.spans).symm⟩

/-! ## One session -/

/-- `told` is what was told since `s₀`, with `outer` open all the time. -/
structure Recounts (outer : List Span) (s₀ : Session) (told : List Told) (s : Session) : Prop where
  course : Course s₀ told s
  spans : s.spans = outer
  options : s.options = s₀.options
  events : s.events = told.map (·.event s₀.options outer) ++ s₀.events

namespace Recounts

theorem start (h : s₀.spans = outer) : Recounts outer s₀ [] s₀ := ⟨.start, h, rfl, rfl⟩

theorem quiet (h : Recounts outer s₀ told s) (hs : Quiet s s') : Recounts outer s₀ told s' :=
  ⟨h.course.quiet hs, hs.spans.trans h.spans, hs.options.trans h.options, hs.events.trans h.events⟩

theorem tell (h : Recounts outer s₀ told s) (n : Notice) : Recounts outer s₀ (⟨none, n⟩ :: told) (s.tell n) := by
  refine ⟨h.course.tell n, h.spans, h.options, ?_⟩
  show ⟨s.spans, n⟩ :: s.events = _
  rw [h.spans, h.events]
  simp [Told.event, Options.filterSpan]

theorem asked (h : Recounts outer s₀ told s) {n : Node} (hn : n ∈ s.graph.nodes) :
    Recounts outer s₀ ((n.refusals s.history).map (⟨some n, ·⟩) ++ told) (s.asked n) := by
  obtain ⟨options, spans, events⟩ := asked_events n s
  refine ⟨h.course.ask hn ?_, spans.trans h.spans, options.trans h.options, ?_⟩
  · show (s.asked n).events.map (·.notice) = _
    rw [events]
    simp [Function.comp_def]
  · rw [events, h.spans, h.options, h.events]
    simp [Told.event, Function.comp_def]

end Recounts

/-! ## Two sessions -/

/-- The sessions differ in nothing but what is traced. -/
structure Same (s t : Session) : Prop where
  registry : t.registry = s.registry
  graph : t.graph = s.graph
  history : t.history = s.history
  opened : t.opened = s.opened
  name : t.options.name = s.options.name
  scaleOpts : t.options.scaleOpts = s.options.scaleOpts

/-- Since `s₀` and `t₀` the same was told at the same times. -/
structure Abreast (outer outer' : List Span) (s₀ t₀ s t : Session) : Prop extends Same s t where
  told : ∃ told, Recounts outer s₀ told s ∧ Recounts outer' t₀ told t

theorem abreast_start (h : Same s₀ t₀) (hs : s₀.spans = outer) (ht : t₀.spans = outer') :
    Abreast outer outer' s₀ t₀ s₀ t₀ := ⟨h, [], .start hs, .start ht⟩

theorem same_refl (s : Session) : Same s s := ⟨rfl, rfl, rfl, rfl, rfl, rfl⟩

theorem Abreast.spans (h : Abreast outer outer' s₀ t₀ s t) : s.spans = outer := by
  obtain ⟨told, hs, -⟩ := h.told
  exact hs.spans

theorem Abreast.quiet (h : Abreast outer outer' s₀ t₀ s t) (same : Same s' t') (hs : Quiet s s') (ht : Quiet t t') :
    Abreast outer outer' s₀ t₀ s' t' := by
  obtain ⟨told, hs₀, ht₀⟩ := h.told
  exact ⟨same, told, hs₀.quiet hs, ht₀.quiet ht⟩

theorem Abreast.tell (h : Abreast outer outer' s₀ t₀ s t) (n : Notice) :
    Abreast outer outer' s₀ t₀ (s.tell n) (t.tell n) := by
  obtain ⟨told, hs, ht⟩ := h.told
  exact ⟨⟨h.registry, h.graph, h.history, h.opened, h.name, h.scaleOpts⟩, _, hs.tell n, ht.tell n⟩

/-- The two sessions ask the same of the filter and get the same answer. -/
theorem Abreast.asked (h : Abreast outer outer' s₀ t₀ s t) {n : Node} (hn : n ∈ s.graph.nodes) :
    Abreast outer outer' s₀ t₀ (s.asked n) (t.asked n) := by
  obtain ⟨told, hs, ht⟩ := h.told
  obtain ⟨graph, opened, history⟩ := asked_eq n s
  obtain ⟨graph', opened', history'⟩ := asked_eq n t
  have options := (asked_events n s).1
  have options' := (asked_events n t).1
  refine ⟨⟨?_, ?_, ?_, ?_, ?_, ?_⟩, _, hs.asked hn, ?_⟩
  · rw [registry_asked, registry_asked, h.registry]
  · rw [graph', graph, h.graph]
  · rw [history', history, h.history]
  · rw [opened', opened, h.opened]
  · rw [options', options, h.name]
  · rw [options', options, h.scaleOpts]
  · rw [← h.history]
    exact ht.asked (by rw [h.graph]; exact hn)

/-! ## Actions on both -/

theorem quiet_note (s : Session) (serial : Nat) {c : Call} (hc : c.queries = false) : Quiet s (s.note serial c) :=
  ⟨rfl, rfl, rfl, [⟨serial, c⟩], rfl, by simpa using hc⟩

/-- An instance is created without asking any filter for its formats. -/
theorem calls_create (type : String) (name args : Option String) (context : Option Context) (s : Session) :
    ∃ calls : History, ((create type name args context).run s).2.history = calls ++ s.history ∧
      ∀ r ∈ calls, r.call.queries = false := by
  rw [run_create]
  cases s.registry.lookup type with
  | none => exact ⟨[], rfl, List.forall_mem_nil _⟩
  | some t =>
    simp only
    split
    · refine ⟨[⟨s.opened, .init args context _⟩, ⟨s.opened, .opened t.name⟩], rfl, ?_⟩
      simp [Call.queries]
    · refine ⟨[⟨s.opened, .uninit⟩, ⟨s.opened, .init args context _⟩, ⟨s.opened, .opened t.name⟩], rfl, ?_⟩
      simp [Call.queries]

theorem quiet_graph (s : Session) (graph : Graph) : Quiet s { s with graph } :=
  ⟨rfl, rfl, rfl, [], rfl, List.forall_mem_nil _⟩

theorem tandem_quiet {f : Session → Session} (hsame : ∀ s t, Same s t → Same (f s) (f t)) (hquiet : ∀ s, Quiet s (f s)) :
    Tandem (Abreast outer outer' s₀ t₀) (update f) :=
  tandem_update fun s t h => h.quiet (hsame s t h.toSame) (hquiet s) (hquiet t)

theorem tandem_notice (n : Notice) : Tandem (Abreast outer outer' s₀ t₀) (notice n) := tandem_update fun _ _ h => h.tell n

theorem tandem_note (serial : Nat) {c : Call} (hc : c.queries = false) :
    Tandem (Abreast outer outer' s₀ t₀) (update (·.note serial c)) :=
  tandem_quiet (fun _ _ h => ⟨h.registry, h.graph, congrArg (_ :: ·) h.history, h.opened, h.name, h.scaleOpts⟩)
    fun s => quiet_note s serial hc

/-- Only the graph is read. -/
theorem tandem_readGraph (f : Graph → α) : Tandem (Abreast outer outer' s₀ t₀) (read fun s => f s.graph) :=
  tandem_read fun _ _ h => congrArg f h.graph

theorem tandem_expectGraph (f : Graph → Option α) : Tandem (Abreast outer outer' s₀ t₀) (expect fun s => f s.graph) :=
  tandem_expect fun _ _ h => congrArg f h.graph

theorem tandem_nodeAt (i : Nat) : Tandem (Abreast outer outer' s₀ t₀) (nodeAt i) := tandem_expectGraph (·.nodes[i]?)

theorem tandem_linkAt (i : Nat) : Tandem (Abreast outer outer' s₀ t₀) (linkAt i) := tandem_expectGraph (·.links[i]?)

theorem tandem_updateGraph (f : Graph → Graph) :
    Tandem (Abreast outer outer' s₀ t₀) (update fun s => { s with graph := f s.graph }) :=
  tandem_quiet (fun _ _ h => ⟨h.registry, congrArg f h.graph, h.history, h.opened, h.name, h.scaleOpts⟩)
    fun s => quiet_graph s (f s.graph)

theorem tandem_updateLink (link : Nat) (f : Link → Link) : Tandem (Abreast outer outer' s₀ t₀) (updateLink link f) :=
  tandem_updateGraph (·.modifyLink link f)

theorem tandem_edit (f : Graph → Except Error (Nat × Graph)) : Tandem (Abreast outer outer' s₀ t₀) (edit f) := by
  refine tandem_bind (tandem_readGraph f) fun r => ?_
  rcases r with e | ⟨j, graph⟩
  · exact tandem_fail e
  · exact tandem_bind (tandem_updateGraph fun _ => graph) fun _ => tandem_pure j

/-- A filter answers from the history, and the call is noted with its answer. -/
theorem tandem_call {β : Type} (serial : Nat) (answer : History → α) {call : α → Call}
    (hcall : ∀ a, (call a).queries = false) (result : α → β) :
    Tandem (Abreast outer outer' s₀ t₀) (do
      let a ← read fun s => answer s.history
      update (·.note serial (call a))
      return result a) := by
  have asked : Tandem (Abreast outer outer' s₀ t₀) (read fun s => answer s.history) :=
    tandem_read fun _ _ h => congrArg answer h.history
  exact tandem_bind asked fun a => tandem_bind (tandem_note serial (hcall a)) fun _ => tandem_pure (result a)

theorem tandem_initNode (n : Node) (args : Option String) (context : Option Context) :
    Tandem (Abreast outer outer' s₀ t₀) (initNode n args context) :=
  tandem_call n.serial (fun h => n.filter.init h n.serial args context) (fun _ => rfl)
    fun a => ({ n with filter := a.1 }, a.2)

theorem tandem_configOutput (n : Node) (pad : Nat) (props : LinkProps) (inputs : List LinkProps) :
    Tandem (Abreast outer outer' s₀ t₀) (configOutput n pad props inputs) :=
  tandem_call n.serial (fun h => n.filter.configOutput h n.serial pad props inputs) (fun _ => rfl) id

theorem tandem_configInput (n : Node) (pad : Nat) (props : LinkProps) :
    Tandem (Abreast outer outer' s₀ t₀) (configInput n pad props) :=
  tandem_call n.serial (fun h => n.filter.configInput h n.serial pad props) (fun _ => rfl) id

theorem tandem_openNode (type : FilterType) (name : Option String) :
    Tandem (Abreast outer outer' s₀ t₀) (openNode type name) := by
  have fresh : Tandem (Abreast outer outer' s₀ t₀) (read fun s => Node.ofType type name s.opened) :=
    tandem_read fun s t h => by rw [h.opened]
  refine tandem_bind fresh fun n => tandem_bind (tandem_quiet (fun s t h => ?_) fun s => ?_) fun _ => tandem_pure n
  · exact ⟨h.registry, h.graph, congrArg (_ :: ·) h.history, congrArg (· + 1) h.opened, h.name, h.scaleOpts⟩
  · exact ⟨rfl, rfl, rfl, (quiet_note s n.serial rfl).calls⟩

theorem tandem_addNode (n : Node) : Tandem (Abreast outer outer' s₀ t₀) (addNode n) :=
  tandem_bind (tandem_readGraph (·.nodes.length)) fun _ =>
    tandem_bind (tandem_updateGraph (·.addNode n)) fun _ => tandem_pure _

theorem tandem_create (type : String) (name args : Option String) (context : Option Context) :
    Tandem (Abreast outer outer' s₀ t₀) (create type name args context) := by
  have found : Tandem (Abreast outer outer' s₀ t₀) (read fun s => s.registry.lookup type) :=
    tandem_read fun s t h => by rw [h.registry]
  refine tandem_bind found fun found => ?_
  cases found with
  | none => exact tandem_fail _
  | some t =>
    refine tandem_bind (tandem_openNode t name) fun n => tandem_bind (tandem_initNode n args context) fun made => ?_
    obtain ⟨node, answer⟩ := made
    cases answer with
    | done => exact tandem_addNode node
    | refused r =>
      refine tandem_bind (tandem_notice _) fun _ => ?_
      exact tandem_bind (tandem_note node.serial rfl) fun _ => tandem_fail _

end Session

end MediaGraph

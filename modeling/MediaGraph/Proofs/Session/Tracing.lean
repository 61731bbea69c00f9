/-
  MediaGraph.Proofs.Session.Tracing — what is traced never steers a configuration.

  Two sessions that differ in nothing but what they trace are configured side by side:
  every stage keeps them abreast (`tandem_stages`), whether it ends well or fails, and
  the span around the stages is closed on either way out (`configure_of_recounts`). No
  request leaves a span open (`Session.Reachable.spans`), so a configuration starts
  without one.
  - `tracing_never_steers`: with any two choices of spans a configuration has the same
    result, leaves the same graph, makes the same calls to filters and gives the same
    notices. In each run an event carries the span of the graph, outermost, if and only
    if it is wanted, and within it a span that names the node being asked for its
    formats if and only if that is wanted and one is being asked; at the end no span is
    open.
-/

import MediaGraph.Proofs.Negotiation.Abreast
import MediaGraph.Proofs.Session.Stages

namespace MediaGraph

open MediaGraph.Action

variable {outer outer' : List Span} {s₀ t₀ s t : Session} {told : List Told}

namespace Session

/-! ## Configuring links -/

theorem tandem_settle (link src srcPad dst dstPad : Nat) :
    Tandem (Abreast outer outer' s₀ t₀) (settle link src srcPad dst dstPad) := by
  refine tandem_bind (tandem_nodeAt src) fun source => tandem_bind (tandem_readGraph (·.inputProps source)) fun inputs => ?_
  refine tandem_bind (tandem_linkAt link) fun given => ?_
  refine tandem_bind (tandem_configOutput source srcPad given.props inputs) fun made => ?_
  obtain ⟨props, answer⟩ := made
  cases answer with
  | refused r => exact tandem_bind (tandem_notice _) fun _ => tandem_fail _
  | done =>
    refine tandem_bind (tandem_updateLink link _) fun _ => tandem_bind (tandem_nodeAt dst) fun destination => ?_
    refine tandem_bind (tandem_configInput destination dstPad props) fun answer => ?_
    cases answer with
    | refused r => exact tandem_bind (tandem_notice _) fun _ => tandem_fail _
    | done => exact tandem_updateLink link _

theorem tandem_configureLink {configureSource : Nat → Action Session Unit}
    (hsource : ∀ i, Tandem (Abreast outer outer' s₀ t₀) (configureSource i)) (node link : Nat) :
    Tandem (Abreast outer outer' s₀ t₀) (configureLink configureSource node link) := by
  refine tandem_bind (tandem_linkAt link) fun l => ?_
  cases l.state with
  | configured => exact tandem_pure ()
  | configuring => exact tandem_bind (tandem_nodeAt node) fun _ => tandem_notice _
  | unconfigured =>
    exact tandem_bind (tandem_updateLink link _) fun _ => tandem_bind (hsource l.src) fun _ =>
      tandem_settle link l.src l.srcPad node l.dstPad

theorem tandem_configureInputs (depth node : Nat) :
    Tandem (Abreast outer outer' s₀ t₀) (configureInputs depth node) := by
  induction depth generalizing node with
  | zero =>
    exact tandem_bind (tandem_nodeAt node) fun _ => tandem_forM (tandem_configureLink (fun _ => tandem_fail _) node) _
  | succ depth ih => exact tandem_bind (tandem_nodeAt node) fun _ => tandem_forM (tandem_configureLink ih node) _

theorem tandem_configureLinks : Tandem (Abreast outer outer' s₀ t₀) configureLinks := by
  refine tandem_bind (tandem_readGraph (·.nodes.length)) fun _ => tandem_forM (fun node => ?_) _
  refine tandem_bind (tandem_nodeAt node) fun n => ?_
  split
  · exact tandem_bind (tandem_readGraph (·.unconfigured)) fun depth => tandem_configureInputs depth node
  · exact tandem_pure ()

/-! ## Stages -/

theorem tandem_validate : Tandem (Abreast outer outer' s₀ t₀) validate := by
  refine tandem_bind (tandem_readGraph (·.freePad?)) fun found => ?_
  rcases found with _ | ⟨n, d, p⟩
  · exact tandem_pure ()
  · exact tandem_bind (tandem_notice _) fun _ => tandem_fail _

theorem tandem_phase (p : Phase) {x : Action Session Unit} (hx : Tandem (Abreast outer outer' s₀ t₀) x) :
    Tandem (Abreast outer outer' s₀ t₀) (phase p x) :=
  tandem_bind (tandem_read fun _ _ h => h.name) fun _ => tandem_bind (tandem_notice _) fun _ =>
    tandem_onFailure hx fun _ => tandem_notice _

theorem tandem_stages (name : String) : Tandem (Abreast outer outer' s₀ t₀) (stages name) :=
  tandem_bind (tandem_phase .validate tandem_validate) fun _ =>
    tandem_bind (tandem_phase .negotiate tandem_negotiate) fun _ =>
      tandem_bind (tandem_phase .configLinks tandem_configureLinks) fun _ =>
        tandem_bind (tandem_readGraph fun g => g) fun _ => tandem_notice _

/-! ## The span around them -/

theorem recounts_inSpan (s : Session) : Recounts (s.spans ++ s.options.graphSpan) s [] s.inSpan := by
  unfold inSpan Options.graphSpan
  cases s.options.tracing.graphSpans with
  | false => exact .start (List.append_nil s.spans).symm
  | true => exact ⟨.trace _ .start, rfl, rfl, rfl⟩

/-- The span of the graph is closed, whatever the stages came to. -/
theorem configure_of_recounts {r : Except Error Unit} (h : (stages s.options.name).run s.inSpan = (r, t))
    (ht : Recounts (s.spans ++ s.options.graphSpan) s told t) : configure.run s = (r, { t with spans := s.spans }) := by
  have hconfigure : configure.run s = (withSpan s.options.tracing.graphSpans (.graph s.options.name)
    (stages s.options.name)).run s := rfl
  have spans := ht.spans
  unfold inSpan at h
  unfold Options.graphSpan at spans
  rw [hconfigure, run_withSpan]
  split <;> rename_i wanted
  · rw [if_pos wanted] at h spans
    simp only [h, spans, List.dropLast_concat]
  · rw [if_neg wanted] at h spans
    rw [h, ← List.append_nil s.spans, ← spans]

/-- `told` is what a configuration from `s` to `s'` told. -/
structure Traced (s : Session) (told : List Told) (s' : Session) : Prop where
  course : Course s told s'
  events : s'.events = told.map (·.event s.options (s.spans ++ s.options.graphSpan)) ++ s.events
  spans : s'.spans = s.spans

theorem traced_of_recounts (h : Recounts (s.spans ++ s.options.graphSpan) s told t) :
    Traced s told { t with spans := s.spans } := ⟨h.course.trace s.spans, h.events, rfl⟩

theorem configure_traced (h : Same s t) : (configure.run t).1 = (configure.run s).1 ∧
    Same (configure.run s).2 (configure.run t).2 ∧
      ∃ told, Traced s told (configure.run s).2 ∧ Traced t told (configure.run t).2 := by
  have start : Abreast (s.spans ++ s.options.graphSpan) (t.spans ++ t.options.graphSpan) s t s.inSpan t.inSpan := by
    refine ⟨?_, [], recounts_inSpan s, recounts_inSpan t⟩
    unfold inSpan
    split <;> split <;> exact ⟨h.registry, h.graph, h.history, h.opened, h.name, h.scaleOpts⟩
  obtain ⟨result, related⟩ := tandem_stages s.options.name s.inSpan t.inSpan start
  rcases hs : (stages s.options.name).run s.inSpan with ⟨r, s'⟩
  rcases ht : (stages t.options.name).run t.inSpan with ⟨r', t'⟩
  rw [hs, ← h.name, ht] at result related
  obtain ⟨told, recounts, recounts'⟩ := related.told
  rw [configure_of_recounts hs recounts, configure_of_recounts ht recounts']
  refine ⟨result, ?_, told, traced_of_recounts recounts, traced_of_recounts recounts'⟩
  exact ⟨related.registry, related.graph, related.history, related.opened, related.name, related.scaleOpts⟩

end Session

/-! ## No request leaves a span open -/

theorem Negotiation.Abreast.exec {m n : Negotiation} (h : Abreast outer outer' s₀ t₀ m n) (c : Call) :
    Abreast outer outer' s₀ t₀ (m.exec c) (n.exec c) := by
  cases c with
  | query => exact (tandem_query m n h).2
  | merge => exact (tandem_merge m n h).2
  | reduce => exact (tandem_reduce m n h).2
  | pick => exact (tandem_pick m n h).2
  | run => exact (tandem_runPhases m n h).2

theorem Negotiation.Abreast.calls {m n : Negotiation} (h : Abreast outer outer' s₀ t₀ m n) (calls : List Call) :
    Abreast outer outer' s₀ t₀ (calls.foldl Negotiation.exec m) (calls.foldl Negotiation.exec n) :=
  List.foldl_rel h fun c _ _ _ h => h.exec c

theorem Session.spans_free (s : Session) : s.free.spans = s.spans := by
  show (s.graph.nodes.reverse.foldl destroy s).spans = s.spans
  exact List.foldlRecOn (motive := fun t : Session => t.spans = s.spans) _ _ rfl fun t ht n _ => ht

namespace Workbench

/-- An action in tandem closes the spans it opens. -/
theorem spans_act {α : Type} (w : Workbench) {x : Action Session α}
    (hx : Tandem (Session.Abreast w.session.spans w.session.spans w.session w.session) x) :
    (w.act x).session.spans = w.session.spans :=
  (hx _ _ (Session.abreast_start (Session.same_refl _) rfl rfl)).2.spans

theorem spans_exec (w : Workbench) (request : Request) : (w.exec request).session.spans = w.session.spans := by
  have loose (i : Nat) (f : Node → Workbench) (hf : ∀ n, (f n).session.spans = w.session.spans) :
      (w.withLoose i f).session.spans = w.session.spans :=
    withLoose_cases (P := fun v => v.session.spans = w.session.spans) rfl i fun n _ => hf n
  cases request with
  | setOptions options => rfl
  | openNode type name => rfl
  | initNode i args context => exact loose i _ fun n => rfl
  | configOutput i pad props inputs => exact loose i _ fun n => rfl
  | configInput i pad props => exact loose i _ fun n => rfl
  | discardNode i => exact loose i _ fun n => rfl
  | addNode i => exact loose i _ fun n => rfl
  | create type name args context => exact w.spans_act (Session.tandem_create type name args context)
  | link src srcPad dst dstPad => exact w.spans_act (Session.tandem_edit _)
  | insert link node inPad outPad => exact w.spans_act (Session.tandem_edit _)
  | validate => exact w.spans_act Session.tandem_validate
  | negotiate => exact w.spans_act Session.tandem_negotiate
  | phases calls =>
    let n : Negotiation := { session := w.session }
    have start : Negotiation.Abreast w.session.spans w.session.spans w.session w.session n n :=
      ⟨Session.abreast_start (Session.same_refl w.session) rfl rfl, rfl, rfl, rfl⟩
    exact (start.calls calls).session.spans
  | configureLinks => exact w.spans_act Session.tandem_configureLinks
  | configure =>
    obtain ⟨-, -, told, traced, -⟩ := Session.configure_traced (Session.same_refl w.session)
    exact traced.spans
  | free => exact w.session.spans_free

end Workbench

theorem Session.Reachable.spans {s : Session} (h : s.Reachable) : s.spans = [] := by
  obtain ⟨loose, h⟩ := h
  suffices ∀ {w : Workbench}, Reach w → w.session.spans = [] from this h
  intro w hw
  induction hw with
  | start registry options => rfl
  | @step w request _ ih => exact (w.spans_exec request).trans ih

/-! ## What is traced -/

namespace Session

/-- The session with another choice of spans. -/
def withTracing (s : Session) (tracing : Tracing) : Session := { s with options := { s.options with tracing } }

/-- What is told, and which node is being asked at the time, is one and the same in both runs. -/
theorem tracing_never_steers {s : Session} (h : s.Reachable) (tracing tracing' : Tracing) :
    let t := s.withTracing tracing
    let t' := s.withTracing tracing'
    let r := configure.run t
    let r' := configure.run t'
    (r'.1 = r.1 ∧ r'.2.graph = r.2.graph ∧ r'.2.history = r.2.history ∧
      r'.2.events.map (·.notice) = r.2.events.map (·.notice)) ∧
    ∃ told, Course t told r.2 ∧ Course t' told r'.2 ∧
      r.2.events = told.map (·.event t.options t.options.graphSpan) ++ s.events ∧
      r'.2.events = told.map (·.event t'.options t'.options.graphSpan) ++ s.events ∧
      r.2.spans = [] ∧ r'.2.spans = [] := by
  intro t t' r r'
  have same : Same t t' := ⟨rfl, rfl, rfl, rfl, rfl, rfl⟩
  obtain ⟨result, after, told, traced, traced'⟩ := configure_traced same
  have hspans : t.spans = [] := h.spans
  have hspans' : t'.spans = [] := h.spans
  have events := traced.events
  have events' := traced'.events
  rw [hspans, List.nil_append] at events
  rw [hspans', List.nil_append] at events'
  refine ⟨⟨result, after.graph, after.history, ?_⟩, told, traced.course, traced'.course, events, events',
    traced.spans.trans hspans, traced'.spans.trans hspans'⟩
  have notices (o : Options) : (told.map (·.event o o.graphSpan)).map (·.notice) = told.map (·.notice) := by
    rw [List.map_map]
    rfl
  rw [events, events', List.map_append, List.map_append, notices, notices]
  rfl

end Session

namespace Studio

/-- A scaler that does not say what it takes. -/
def mute : FilterType :=
  ({ name := scaleType
     fresh := .custom { query := fun _ _ _ => ([], .refused ⟨.configuration, "no answer"⟩) } } : FilterType)
    |>.withInput "default" .video |>.withOutput "default" .video

/-- Camera, overlay and screen, where the scaler that has to be inserted is mute. -/
def rebuffed : Session :=
  ((requests [.rgb24]).foldl Workbench.exec { session := { registry := Registry.standard.register mute } }).session

theorem rebuffed_reachable : rebuffed.Reachable := ⟨_, (Reach.start _ {}).requests _⟩

end Studio

/-- The scaler refuses when it is asked in the middle of merging, and the phase fails after it. -/
theorem Session.rebuffed_told_alike :
    let r := configure.run (Studio.rebuffed.withTracing .all)
    let r' := configure.run (Studio.rebuffed.withTracing .none)
    (r'.1 = r.1 ∧ r'.2.graph = r.2.graph ∧ r'.2.history = r.2.history ∧
      r'.2.events.map (·.notice) = r.2.events.map (·.notice)) ∧
    r.1 = .error (.reported ⟨.configuration, "no answer"⟩) ∧
    r.2.events.map (·.spans) = [[.graph "graph"],
      [.graph "graph", .filter "graph" "auto-inserted scaler 0" "scale"],
      [.graph "graph"], [.graph "graph"], [.graph "graph"], [.graph "graph"], [.graph "graph"]] ∧
    r'.2.events.map (·.spans) = List.replicate 7 [] := by
  obtain ⟨alike, -⟩ := tracing_never_steers Studio.rebuffed_reachable .all .none
  have failed : configure.failure? (Studio.rebuffed.withTracing .all) =
      some (.reported ⟨.configuration, "no answer"⟩) := by decide +kernel
  refine ⟨alike, congrArg Prod.fst (run_eq_of_failure failed), ?_, ?_⟩
  · decide +kernel
  · decide +kernel

end MediaGraph

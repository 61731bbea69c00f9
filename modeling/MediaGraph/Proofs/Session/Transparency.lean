/-
  MediaGraph.Proofs.Session.Transparency — converters put in between change the format
  alone.

  An instance opened while a graph is negotiated is a converter for as long as it is in
  the graph, whatever is asked after that: no request works on an instance in the graph
  but to rewire and to ask it, and no serial is given out twice (`Workbench.Fitted`).

  A configuration that ends well on a fresh acyclic graph leaves each link with what its
  source made of its inputs (`Session.makes_of_configure`), and a converter between two
  links (`Graph.Linked.pad_link`). So what comes out of a built-in scaler is as large
  as what goes in, and what comes out of a resampler has its rate and channels
  (`Workbench.inserted_converters_transparent`).
-/

import MediaGraph.Proofs.Session.Fixpoint
import MediaGraph.Proofs.Session.Validation

namespace MediaGraph

open MediaGraph.Action

/-- It negotiates, on its own or within a configuration. -/
def Request.negotiates : Request → Bool
  | negotiate | phases _ | configure => true
  | _ => false

/-! ## The catalog -/

namespace Session

variable {r : Registry}

theorem keeps_registry_create (type : String) (name args : Option String) (context : Option Context) :
    Keeps (·.registry = r) (create type name args context) := by
  intro s h
  rw [run_create]
  cases s.registry.lookup type with
  | none => exact h
  | some t =>
    simp only
    split <;> exact h

theorem registry_free (s : Session) : s.free.registry = s.registry := by
  show (s.graph.nodes.reverse.foldl destroy s).registry = s.registry
  generalize s.graph.nodes.reverse = nodes
  induction nodes generalizing s with
  | nil => rfl
  | cons n nodes ih => exact ih (s.destroy n)

end Session

namespace Workbench

variable {w : Workbench}

/-- No request changes the catalog. -/
theorem registry_exec (w : Workbench) (request : Request) : (w.exec request).session.registry = w.session.registry := by
  have loose : ∀ i {f : Node → Workbench}, (∀ n, (f n).session.registry = w.session.registry) →
      (w.withLoose i f).session.registry = w.session.registry :=
    fun i _ hf => withLoose_cases (P := (·.session.registry = w.session.registry)) rfl i fun n _ => hf n
  cases request with
  | setOptions | openNode => rfl
  | initNode i | configOutput i | configInput i | discardNode i | addNode i => exact loose i fun _ => rfl
  | create type name args context => exact Session.keeps_registry_create type name args context _ rfl
  | link src srcPad dst dstPad =>
    exact Session.keeps_edit (P := (·.registry = w.session.registry)) (fun _ h _ _ _ => h) _ rfl
  | insert link node inPad outPad =>
    exact Session.keeps_edit (P := (·.registry = w.session.registry)) (fun _ h _ _ _ => h) _ rfl
  | validate => exact Session.keeps_validate (P := (·.registry = w.session.registry)) (fun _ _ h => h) _ rfl
  | negotiate => exact (Session.keeps_outfitted_negotiate _ (.refl _)).registry
  | phases calls =>
    exact ((Session.stable_outfitted _).calls calls (n := { session := w.session }) (.refl w.session)).registry
  | configureLinks => exact (Session.keeps_outfitted_configureLinks _ (.refl _)).registry
  | configure => exact (Session.keeps_outfitted_configure _ (.refl _)).registry
  | free => exact Session.registry_free w.session

theorem registry_requests (requests : List Request) (w : Workbench) :
    (requests.foldl exec w).session.registry = w.session.registry := by
  induction requests generalizing w with
  | nil => rfl
  | cons request requests ih => exact (ih _).trans (registry_exec w request)

/-! ## Instances opened in a negotiation -/

/-- Of the instances from one serial to the next none is outside the graph, and those in it are converters. -/
structure Fitted (r : Registry) (first next : Nat) (w : Workbench) : Prop where
  past : next ≤ w.session.opened
  loose : ∀ n ∈ w.loose, first ≤ n.serial → next ≤ n.serial
  nodes : ∀ n ∈ w.session.graph.nodes, first ≤ n.serial → n.serial < next → r.Converter n.detached

namespace Fitted

variable {r : Registry} {first next : Nat}

theorem changes (h : Fitted r first next w) {session : Session} (hs : w.session.Changes session) :
    Fitted r first next { w with session } := by
  refine ⟨Nat.le_trans h.past hs.later.opened, h.loose, fun n hn hfirst hnext => ?_⟩
  rcases hs.origin hn with hold | hnew
  · obtain ⟨m, hm, e, same⟩ := Session.exists_of_mem_detached hold
    rw [← e]
    exact h.nodes m hm (same ▸ hfirst) (same ▸ hnext)
  · have := h.past
    omega

theorem openNode (h : Fitted r first next w) (type : FilterType) (name : Option String) :
    Fitted r first next (w.exec (.openNode type name)) := by
  refine ⟨Nat.le_succ_of_le h.past, fun n hn hfirst => ?_, h.nodes⟩
  rcases List.mem_append.mp hn with hn | hn
  · exact h.loose n hn hfirst
  · rw [List.mem_singleton.mp hn]
    exact h.past

theorem initNode (h : Fitted r first next w) (i : Nat) (args : Option String) (context : Option Context) :
    Fitted r first next (w.exec (.initNode i args context)) := by
  refine withLoose_cases h i fun n hn => ⟨h.past, fun m hm hfirst => ?_, h.nodes⟩
  rcases List.mem_or_eq_of_mem_set hm with hm | rfl
  · exact h.loose m hm hfirst
  · exact h.loose n (List.mem_of_getElem? hn) hfirst

/-- A node that comes in from outside is none of them. -/
theorem addNode (h : Fitted r first next w) (i : Nat) : Fitted r first next (w.exec (.addNode i)) := by
  refine withLoose_cases h i fun n hn => ⟨h.past, fun m hm => h.loose m (List.mem_of_mem_eraseIdx hm), ?_⟩
  intro m hm hfirst hnext
  rcases List.mem_append.mp hm with hm | hm
  · exact h.nodes m hm hfirst hnext
  · rw [List.mem_singleton.mp hm] at hfirst hnext
    exact absurd hnext (Nat.not_lt_of_le (h.loose n (List.mem_of_getElem? hn) hfirst))

theorem free (h : Fitted r first next w) : Fitted r first next (w.exec .free) := by
  obtain ⟨hg, ho, -⟩ := Session.free_eq w.session
  refine ⟨Nat.le_trans h.past (Nat.le_of_eq ho.symm), h.loose, fun n hn => ?_⟩
  have hnil : n ∈ w.session.free.graph.nodes := hn
  rw [hg] at hnil
  exact absurd hnil List.not_mem_nil

theorem exec (h : Fitted r first next w) (request : Request) : Fitted r first next (w.exec request) := by
  refine exec_cases (fun _ => h.changes) h.openNode h.initNode (fun i => ?_) h.addNode h.free request
  exact withLoose_cases h i fun n _ => ⟨h.past, fun m hm => h.loose m (List.mem_of_mem_eraseIdx hm), h.nodes⟩

theorem requests (requests : List Request) (h : Fitted r first next w) :
    Fitted r first next (requests.foldl Workbench.exec w) := by
  induction requests generalizing w with
  | nil => exact h
  | cons request requests ih => exact ih (h.exec request)

end Fitted

/-- What is opened in such a request is a converter, or is gone by its end. -/
theorem fitted_exec (hw : w.Sound) {request : Request} (hr : request.negotiates = true) :
    Fitted w.session.registry w.session.opened (w.exec request).session.opened (w.exec request) := by
  have known : ∀ n ∈ w.session.graph.nodes ++ w.loose, n.serial < w.session.opened := hw.numbered.used
  have outfitted : w.session.Outfitted (w.exec request).session ∧ (w.exec request).loose = w.loose := by
    cases request with
    | negotiate => exact ⟨Session.keeps_outfitted_negotiate _ (.refl _), rfl⟩
    | phases calls => exact ⟨(Session.stable_outfitted _).calls calls (n := { session := w.session }) (.refl _), rfl⟩
    | configure => exact ⟨Session.keeps_outfitted_configure _ (.refl _), rfl⟩
    | _ => cases hr
  obtain ⟨outfitted, hloose⟩ := outfitted
  refine ⟨Nat.le_refl _, fun n hn hfirst => ?_, fun n hn hfirst _ => ?_⟩
  · rw [hloose] at hn
    exact absurd (known n (List.mem_append_right _ hn)) (Nat.not_lt_of_le hfirst)
  · exact outfitted.of_serial (fun m hm => known m (List.mem_append_left _ hm)) hn hfirst

end Workbench

/-! ## Between two links -/

namespace Graph

variable {g : Graph} {k : Nat} {n : Node}

/-- The only pad of a direction is at one link. -/
theorem Linked.pad_link (hl : g.Linked) (hw : g.Wired) (hn : g.nodes[k]? = some n) {d : Direction}
    (hone : (n.pads d).length = 1) :
    ∃ i l, (n.pads d).filterMap (·.link) = [i] ∧ g.links[i]? = some l ∧ l.port d = ⟨k, d, 0⟩ := by
  obtain ⟨pad, hpads⟩ := List.length_eq_one_iff.mp hone
  have hpad : g.padAt? ⟨k, d, 0⟩ = some pad := padAt?_eq_some_iff.mpr ⟨n, hn, by rw [hpads]; rfl⟩
  obtain ⟨i, l, hi, hport⟩ := (hl ⟨k, d, 0⟩ (by rw [hpad]; rfl)).exists
  have hlink : pad.link = some i := by
    rw [← bound?_eq_link hpad]
    exact hw.touches_iff.mp ⟨l, hi, hport⟩
  exact ⟨i, l, by rw [hpads]; simp [hlink], hi, hport⟩

end Graph

namespace Session

variable {s t : Session}

/-- Every link is settled, so its source made what it has. -/
theorem makes_of_configureLinks (hw : s.graph.Wired) (hu : ∀ l ∈ s.graph.links, l.state = .unconfigured)
    (ha : s.graph.Acyclic) (hon : s.graph.Unblocked) (hr : configureLinks.run s = (.ok (), t)) :
    t.graph.nodes = s.graph.nodes ∧ ∀ i l, s.graph.links[i]? = some l →
      s.Makes t.graph i ∧ ∃ props, t.graph.links[i]? = some { l with props, state := .configured } := by
  obtain ⟨order, hwalk, configured⟩ := configureLinks_total hw hu ha hon hr
  obtain ⟨calls, -, hs⟩ := hwalk.settled
  have makes := hs.upstream hw ha hu (P := s.Makes t.graph) fun _ _ _ _ _ hmakes _ => hmakes
  refine ⟨hwalk.nodes, fun i l hl => ?_⟩
  obtain ⟨hi, hprops⟩ := configured i l hl
  exact ⟨makes i hi, hprops⟩

/-- What a configuration that ends well leaves of a fresh acyclic graph, if its converters have one pad of each
direction: each pad is at a link, and each link has what its source made of it. -/
structure Settled (t : Session) (g : Graph) : Prop where
  wired : t.graph.Wired
  linked : t.graph.Linked
  nodes : g.nodes = t.graph.nodes
  made : ∀ i l, t.graph.links[i]? = some l →
    t.Makes g i ∧ ∃ props, g.links[i]? = some { l with props, state := .configured }

theorem settled_of_configure (hw : s.graph.Wired) (hu : ∀ l ∈ s.graph.links, l.state = .unconfigured)
    (ha : s.graph.Acyclic) (hr : s.registry.Convertible) (hok : (configure.run s).1 = .ok ()) :
    ∃ t, Settled t (configure.run s).2.graph := by
  obtain ⟨hfree, t, u, hn, hl, hg, -⟩ := configure_done hok
  have hw' : s.entered.graph.Wired := by rw [graph_entered]; exact hw
  have hfree' : s.entered.graph.freePad? = none := by rw [graph_entered]; exact hfree
  have hu' : ∀ l ∈ s.entered.graph.links, l.state = .unconfigured := by rw [graph_entered]; exact hu
  obtain ⟨acyclic, unblocked⟩ := open_of_negotiate hw' hfree' (by rw [graph_entered]; exact ha) hn
  have idle := idle_negotiate hu'
  have outfitted := keeps_outfitted_negotiate s.entered (.refl s.entered)
  rw [hn] at idle outfitted
  have wired := (converted_of_negotiate hw' hn).1
  have linked : t.graph.Linked := by
    have valid : s.entered.graph.Linked := (validate_ok_iff hw').mp (by rw [run_validate, hfree'])
    have converter : ∀ n ∈ t.graph.nodes.drop s.entered.graph.nodes.length, s.registry.Converter n.detached := by
      rw [← registry_entered]
      exact fun n => outfitted.of_drop
    exact linked_of_negotiate hw' valid hn fun n hmem => (converter n hmem).one_pad hr
  obtain ⟨hnodes, made⟩ := makes_of_configureLinks (s := t.tell (.phase t.options.name .configLinks)) wired idle.links
    acyclic unblocked hl
  rw [hg]
  exact ⟨t, wired, linked, hnodes, made⟩

/-- What a converter got it handed on. -/
theorem Settled.passes {g : Graph} (h : Settled t g) {r : Registry} (hr : r.Convertible) {n : Node} (hn : n ∈ g.nodes)
    (hc : r.Converter n.detached) : ∃ i j up down, n.inputLinks = [i] ∧ n.outputLinks = [j] ∧
      g.links[i]? = some up ∧ g.links[j]? = some down ∧
      (n.type.name = scaleType ∧ down.props.width = up.props.width ∧ down.props.height = up.props.height ∨
        n.type.name = resampleType ∧ down.props.sampleRate = up.props.sampleRate ∧
          down.props.channels = up.props.channels) := by
  rw [h.nodes] at hn
  obtain ⟨k, hk⟩ := List.mem_iff_getElem?.mp hn
  obtain ⟨i, l, hin, hi, -⟩ := h.linked.pad_link h.wired hk (hc.one_pad hr .input)
  obtain ⟨j, m, hout, hj, hport⟩ := h.linked.pad_link h.wired hk (hc.one_pad hr .output)
  have hin : n.inputLinks = [i] := hin
  have hsrc : m.src = k := congrArg Port.node hport
  obtain ⟨-, up, hup⟩ := h.made i l hi
  obtain ⟨makes, down, hdown⟩ := h.made j m hj
  obtain ⟨calls, -, hmade⟩ := makes m n hj (hsrc ▸ hk)
  have inputs : g.inputProps n = [up] := by
    rw [Graph.inputProps_eq, hin]
    simp [Graph.props?, hup]
  rw [Graph.props?, hdown, inputs] at hmade
  have made := Option.some.inj hmade
  refine ⟨i, j, _, _, hin, hout, hup, hdown, ?_⟩
  rcases hc.passes hr with ⟨htype, same⟩ | ⟨htype, same⟩
  · refine .inl ⟨htype, ?_⟩
    have size := same (calls ++ t.history) n.serial m.srcPad m.props up
    rwa [← made] at size
  · refine .inr ⟨htype, ?_⟩
    have rate := same (calls ++ t.history) n.serial m.srcPad m.props up
    rwa [← made] at rate

end Session

namespace Workbench

/-- A scaler takes the arguments planned for it whatever the options are, has no size of its own then, and keeps the
options for flags. So where the converter types are the built-in ones, configuring a fresh acyclic graph leaves each
converter, whichever negotiation it was opened in, with an output link as large as its input link, or of the same rate
and as many channels. -/
theorem inserted_converters_transparent :
    (∀ (c : Converters) (r : Registry) (opts : Option String) (h : History) (serial : Nat),
      ∃ plan c', c.plan .video r opts = .ok (plan, c') ∧ plan.type = scaleType ∧
        (Filter.builtin (.scale {})).init h serial plan.args none =
          (.builtin (.scale { width := 0, height := 0, flags := opts.filter (· ≠ "") }), .done)) ∧
    ∀ (registry : Registry) (options : Options) (program before after : List Request) (request : Request),
      registry.Convertible → request.negotiates = true → program ++ [.configure] = before ++ request :: after →
      let start : Workbench := { session := { registry, options } }
      let s := (program.foldl exec start).session
      let u := before.foldl exec start
      let g := (Session.configure.run s).2.graph
      s.graph.Acyclic → (∀ l ∈ s.graph.links, l.state = .unconfigured) → (Session.configure.run s).1 = .ok () →
      ∀ n ∈ g.nodes, u.session.opened ≤ n.serial → n.serial < (u.exec request).session.opened →
        ∃ i j up down, n.inputLinks = [i] ∧ n.outputLinks = [j] ∧ g.links[i]? = some up ∧ g.links[j]? = some down ∧
          (n.type.name = scaleType ∧ down.props.width = up.props.width ∧ down.props.height = up.props.height ∨
            n.type.name = resampleType ∧ down.props.sampleRate = up.props.sampleRate ∧
              down.props.channels = up.props.channels) := by
  refine ⟨fun c r opts h serial => ⟨_, _, rfl, rfl, c.scaler_taken opts h serial⟩, ?_⟩
  intro registry options program before after request hr hnegotiates hprogram start s u g ha hu hok n hn hfirst hnext
  have reach : ∀ requests : List Request, Reach (requests.foldl exec start) := (Reach.start registry options).requests
  have catalog : ∀ requests : List Request, (requests.foldl exec start).session.registry = registry :=
    fun requests => registry_requests requests start
  -- the graph configured is the one after all of the program
  have last : (program.foldl exec start).exec .configure = after.foldl exec (u.exec request) := by
    have split := congrArg (List.foldl exec start) hprogram
    rwa [List.foldl_append, List.foldl_append] at split
  have fitted : Fitted registry u.session.opened (u.exec request).session.opened
      ((program.foldl exec start).exec .configure) := by
    rw [last, ← catalog before]
    exact (fitted_exec (reach before).sound hnegotiates).requests after
  have convertible : s.registry.Convertible := by
    rw [catalog program]
    exact hr
  obtain ⟨t, settled⟩ := Session.settled_of_configure (reach program).sound.wired hu ha convertible hok
  exact settled.passes hr hn (fitted.nodes n hn hfirst hnext)

end Workbench

namespace Studio

/-- A camera that says how large its pictures are. -/
def webcam : FilterType where
  name := "webcam"
  outputs := [⟨.output, "default", .video⟩]
  fresh := .custom {
    query := fun _ _ l => l.declare [.pad .output 0 (.ofList .video [.video .i420])]
    configOutput := fun _ _ _ props _ => ({ props with width := 640, height := 480 }, .done) }

/-- Webcam to screen. -/
def call : List Request :=
  [.openNode webcam none, .openNode (screen [.rgb24]) none, .addNode 0, .addNode 0, .link 0 0 1 0]

/-- A scaler is put in, and configured later. -/
def answered : List Request := call ++ [.negotiate]

theorem call_keeps_size :
    let start : Workbench := { session := { registry := .standard, options := {} } }
    let s := (answered.foldl Workbench.exec start).session
    let g := (Session.configure.run s).2.graph
    (Session.configure.run s).1 = .ok () ∧ ∃ n, g.nodes[2]? = some n ∧ ∃ i j up down,
      n.inputLinks = [i] ∧ n.outputLinks = [j] ∧ g.links[i]? = some up ∧ g.links[j]? = some down ∧
        up.props.width = 640 ∧ down.props.width = up.props.width ∧ down.props.height = up.props.height := by
  have transparent := Workbench.inserted_converters_transparent.2 .standard {} answered call [.configure] .negotiate
    ⟨rfl, rfl⟩ rfl (List.append_assoc ..)
  dsimp only at transparent ⊢
  have before : (call.foldl Workbench.exec { session := { registry := .standard, options := {} } }).session.opened = 2 := by
    decide +kernel
  have now : ((call.foldl Workbench.exec { session := { registry := .standard, options := {} } }).exec
      .negotiate).session.opened = 3 := by decide +kernel
  -- from here on the session is a name, so that no step runs it but those that decide
  generalize hs : (answered.foldl Workbench.exec { session := { registry := .standard, options := {} } }).session = s
    at transparent ⊢
  have acyclic : s.graph.Acyclic := by
    subst hs
    exact Graph.acyclic_of_rank (fun a => if a = 1 then 3 else a) (by decide +kernel)
  have fresh : ∀ l ∈ s.graph.links, l.state = .unconfigured := by
    subst hs
    decide +kernel
  have configured : (Session.configure.run s).1 = .ok () := by
    subst hs
    decide +kernel
  have scaler : ((Session.configure.run s).2.graph.nodes[2]?).map (fun n => (n.serial, n.type.name, n.inputLinks)) =
      some (2, scaleType, [0]) := by
    subst hs
    decide +kernel
  have wide : ((Session.configure.run s).2.graph.links[0]?).map (·.props.width) = some 640 := by
    subst hs
    decide +kernel
  obtain ⟨n, hn, hscaler⟩ := Option.map_eq_some_iff.mp scaler
  simp only [Prod.mk.injEq] at hscaler
  obtain ⟨hserial, htype, hinput⟩ := hscaler
  obtain ⟨i, j, up, down, hin, hout, hup, hdown, ⟨-, hw, hh⟩ | ⟨hname, -⟩⟩ :=
    transparent acyclic fresh configured n (List.mem_of_getElem? hn) (by rw [before, hserial])
      (by rw [now, hserial]; decide)
  · obtain rfl : i = 0 := List.singleton_injective (hin.symm.trans hinput)
    rw [hup] at wide
    exact ⟨configured, n, hn, 0, j, up, down, hin, hout, hup, hdown, Option.some.inj wide, hw, hh⟩
  · exact absurd (htype.symm.trans hname) (by decide)

end Studio

end MediaGraph

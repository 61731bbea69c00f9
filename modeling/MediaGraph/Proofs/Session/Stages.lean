/-
  MediaGraph.Proofs.Session.Stages — a configuration, stage by stage.

  A configuration checks the graph, negotiates and configures the links, inside a
  span if one is wanted. The span and the notices around the stages touch neither
  the graph nor the record of calls (`run_configure`). So a configuration comes to
  what its first failing stage comes to (`configure_invalid`,
  `configure_unnegotiated`, `configure_unsettled`), or to all three (`configure_done`).
-/

import MediaGraph.Proofs.Session.Reach

namespace MediaGraph.Session

open MediaGraph.Action

variable {s t u : Session} {e : Error}

/-! ## One stage -/

theorem run_phase (p : Phase) (x : Action Session Unit) (s : Session) :
    (phase p x).run s = match x.run (s.tell (.phase s.options.name p)) with
      | (.ok (), t) => (.ok (), t)
      | (.error e, t) => (.error e, t.tell (.phaseFailed s.options.name p e)) := by
  unfold phase
  simp only [run_bind, run_read, notice, run_update]
  simp only [onFailure, run]
  rcases x (s.tell (.phase s.options.name p)) with ⟨e | a, t⟩ <;> rfl

theorem run_phase_ok {p : Phase} {x : Action Session Unit} :
    (phase p x).run s = (.ok (), t) ↔ x.run (s.tell (.phase s.options.name p)) = (.ok (), t) := by
  rw [run_phase]
  rcases x.run (s.tell (.phase s.options.name p)) with ⟨e | a, t⟩ <;> simp

/-- A phase that fails is told of, and fails the same way. -/
theorem run_phase_error {p : Phase} {x : Action Session Unit}
    (h : x.run (s.tell (.phase s.options.name p)) = (.error e, t)) :
    (phase p x).run s = (.error e, t.tell (.phaseFailed s.options.name p e)) := by
  rw [run_phase, h]

/-- Whether a graph is valid can be read off it. -/
theorem run_validate (s : Session) : validate.run s = match s.graph.freePad? with
    | none => (.ok (), s)
    | some (n, d, p) => (.error (.unconnected d p.name n.display n.type.name),
        s.tell (.unconnected d p.name n.display n.type.name)) := by
  unfold validate
  rw [run_bind, run_read]
  rcases s.graph.freePad? with _ | ⟨n, d, p⟩ <;> rfl

theorem run_validate_ok : validate.run s = (.ok (), t) ↔ s.graph.freePad? = none ∧ t = s := by
  rw [run_validate]
  rcases s.graph.freePad? with _ | ⟨n, d, p⟩ <;> simp [eq_comm]

theorem freePad?_of_validate (h : (validate.run s).1 = .ok ()) : s.graph.freePad? = none :=
  (run_validate_ok.mp (run_eq_of_ok h)).1

/-- Only the graph counts, and an invalid one is told of. -/
theorem validate_error (h : (validate.run s).1 = .error e) (hg : t.graph = s.graph) :
    ∃ told, validate.run t = (.error e, t.tell told) := by
  rw [run_validate] at h ⊢
  rw [hg]
  cases hp : s.graph.freePad? with
  | none =>
    rw [hp] at h
    cases h
  | some found =>
    rw [hp] at h
    cases h
    exact ⟨_, rfl⟩

/-! ## All stages -/

/-- The session a configuration works in. -/
def inSpan (s : Session) : Session :=
  if s.options.tracing.graphSpans then { s with spans := s.spans ++ [.graph s.options.name] } else s

@[simp] theorem graph_inSpan (s : Session) : s.inSpan.graph = s.graph := by
  unfold inSpan
  split <;> rfl

@[simp] theorem history_inSpan (s : Session) : s.inSpan.history = s.history := by
  unfold inSpan
  split <;> rfl

/-- The session a configuration hands to negotiation, once the graph was found valid. -/
def entered (s : Session) : Session :=
  let opened := if s.options.tracing.graphSpans then { s with spans := s.spans ++ [.graph s.options.name] } else s
  (opened.tell (.phase s.options.name .validate)).tell (.phase s.options.name .negotiate)

theorem entered_eq (s : Session) : s.entered =
    (s.inSpan.tell (.phase s.inSpan.options.name .validate)).tell (.phase s.inSpan.options.name .negotiate) := by
  unfold entered inSpan
  split <;> rfl

@[simp] theorem graph_entered (s : Session) : s.entered.graph = s.graph := by
  unfold entered
  split <;> rfl

@[simp] theorem history_entered (s : Session) : s.entered.history = s.history := by
  unfold entered
  split <;> rfl

@[simp] theorem registry_entered (s : Session) : s.entered.registry = s.registry := by
  unfold entered
  split <;> rfl

/-- What a configuration does in its span. -/
def stages (name : String) : Action Session Unit := do
  phase .validate validate
  phase .negotiate negotiate
  phase .configLinks configureLinks
  let g ← Action.read (·.graph)
  notice (.configured name g.nodes.length g.links.length)

/-- Opening and closing the span touches neither the graph nor the record of calls. -/
theorem run_configure (s : Session) : (configure.run s).1 = ((stages s.options.name).run s.inSpan).1 ∧
    (configure.run s).2.graph = ((stages s.options.name).run s.inSpan).2.graph ∧
      (configure.run s).2.history = ((stages s.options.name).run s.inSpan).2.history := by
  have h : configure.run s = (withSpan s.options.tracing.graphSpans (.graph s.options.name)
    (stages s.options.name)).run s := rfl
  rw [h, run_withSpan, inSpan]
  split <;> exact ⟨rfl, rfl, rfl⟩

theorem configure_of_stages {r : Except Error Unit} (h : (stages s.options.name).run s.inSpan = (r, t)) :
    (configure.run s).1 = r ∧ (configure.run s).2.graph = t.graph ∧ (configure.run s).2.history = t.history := by
  have hr := run_configure s
  rwa [h] at hr

/-- A valid graph is handed on as it is. -/
theorem run_stages (h : s.graph.freePad? = none) (name : String) : (stages name).run s.inSpan = (do
    phase .negotiate negotiate
    phase .configLinks configureLinks
    let g ← Action.read (·.graph)
    notice (.configured name g.nodes.length g.links.length)).run
      (s.inSpan.tell (.phase s.inSpan.options.name .validate)) := by
  refine run_bind_of_run (run_phase_ok.mpr (run_validate_ok.mpr ⟨?_, rfl⟩))
  show s.inSpan.graph.freePad? = none
  rw [graph_inSpan, h]

/-! ## The first stage that fails -/

/-- An invalid graph is left alone, and no filter is called. -/
theorem configure_invalid (h : (validate.run s).1 = .error e) :
    (configure.run s).1 = .error e ∧ (configure.run s).2.graph = s.graph ∧ (configure.run s).2.history = s.history := by
  obtain ⟨told, hv⟩ := validate_error h (t := s.inSpan.tell (.phase s.inSpan.options.name .validate)) (graph_inSpan s)
  have hstages : (stages s.options.name).run s.inSpan = _ := run_bind_error.mpr (.inl (run_phase_error hv))
  obtain ⟨hr, hg, hh⟩ := configure_of_stages hstages
  exact ⟨hr, hg.trans (graph_inSpan s), hh.trans (history_inSpan s)⟩

theorem configure_unnegotiated (hv : (validate.run s).1 = .ok ()) (hn : negotiate.run s.entered = (.error e, t)) :
    (configure.run s).1 = .error e ∧ (configure.run s).2.graph = t.graph ∧
      (configure.run s).2.history = t.history := by
  rw [entered_eq] at hn
  refine configure_of_stages (t := t.tell (.phaseFailed s.inSpan.options.name .negotiate e)) ?_
  rw [run_stages (freePad?_of_validate hv)]
  exact run_bind_error.mpr (.inl (run_phase_error hn))

theorem configure_unsettled (hv : (validate.run s).1 = .ok ()) (hn : negotiate.run s.entered = (.ok (), t))
    (hl : configureLinks.run (t.tell (.phase t.options.name .configLinks)) = (.error e, u)) :
    (configure.run s).1 = .error e := by
  rw [entered_eq] at hn
  refine (configure_of_stages (t := u.tell (.phaseFailed t.options.name .configLinks e)) ?_).1
  rw [run_stages (freePad?_of_validate hv), run_bind_of_run (run_phase_ok.mpr hn)]
  exact run_bind_error.mpr (.inl (run_phase_error hl))

theorem configure_done (h : (configure.run s).1 = .ok ()) :
    s.graph.freePad? = none ∧ ∃ t u, negotiate.run s.entered = (.ok (), t) ∧
      configureLinks.run (t.tell (.phase t.options.name .configLinks)) = (.ok (), u) ∧
        (configure.run s).2.graph = u.graph ∧ (configure.run s).2.history = u.history := by
  have hr := (run_configure s).1
  rw [h] at hr
  obtain ⟨_, s₁, hvalidate, h₁⟩ := run_bind_ok.mp (run_eq_of_ok hr.symm)
  obtain ⟨_, s₂, hnegotiate, h₂⟩ := run_bind_ok.mp h₁
  obtain ⟨_, s₃, hlinks, h₃⟩ := run_bind_ok.mp h₂
  obtain ⟨hv, rfl⟩ := run_validate_ok.mp (run_phase_ok.mp hvalidate)
  have last : (stages s.options.name).run s.inSpan = (.ok (), s₃.tell _) :=
    run_bind_ok.mpr ⟨_, _, hvalidate, run_bind_ok.mpr ⟨_, _, hnegotiate, run_bind_ok.mpr ⟨_, _, hlinks, rfl⟩⟩⟩
  refine ⟨(congrArg Graph.freePad? (graph_inSpan s)).symm.trans hv, s₂, s₃, ?_, run_phase_ok.mp hlinks,
    (configure_of_stages last).2⟩
  rw [entered_eq]
  exact run_phase_ok.mp hnegotiate

end MediaGraph.Session

/-
  MediaGraph.Proofs.Session.Bindings — bindings agree at any time, and no number dangles.

  Whatever a caller does, with whatever numbers, in whatever order and whether it
  fails or not, the graph stays wired; and its links are of the kind of their pads
  unless a filter gave one another kind. So a number the graph or a negotiation holds
  is the number of something (`Graph.InRange`, `Negotiation.InRange`), also halfway
  through an action, and a look-up that relies on it never fails: no action ends with
  `corrupt` (`bindings_agree`).
-/

import MediaGraph.Proofs.Negotiation.Insertion
import MediaGraph.Proofs.Session.Walk

namespace MediaGraph

open MediaGraph.Action

/-! ## Numbers in range -/

/-- The links of a graph end at pads it has, and its pads are bound to links it has. -/
structure Graph.InRange (g : Graph) : Prop where
  ports : ∀ l ∈ g.links, ∀ d, (g.padAt? (l.port d)).isSome
  links : ∀ n ∈ g.nodes, ∀ link ∈ n.inputLinks ++ n.outputLinks, link < g.links.length

theorem Graph.Wired.inRange {g : Graph} (h : g.Wired) : g.InRange where
  ports l hl d := by
    obtain ⟨i, hi⟩ := List.mem_iff_getElem?.mp hl
    exact padAt?_isSome_of_bound (h.ends hi d)
  links n hn link hlink := by
    obtain ⟨k, hk⟩ := List.mem_iff_getElem?.mp hn
    rcases List.mem_append.mp hlink with hin | hout
    · obtain ⟨pad, hb⟩ := (mem_inputLinks hk).mp hin
      exact h.bound_lt hb
    · obtain ⟨pad, hb⟩ := (mem_outputLinks hk).mp hout
      exact h.bound_lt hb

namespace Negotiation

/-- Sets are held by links of the graph alone. -/
structure InRange (n : Negotiation) : Prop where
  graph : n.session.graph.InRange
  held : ∀ {link side id}, (n.arena.link link).get side = some id → link < n.session.graph.links.length

theorem Accounted.inRange {n : Negotiation} (h : Accounted n) : n.InRange := ⟨h.wired.inRange, h.known⟩

/-! ## Negotiations -/

variable {n : Negotiation}

theorem runPhases_meets (h : Accounted n) : Meets runPhases n (· ≠ .corrupt) fun _ _ => True := by
  -- each phase leaves accounts in order for the next, by the steps it is made of
  refine meets_bind ((query_meets n).keeps (keeps_query (stable_steps n)) .refl) fun _ n₁ ⟨h₁, _⟩ => ?_
  refine meets_bind ((merge_meets (Steps.accounted h₁ h)).keeps (keeps_merge (stable_steps n)) h₁) fun _ n₂ ⟨h₂, _⟩ => ?_
  refine meets_bind_of_run rfl (meets_bind_of_run rfl ?_)
  exact pick_meets (Steps.accounted (keeps_notice (stable_steps n) _ _ (keeps_reduce (stable_steps n) _ h₂)) h)

def failure? (n : Negotiation) : Call → Option Error
  | .query => query.failure? n
  | .merge => merge.failure? n
  | .reduce => reduce.failure? n
  | .pick => pick.failure? n
  | .run => runPhases.failure? n

/-- The errors of calls made one after the other. -/
def failures (n : Negotiation) : List Call → List Error
  | [] => []
  | c :: calls => (n.failure? c).toList ++ (n.exec c).failures calls

theorem failure?_ne_corrupt (h : Accounted n) (c : Call) : n.failure? c ≠ some .corrupt := by
  intro hc
  cases c with
  | query => exact (query_meets n).failure hc rfl
  | merge => exact (merge_meets h).failure hc rfl
  | reduce => cases hc
  | pick => exact (pick_meets h).failure hc rfl
  | run => exact (runPhases_meets h).failure hc rfl

theorem corrupt_not_mem_failures (h : Accounted n) (calls : List Call) : Error.corrupt ∉ n.failures calls := by
  induction calls generalizing n with
  | nil => exact List.not_mem_nil
  | cons c calls ih =>
    rw [failures, List.mem_append, Option.mem_toList]
    exact not_or.mpr ⟨failure?_ne_corrupt h c, ih ((steps_exec n c).accounted h)⟩

end Negotiation

/-! ## Requests -/

namespace Session

variable {s : Session}

theorem create_meets (type : String) (name args : Option String) (context : Option Context) :
    Meets (create type name args context) s (· ≠ .corrupt) fun _ _ => True := by
  rcases create_cases type name args context s with ⟨e, s', hr, he, -⟩ | ⟨n, s', hr, -⟩
  · exact meets_of_error hr he
  · exact meets_of_run hr trivial

theorem edit_meets {f : Graph → Except Error (Nat × Graph)} (hf : ∀ e, f s.graph = .error e → e ≠ .corrupt) :
    Meets (edit f) s (· ≠ .corrupt) fun _ _ => True := by
  rw [Meets, run_edit]
  rcases h : f s.graph with e | ⟨link, g⟩
  · exact hf e h
  · trivial

theorem validate_meets : Meets validate s (· ≠ .corrupt) fun _ _ => True := by
  refine meets_bind_of_run (run_read _ s) ?_
  rcases s.graph.freePad? with _ | ⟨n, d, p⟩
  · trivial
  · exact meets_bind_of_run rfl (meets_of_error rfl nofun)

theorem negotiate_meets (hw : s.graph.Wired) : Meets negotiate s (· ≠ .corrupt) fun _ _ => True := by
  have h := Negotiation.runPhases_meets (Negotiation.accounted_start hw)
  rcases hr : Negotiation.runPhases.run { session := s } with ⟨e | a, n⟩
  · exact meets_of_error (congrArg (fun r => (r.1, r.2.session)) hr) (h.error hr)
  · exact meets_of_run (congrArg (fun r => (r.1, r.2.session)) hr) trivial

theorem configureLinks_uncorrupted (hw : s.graph.Wired) : Meets configureLinks s (· ≠ .corrupt) fun _ _ => True := by
  refine (configureLinks_meets hw).mono ?_ fun _ _ _ => trivial
  rintro e ⟨_, _, _, _, _, _, _, _, rfl, _⟩
  exact nofun

theorem phase_meets (p : Phase) {x : Action Session Unit} (hk : ∀ s₀, Keeps (Changes s₀) x)
    (hx : ∀ s, s.graph.Wired → Meets x s (· ≠ .corrupt) fun _ _ => True) (hw : s.graph.Wired) :
    Meets (phase p x) s (· ≠ .corrupt) fun _ s' => s'.graph.Wired := by
  have wired : (s.tell (.phase s.options.name p)).graph.Wired := hw
  refine meets_bind_of_run rfl (meets_bind_of_run rfl (meets_onFailure ?_))
  exact ((hx _ wired).keeps (hk _) .refl).imp fun _ s' h => h.1.wired wired

theorem withSpan_meets (wanted : Bool) (span : Span) {x : Action Session Unit}
    (hx : ∀ s, s.graph.Wired → Meets x s (· ≠ .corrupt) fun _ _ => True) (hw : s.graph.Wired) :
    Meets (withSpan wanted span x) s (· ≠ .corrupt) fun _ _ => True := by
  unfold withSpan
  split
  · exact meets_bind_of_run rfl (meets_always (hx _ hw))
  · exact hx s hw

theorem configure_meets (hw : s.graph.Wired) : Meets configure s (· ≠ .corrupt) fun _ _ => True := by
  refine meets_bind_of_run (run_read _ s) (withSpan_meets _ _ (fun s hw => ?_) hw)
  refine meets_bind (phase_meets .validate (fun _ => keeps_validate keeps_notice)
    (fun _ _ => validate_meets) hw) fun _ s₁ h₁ => ?_
  refine meets_bind (phase_meets .negotiate (fun _ => keeps_negotiate) (fun _ => negotiate_meets) h₁) fun _ s₂ h₂ => ?_
  refine meets_bind (phase_meets .configLinks (fun _ => keeps_changes_configureLinks)
    (fun _ => configureLinks_uncorrupted) h₂) fun _ s₃ h₃ => ?_
  exact meets_bind_of_run rfl trivial

end Session

namespace Workbench

/-- The errors a request gives. Those left out cannot fail. -/
def failures (w : Workbench) : Request → List Error
  | .create type name args context => ((Session.create type name args context).failure? w.session).toList
  | .link src srcPad dst dstPad => ((Session.link src srcPad dst dstPad).failure? w.session).toList
  | .insert link node inPad outPad => ((Session.insert link node inPad outPad).failure? w.session).toList
  | .validate => (Session.validate.failure? w.session).toList
  | .negotiate => (Session.negotiate.failure? w.session).toList
  | .phases calls => Negotiation.failures { session := w.session } calls
  | .configureLinks => (Session.configureLinks.failure? w.session).toList
  | .configure => (Session.configure.failure? w.session).toList
  | .setOptions _ | .openNode .. | .initNode .. | .configOutput .. | .configInput .. | .discardNode _ | .addNode _ |
    .free => []

theorem corrupt_not_mem_failures {w : Workbench} (hw : w.session.graph.Wired) (r : Request) :
    Error.corrupt ∉ w.failures r := by
  have one : ∀ {α : Type} {x : Action Session α}, Meets x w.session (· ≠ .corrupt) (fun _ _ => True) →
      Error.corrupt ∉ (x.failure? w.session).toList := fun h hc => h.failure (Option.mem_toList.mp hc) rfl
  cases r with
  | create => exact one (Session.create_meets ..)
  | link => exact one (Session.edit_meets fun _ h => (Graph.link_error h).ne_corrupt)
  | insert => exact one (Session.edit_meets fun _ h => (hw.insert_error h).ne_corrupt)
  | validate => exact one Session.validate_meets
  | negotiate => exact one (Session.negotiate_meets hw)
  | phases calls => exact Negotiation.corrupt_not_mem_failures (Negotiation.accounted_start hw) calls
  | configureLinks => exact one (Session.configureLinks_uncorrupted hw)
  | configure => exact one (Session.configure_meets hw)
  | _ => exact List.not_mem_nil

end Workbench

/-- Whatever a caller did, the pads links name are bound to them, and bound pads are named by their links; kinds agree
unless a filter gave a link another kind; no request fails for what the graph itself refers to, and the numbers the graph
and a negotiation hold stay in range at every step of what may come next. -/
theorem bindings_agree {w : Workbench} (h : Reach w) :
    w.session.graph.Wired ∧ (w.session.history.KeepsKinds → w.session.graph.Matched) ∧
      (∀ r, Error.corrupt ∉ w.failures r) ∧ (∀ s, w.session.Changes s → s.graph.InRange) ∧
      ∀ n, Negotiation.Steps { session := w.session } n → n.InRange :=
  ⟨h.sound.wired, h.sound.matched, w.corrupt_not_mem_failures h.sound.wired, fun _ hs => (hs.wired h.sound.wired).inRange,
    fun _ hn => (hn.accounted (Negotiation.accounted_start h.sound.wired)).inRange⟩

/-- A hub linked to itself and spliced into that link, then negotiated and configured. -/
def Studio.knot : Workbench :=
  [.openNode hub none, .addNode 0, .link 0 0 0 0, .insert 0 0 1 1, .negotiate, .configureLinks].foldl Workbench.exec
    { session := { registry := .standard, options := {} } }

theorem knot_bindings_agree :
    Reach Studio.knot ∧ Studio.knot.session.graph.links.map (fun l => (l.port .output, l.port .input)) =
      [(⟨0, .output, 0⟩, ⟨0, .input, 1⟩), (⟨0, .output, 1⟩, ⟨0, .input, 0⟩)] ∧
      Studio.knot.session.graph.Wired ∧ Studio.knot.session.graph.Matched ∧
      ∀ r, Error.corrupt ∉ Studio.knot.failures r := by
  have reach : Reach Studio.knot := (Reach.start .standard {}).requests _
  obtain ⟨wired, matched, uncorrupted, -⟩ := bindings_agree reach
  exact ⟨reach, by decide +kernel, wired, matched (by decide +kernel), uncorrupted⟩

end MediaGraph

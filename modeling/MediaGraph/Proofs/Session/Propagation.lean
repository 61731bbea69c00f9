/-
  MediaGraph.Proofs.Session.Propagation — what configuring links does to a session.

  Settling a link is two calls, one to the filter at either end (`run_settle`). The
  walk settles links, marks them and gives notices, and does nothing else: a property
  of sessions these keep is kept by the walk (`keeps_configureLinks`).
-/

import MediaGraph.Proofs.Session.Change
import MediaGraph.Session.Propagation

namespace MediaGraph.Session

open MediaGraph.Action

/-! ## One link -/

theorem run_configOutput (n : Node) (pad : Nat) (props : LinkProps) (inputs : List LinkProps) (s : Session) :
    (configOutput n pad props inputs).run s =
      let r := n.filter.configOutput s.history n.serial pad props inputs
      (.ok r, s.note n.serial (.configOutput pad props inputs r.1 r.2)) := rfl

theorem run_configInput (n : Node) (pad : Nat) (props : LinkProps) (s : Session) :
    (configInput n pad props).run s =
      let answer := n.filter.configInput s.history n.serial pad props
      (.ok answer, s.note n.serial (.configInput pad props answer)) := rfl

/-- The source's answer is on record, and unless it refused the link has what it left; then the same of the
destination, and the link is configured. -/
theorem run_settle (link src srcPad dst dstPad : Nat) (s : Session) :
    (settle link src srcPad dst dstPad).run s =
      match s.graph.nodes[src]?, s.graph.links[link]? with
      | some source, some l =>
        let inputs := s.graph.inputProps source
        let r := source.filter.configOutput s.history source.serial srcPad l.props inputs
        let noted := s.note source.serial (.configOutput srcPad l.props inputs r.1 r.2)
        match r.2 with
        | .refused rep => (.error (.reported rep), noted.tell (.outputFailed source.display srcPad rep))
        | .done =>
          let written := { noted with graph := s.graph.modifyLink link ({ · with props := r.1 }) }
          match s.graph.nodes[dst]? with
          | none => (.error .corrupt, written)
          | some destination =>
            let answer := destination.filter.configInput written.history destination.serial dstPad r.1
            let noted := written.note destination.serial (.configInput dstPad r.1 answer)
            match answer with
            | .refused rep => (.error (.reported rep), noted.tell (.inputFailed destination.display dstPad rep))
            | .done => (.ok (), { noted with graph := noted.graph.modifyLink link ({ · with state := .configured }) })
      | _, _ => (.error .corrupt, s) := by
  unfold settle
  simp only [run_bind, nodeAt, run_expect]
  cases s.graph.nodes[src]? with
  | none => rfl
  | some source =>
    simp only [run_read, linkAt, run_expect]
    cases s.graph.links[link]? with
    | none => rfl
    | some l =>
      simp only [run_configOutput]
      generalize source.filter.configOutput s.history source.serial srcPad l.props (s.graph.inputProps source) = r
      rcases r with ⟨left, _ | rep⟩
      · simp only [updateLink, run_bind, run_update, run_expect]
        have nodes : ∀ call f, ((s.note source.serial call).graph.modifyLink link f).nodes = s.graph.nodes :=
          fun _ _ => rfl
        rw [nodes]
        cases s.graph.nodes[dst]? with
        | none => rfl
        | some destination =>
          simp only [run_configInput]
          generalize destination.filter.configInput _ destination.serial dstPad left = answer
          cases answer <;> rfl
      · rfl

/-! ## The walk -/

section Walk

variable {P : Session → Prop} (hn : ∀ n, Keeps P (notice n))
  (hm : ∀ link, Keeps P (updateLink link ({ · with state := .configuring })))
  (hs : ∀ link src srcPad dst dstPad, Keeps P (settle link src srcPad dst dstPad))

include hn hm hs

theorem keeps_configureLink {f : Nat → Action Session Unit} (hf : ∀ i, Keeps P (f i)) (node link : Nat) :
    Keeps P (configureLink f node link) := by
  refine keeps_bind (keeps_linkAt _) fun l => ?_
  cases l.state with
  | configured => exact keeps_pure ()
  | configuring => exact keeps_bind (keeps_nodeAt _) fun _ => hn _
  | unconfigured => exact keeps_bind (hm _) fun _ => keeps_bind (hf _) fun _ => hs _ _ _ _ _

theorem keeps_configureInputs (depth node : Nat) : Keeps P (configureInputs depth node) := by
  induction depth generalizing node with
  | zero =>
    exact keeps_bind (keeps_nodeAt _) fun _ => keeps_forM (keeps_configureLink hn hm hs (fun _ => keeps_fail _) _) _
  | succ depth ih => exact keeps_bind (keeps_nodeAt _) fun _ => keeps_forM (keeps_configureLink hn hm hs ih _) _

theorem keeps_configureLinks : Keeps P configureLinks := by
  refine keeps_bind (keeps_read _) fun nodes => keeps_forM (fun node => keeps_bind (keeps_nodeAt _) fun n => ?_) _
  split
  · exact keeps_bind (keeps_read _) fun depth => keeps_configureInputs hn hm hs depth node
  · exact keeps_pure ()

end Walk

variable {s₀ : Session}

theorem keeps_configOutput (n : Node) (pad : Nat) (props : LinkProps) (inputs : List LinkProps) :
    Keeps (Changes s₀) (configOutput n pad props inputs) := keeps_aside fun s => aside_note s _ _

theorem keeps_configInput (n : Node) (pad : Nat) (props : LinkProps) :
    Keeps (Changes s₀) (configInput n pad props) := keeps_aside fun s => aside_note s _ _

theorem keeps_changes_settle (link src srcPad dst dstPad : Nat) :
    Keeps (Changes s₀) (settle link src srcPad dst dstPad) := by
  intro s h
  rw [run_settle]
  split
  · rename_i source l hsource hl
    let r := source.filter.configOutput s.history source.serial srcPad l.props (s.graph.inputProps source)
    simp only
    split
    · exact (h.tail (.aside (aside_note ..))).tail (.aside (aside_tell ..))
    · have h' := h.tail (.configure source.serial srcPad (s.graph.inputProps source) r.1 r.2 hl)
      split
      · exact h'
      · split
        · exact (h'.tail (.aside (aside_note ..))).tail (.aside (aside_tell ..))
        · exact (h'.tail (.aside (aside_note ..))).tail (.mark link fun _ => ⟨rfl, rfl⟩)
  · exact h

theorem keeps_changes_configureLinks : Keeps (Changes s₀) configureLinks :=
  keeps_configureLinks keeps_notice (fun link => keeps_updateLink link fun _ => ⟨rfl, rfl⟩) keeps_changes_settle

end MediaGraph.Session

/-
  MediaGraph.Proofs.Session.Agreement — the filters at both ends of a link agree on its format.

  After a negotiation that ended well every link has a format, and the query of
  either of its two filters left that format for its pad. Configuration negotiates
  and then lets the filters fill in what else links carry. A filter is free to
  change the format while it does; as long as none does (`KeepsFormats`), formats
  stay as negotiated (`FormatsKept`), and every link of a configured graph has one
  both its filters take (`every_link_agreed`).
-/

import MediaGraph.Proofs.Negotiation.Outcome
import MediaGraph.Proofs.Session.Stages

namespace MediaGraph

open MediaGraph.Action

/-! ## Formats while links are configured -/

/-- Whoever configured an output left the format it was given. -/
def Call.KeepsFormat : Call → Prop
  | configOutput _ given _ left _ => left.format = given.format
  | _ => True

instance : DecidablePred Call.KeepsFormat
  | .configOutput _ given _ left _ => inferInstanceAs (Decidable (left.format = given.format))
  | .opened _ | .init _ _ _ | .query _ _ _ | .configInput _ _ _ | .uninit => isTrue trivial

def History.KeepsFormats (calls : History) : Prop := ∀ r ∈ calls, r.call.KeepsFormat

instance (calls : History) : Decidable calls.KeepsFormats := List.decidableBAll _ calls

theorem History.keepsFormats_append {calls calls' : History} :
    (calls' ++ calls).KeepsFormats ↔ calls'.KeepsFormats ∧ calls.KeepsFormats := by
  simp only [KeepsFormats, List.mem_append]
  exact ⟨fun h => ⟨fun r hr => h r (Or.inl hr), fun r hr => h r (Or.inr hr)⟩, fun h r hr => hr.elim (h.1 r) (h.2 r)⟩

/-- The ends and the format of a link. -/
def Link.trait (l : Link) : (Direction → Port) × Option Format := (l.port, l.props.format)

namespace Session

variable {s s' s'' : Session}

/-- The calls on record in `s'` are those of `s` and later ones; unless one of these changed a format, each link has
the ends and the format it had. -/
def FormatsKept (s s' : Session) : Prop :=
  ∃ calls : History, s'.history = calls ++ s.history ∧
    (calls.KeepsFormats → ∀ i : Nat, (s'.graph.links[i]?).map Link.trait = (s.graph.links[i]?).map Link.trait)

namespace FormatsKept

theorem of_history (hh : s'.history = s.history)
    (hg : ∀ i : Nat, (s'.graph.links[i]?).map Link.trait = (s.graph.links[i]?).map Link.trait) : FormatsKept s s' :=
  ⟨[], hh, fun _ => hg⟩

theorem trans (h : FormatsKept s s') (h' : FormatsKept s' s'') : FormatsKept s s'' := by
  obtain ⟨calls, hh, hk⟩ := h
  obtain ⟨calls', hh', hk'⟩ := h'
  refine ⟨calls' ++ calls, by rw [hh', hh, List.append_assoc], fun hc i => ?_⟩
  obtain ⟨hc', hc⟩ := History.keepsFormats_append.mp hc
  rw [hk' hc' i, hk hc i]

end FormatsKept

theorem trait_modifyLink (g : Graph) (link : Nat) {f : Link → Link}
    (hf : ∀ l, g.links[link]? = some l → (f l).trait = l.trait) (i : Nat) :
    ((g.modifyLink link f).links[i]?).map Link.trait = (g.links[i]?).map Link.trait := by
  rw [Graph.getElem?_modifyLink]
  split
  · rename_i e
    subst e
    cases hl : g.links[link]? with
    | none => rfl
    | some l => exact congrArg some (hf l hl)
  · rfl

theorem formatsKept_update (s : Session) (link : Nat) {f : Link → Link} (hf : ∀ l, (f l).trait = l.trait) :
    FormatsKept s ((updateLink link f).run s).2 := .of_history rfl (trait_modifyLink s.graph link fun l _ => hf l)

theorem formatsKept_configInput (s : Session) (n : Node) (pad : Nat) (props : LinkProps) :
    FormatsKept s ((configInput n pad props).run s).2 := by
  refine ⟨[⟨n.serial, .configInput pad props (n.filter.configInput s.history n.serial pad props)⟩], rfl, fun _ _ => rfl⟩

/-- The properties a filter left are written to the link they were read off. -/
theorem formatsKept_configOutput (s : Session) (n : Node) {link pad : Nat} {l : Link} (inputs : List LinkProps)
    (hl : s.graph.links[link]? = some l) {left : LinkProps} {answer : Answer} {t : Session}
    (hr : (configOutput n pad l.props inputs).run s = (.ok (left, answer), t)) :
    FormatsKept s t ∧ FormatsKept s ((updateLink link ({ · with props := left })).run t).2 := by
  have ht : t = s.note n.serial (.configOutput pad l.props inputs left answer) := by
    have hr' : (configOutput n pad l.props inputs).run s =
        (.ok (n.filter.configOutput s.history n.serial pad l.props inputs),
          s.note n.serial (.configOutput pad l.props inputs
            (n.filter.configOutput s.history n.serial pad l.props inputs).1
            (n.filter.configOutput s.history n.serial pad l.props inputs).2)) := rfl
    rw [hr'] at hr
    obtain ⟨hleft, rfl⟩ := Prod.ext_iff.mp hr
    rw [Except.ok.inj hleft]
  subst ht
  refine ⟨⟨[⟨n.serial, .configOutput pad l.props inputs left answer⟩], rfl, fun _ _ => rfl⟩,
    [⟨n.serial, .configOutput pad l.props inputs left answer⟩], rfl, fun hk => ?_⟩
  have hformat : left.format = l.props.format := hk _ List.mem_cons_self
  refine trait_modifyLink s.graph link fun k hk => ?_
  rw [hl] at hk
  cases hk
  show (l.port, left.format) = (l.port, l.props.format)
  rw [hformat]

theorem keeps_formats_settle (s₀ : Session) (link src srcPad dst dstPad : Nat) :
    Keeps (FormatsKept s₀) (settle link src srcPad dst dstPad) := by
  intro s h
  unfold settle
  rw [run_bind, nodeAt, run_expect]
  cases s.graph.nodes[src]? with
  | none => exact h
  | some source =>
    simp only [run_bind, run_read, linkAt, run_expect]
    cases hl : s.graph.links[link]? with
    | none => exact h
    | some given =>
      simp only
      rcases hr : (configOutput source srcPad given.props (s.graph.inputProps source)).run s with
        ⟨e | ⟨left, answer⟩, t⟩
      · cases hr
      · obtain ⟨hnoted, hleft⟩ := formatsKept_configOutput s source _ hl hr
        cases answer with
        | refused r => exact h.trans (hnoted.trans (.of_history rfl fun _ => rfl))
        | done =>
          refine keeps_bind (keeps_nodeAt dst) (fun destination => keeps_bind ?_ fun a => ?_) _ (h.trans hleft)
          · exact fun u hu => hu.trans (formatsKept_configInput u destination dstPad left)
          · cases a with
            | refused r => exact keeps_bind (fun u hu => hu.trans (.of_history rfl fun _ => rfl)) fun _ => keeps_fail _
            | done => exact fun u hu => hu.trans (formatsKept_update u link fun _ => rfl)

theorem keeps_formats_configureLinks (s₀ : Session) : Keeps (FormatsKept s₀) configureLinks :=
  keeps_configureLinks (fun _ _ h => h.trans (.of_history rfl fun _ => rfl))
    (fun link s h => h.trans (formatsKept_update s link fun _ => rfl)) (keeps_formats_settle s₀)

/-- A configuration that ended well negotiated well, and kept the formats after that. -/
theorem configure_ok (h : (configure.run s).1 = .ok ()) :
    (negotiate.run s.entered).1 = .ok () ∧ FormatsKept (negotiate.run s.entered).2 (configure.run s).2 := by
  obtain ⟨-, t, u, hn, hl, hg, hh⟩ := configure_done h
  have hwalk := keeps_formats_configureLinks t (t.tell (.phase t.options.name .configLinks)) (.of_history rfl fun _ => rfl)
  rw [hl] at hwalk
  rw [hn]
  exact ⟨rfl, hwalk.trans (.of_history hh fun _ => by rw [hg])⟩

end Session

/-! ## Agreement -/

/-- A link has a format, and the queries of its filters left that format for the pads at either end. -/
def Negotiation.Agreed (n : Negotiation) (l : Link) : Prop := ∃ f, l.props.format = some f ∧ ∀ d, n.Allows (l.port d) f

theorem Negotiation.agreed_of_trait {n : Negotiation} {l k : Link} (h : l.trait = k.trait) (hk : n.Agreed k) :
    n.Agreed l := by
  obtain ⟨hport, hformat⟩ := Prod.ext_iff.mp h
  obtain ⟨f, hf, ha⟩ := hk
  have hport : l.port = k.port := hport
  exact ⟨f, hformat.trans hf, fun d => by rw [hport]; exact ha d⟩

namespace Session

variable {s : Session}

/-- Links of a negotiation that ended well are agreed on. -/
theorem agreed_of_negotiate (h : s.graph.Wired) (hok : (negotiate.run s).1 = .ok ()) {l : Link}
    (hl : l ∈ (negotiate.run s).2.graph.links) : s.negotiation.Agreed l := by
  obtain ⟨n₁, n₂, -, -, -, -, merged, -, hout⟩ := Negotiation.run_ok h hok
  obtain ⟨i, hi⟩ := List.mem_iff_getElem?.mp hl
  obtain ⟨f, hf, ha⟩ := hout.allows merged hi
  refine ⟨f, hf, fun d => ?_⟩
  rw [Negotiation.Allows, hout.left?_eq]
  exact ha d _ (.refl _)

theorem every_link_agreed (h : s.Reachable) :
    ((negotiate.run s).1 = .ok () → ∀ l ∈ (negotiate.run s).2.graph.links, s.negotiation.Agreed l) ∧
    ((configure.run s).1 = .ok () →
      ∃ calls : History, (configure.run s).2.history = calls ++ (negotiate.run s.entered).2.history ∧
        (calls.KeepsFormats → ∀ l ∈ (configure.run s).2.graph.links, s.entered.negotiation.Agreed l)) := by
  refine ⟨fun hok l hl => agreed_of_negotiate h.wired hok hl, fun hok => ?_⟩
  obtain ⟨hneg, calls, hh, hk⟩ := configure_ok hok
  refine ⟨calls, hh, fun hc l hl => ?_⟩
  obtain ⟨i, hi⟩ := List.mem_iff_getElem?.mp hl
  have htrait := hk hc i
  rw [hi] at htrait
  obtain ⟨k, hk, htrait⟩ := Option.map_eq_some_iff.mp htrait.symm
  have hw : s.entered.graph.Wired := by rw [graph_entered]; exact h.wired
  exact Negotiation.agreed_of_trait htrait.symm (agreed_of_negotiate hw hneg (List.mem_of_getElem? hk))

theorem mismatched_links_agreed :
    (∀ l ∈ (negotiate.run Studio.mismatched).2.graph.links, Studio.mismatched.negotiation.Agreed l) ∧
      ∀ l ∈ (configure.run Studio.mismatched).2.graph.links, Studio.mismatched.entered.negotiation.Agreed l := by
  obtain ⟨hneg, hconf⟩ := every_link_agreed Studio.mismatched_reachable
  obtain ⟨calls, hh, hk⟩ := hconf (by decide +kernel)
  refine ⟨hneg (by decide +kernel), hk ?_⟩
  have hcalls : calls = (configure.run Studio.mismatched).2.history.take
      ((configure.run Studio.mismatched).2.history.length -
        (negotiate.run Studio.mismatched.entered).2.history.length) := by
    rw [show (configure.run Studio.mismatched).2.history = _ from hh]
    simp
  rw [hcalls]
  decide +kernel

end Session

end MediaGraph

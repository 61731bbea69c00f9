/-
  MediaGraph.Proofs.Negotiation.Converters — the nodes a negotiation adds.

  However the phases are called, and wherever one of them fails, the nodes there were
  stay, and behind them stand converters (`Session.Outfitted`). A converter is of the
  catalog's type of the name planned, fresh but for the arguments planned, and took
  these (`Registry.Converter`).

  The size in a scaler's arguments is none, and the options behind it may hold any
  text (`Converters.scaler_taken`). So the converters of a catalog that has the
  built-in types convert the format alone (`Registry.Converter.passes`).
-/

import MediaGraph.Proofs.Filter.Arguments
import MediaGraph.Proofs.Session.Reach

namespace MediaGraph

open MediaGraph.Action

/-! ## Plans -/

namespace Converters

variable {c c' : Converters} {kind : MediaKind} {r : Registry} {opts : Option String} {plan : ConverterPlan}

theorem plan_cases (h : c.plan kind r opts = .ok (plan, c')) : plan = c.scaler opts ∨ plan = c.resampler := by
  cases kind with
  | video => cases h; exact .inl rfl
  | audio =>
    simp only [Converters.plan] at h
    split at h <;> cases h
    exact .inr rfl
  | other => cases h

/-- A built-in scaler takes what is planned, whatever the options say, colons included. -/
theorem scaler_taken (c : Converters) (opts : Option String) (h : History) (serial : Nat) :
    (Filter.builtin (.scale {})).init h serial (c.scaler opts).args none =
      (.builtin (.scale { width := 0, height := 0, flags := opts.filter (· ≠ "") }), .done) := by
  have taken := Builtin.Takes.flags (p := {}) (opts.getD "") Text.spells_zero Text.spells_zero
  have flags : (if opts.getD "" = "" then none else some (opts.getD "")) = opts.filter (· ≠ "") := by
    rcases opts with _ | o
    · rfl
    · by_cases ho : o = "" <;> simp [Option.filter, ho]
  rw [flags] at taken
  exact Filter.init_builtin_eq_done_iff.mpr (Builtin.init_of_takes taken)

end Converters

/-! ## Converters -/

/-- What the pads of one direction are made from. -/
def FilterType.templates (t : FilterType) : Direction → List PadTemplate
  | .input => t.inputs
  | .output => t.outputs

namespace Registry

/-- A node made of a plan, all its pads free. -/
inductive Converter (r : Registry) : Node → Prop
  | mk {c c' : Converters} {kind : MediaKind} {opts : Option String} {plan : ConverterPlan} {t : FilterType}
      {h : History} {serial : Nat} {filter : Filter} : c.plan kind r opts = .ok (plan, c') →
      r.lookup plan.type = some t → t.fresh.init h serial plan.args none = (filter, .done) →
      r.Converter { Node.ofType t (some plan.name) serial with filter }

/-- The two types that convert are the built-in ones. -/
structure Convertible (r : Registry) : Prop where
  scale : r.lookup scaleType = standard.lookup scaleType
  resample : r.lookup resampleType = standard.lookup resampleType

theorem lookup_standard_scale : standard.lookup scaleType = some
    { name := scaleType, description := "Convert video pixel format and size", inputs := [⟨.input, "default", .video⟩]
      outputs := [⟨.output, "default", .video⟩], fresh := .builtin (.scale {}) } := rfl

theorem lookup_standard_resample : standard.lookup resampleType = some
    { name := resampleType, description := "Convert audio sample format and rate"
      inputs := [⟨.input, "default", .audio⟩], outputs := [⟨.output, "default", .audio⟩]
      fresh := .builtin (.resample {}) } := rfl

namespace Converter

variable {r : Registry} {n : Node}

theorem registered (h : r.Converter n) : r.lookup n.type.name = some n.type := by
  obtain ⟨-, ht, -⟩ := h
  rw [← name_of_lookup ht] at ht
  exact ht

theorem length_pads (h : r.Converter n.detached) (d : Direction) :
    (n.pads d).length = (n.type.templates d).length := by
  have pads : (n.pads d).length = (n.detached.pads d).length := by cases d <;> simp [Node.pads, Node.detached]
  have type : n.detached.type = n.type := rfl
  rw [pads, ← type]
  generalize n.detached = m at h ⊢
  obtain ⟨-, -, -⟩ := h
  cases d <;> exact List.length_mapIdx

/-- A converter of the built-in types has no size and no rate of its own. -/
theorem builtin (h : r.Converter n) (hr : r.Convertible) :
    (n.type.inputs.length = 1 ∧ n.type.outputs.length = 1) ∧
      ((n.type.name = scaleType ∧ ∃ flags, n.filter = .builtin (.scale { flags })) ∨
        n.type.name = resampleType ∧ n.filter = .builtin (.resample {})) := by
  obtain ⟨hplan, ht, hinit⟩ := h
  rcases Converters.plan_cases hplan with rfl | rfl
  · have ht := ht.symm.trans (hr.scale.trans lookup_standard_scale)
    cases ht
    rw [Converters.scaler_taken] at hinit
    cases hinit
    exact ⟨⟨rfl, rfl⟩, .inl ⟨rfl, _, rfl⟩⟩
  · have ht := ht.symm.trans (hr.resample.trans lookup_standard_resample)
    cases ht
    cases hinit
    exact ⟨⟨rfl, rfl⟩, .inr ⟨rfl, rfl⟩⟩

theorem one_pad (h : r.Converter n.detached) (hr : r.Convertible) (d : Direction) : (n.pads d).length = 1 := by
  obtain ⟨⟨hin, hout⟩, -⟩ := h.builtin hr
  rw [h.length_pads d]
  cases d
  · exact hin
  · exact hout

/-- A built-in scaler hands on the size of its input, a resampler the rate and the channels. -/
theorem passes (h : r.Converter n.detached) (hr : r.Convertible) :
    (n.type.name = scaleType ∧ ∀ h serial pad props up, let down := (n.filter.configOutput h serial pad props [up]).1
      down.width = up.width ∧ down.height = up.height) ∨
    (n.type.name = resampleType ∧ ∀ h serial pad props up, let down := (n.filter.configOutput h serial pad props [up]).1
      down.sampleRate = up.sampleRate ∧ down.channels = up.channels) := by
  have filter : n.detached.filter = n.filter := rfl
  obtain ⟨-, ⟨htype, flags, hfilter⟩ | ⟨htype, hfilter⟩⟩ := h.builtin hr <;> rw [filter] at hfilter <;> rw [hfilter]
  · exact .inl ⟨htype, fun _ _ _ _ _ => ⟨rfl, rfl⟩⟩
  · exact .inr ⟨htype, fun _ _ _ _ _ => ⟨rfl, rfl⟩⟩

end Converter

end Registry

/-! ## Negotiations -/

theorem Node.detached_of_unbound {n : Node} (h : n.Unbound) : n.detached = n := by
  have free : ∀ d, (n.pads d).map ({ · with link := none }) = n.pads d := by
    intro d
    refine (List.map_congr_left fun p hp => ?_).trans (List.map_id _)
    rw [← h d p hp]
    rfl
  have hin : n.inputs.map ({ · with link := none }) = n.inputs := free .input
  have hout : n.outputs.map ({ · with link := none }) = n.outputs := free .output
  rw [detached, hin, hout]

namespace Session

variable {s₀ s t : Session}

/-- Since `s₀` converters were added behind the nodes there were, and no other node. -/
structure Outfitted (s₀ s : Session) : Prop where
  registry : s.registry = s₀.registry
  opened : s₀.opened ≤ s.opened
  added : ∃ added, s.graph.nodes.map Node.detached = s₀.graph.nodes.map Node.detached ++ added ∧
    ∀ n ∈ added, s₀.opened ≤ n.serial ∧ s₀.registry.Converter n

namespace Outfitted

theorem refl (s : Session) : Outfitted s s := ⟨rfl, Nat.le_refl _, [], (List.append_nil _).symm, nofun⟩

theorem rewire (h : Outfitted s₀ s) (hr : t.registry = s.registry) (ho : s.opened ≤ t.opened)
    (hn : t.graph.nodes.map Node.detached = s.graph.nodes.map Node.detached) : Outfitted s₀ t :=
  ⟨hr.trans h.registry, Nat.le_trans h.opened ho, hn ▸ h.added⟩

theorem create (h : Outfitted s₀ s) {c c' : Converters} {kind : MediaKind} {opts : Option String}
    {plan : ConverterPlan} (hp : c.plan kind s.registry opts = .ok (plan, c')) :
    Outfitted s₀ ((Session.create plan.type (some plan.name) plan.args none).run s).2 := by
  rw [run_create]
  cases hl : s.registry.lookup plan.type with
  | none => exact h
  | some t =>
    simp only
    split
    · rename_i hdone
      obtain ⟨added, hn, hadded⟩ := h.added
      let filter := (t.fresh.init (⟨s.opened, .opened t.name⟩ :: s.history) s.opened plan.args none).1
      let n : Node := { Node.ofType t (some plan.name) s.opened with filter }
      have converter : s₀.registry.Converter n := by
        rw [h.registry] at hp hl
        exact .mk hp hl (Prod.ext rfl hdone)
      have unbound : n.detached = n := Node.detached_of_unbound (Node.unbound_ofType t (some plan.name) s.opened)
      refine ⟨h.registry, Nat.le_succ_of_le h.opened, added ++ [n], ?_, ?_⟩
      · show (s.graph.nodes ++ [n]).map Node.detached = _
        rw [List.map_append, hn, List.append_assoc, List.map_singleton, unbound]
      · exact List.forall_mem_append.mpr ⟨hadded, List.forall_mem_singleton.mpr ⟨h.opened, converter⟩⟩
    · exact h.rewire rfl (Nat.le_succ _) rfl

/-- The nodes behind those there were. -/
theorem of_drop (h : Outfitted s₀ s) {n : Node} (hn : n ∈ s.graph.nodes.drop s₀.graph.nodes.length) :
    s₀.registry.Converter n.detached := by
  obtain ⟨added, hnodes, hadded⟩ := h.added
  have hdrop : (s.graph.nodes.drop s₀.graph.nodes.length).map Node.detached = added := by
    rw [List.map_drop, hnodes, ← List.length_map (f := Node.detached), List.drop_left]
  exact (hadded _ (hdrop ▸ List.mem_map_of_mem hn)).2

/-- A node that was not opened before is a converter. -/
theorem of_serial (h : Outfitted s₀ s) (hs : ∀ n ∈ s₀.graph.nodes, n.serial < s₀.opened) {n : Node}
    (hn : n ∈ s.graph.nodes) (hserial : s₀.opened ≤ n.serial) : s₀.registry.Converter n.detached := by
  obtain ⟨added, hnodes, hadded⟩ := h.added
  rcases List.mem_append.mp (hnodes ▸ List.mem_map_of_mem hn) with hold | hnew
  · obtain ⟨m, hm, -, same⟩ := exists_of_mem_detached hold
    exact absurd (hs m hm) (Nat.not_lt_of_le (same ▸ hserial))
  · exact (hadded _ hnew).2

end Outfitted

theorem stable_outfitted (s₀ : Session) : Negotiation.Stable fun n => s₀.Outfitted n.session := by
  intro n n' hm h
  cases hm with
  | tell | plan | merge | pick => exact h.rewire rfl (Nat.le_refl _) rfl
  | @refuse i node _ _ | @answer i node =>
    obtain ⟨hg, ho, -⟩ := asked_eq node n.session
    exact h.rewire (registry_asked node n.session) (Nat.le_of_eq ho.symm) (by rw [hg])
  | create hp => exact h.create hp
  | splice hi =>
    obtain ⟨-, l, hs⟩ := Graph.insert_ok hi
    exact h.rewire rfl (Nat.le_refl _) hs.detached
  | reduce =>
    have hr := Negotiation.reduced_reduce n
    exact h.rewire (by rw [hr.session]) (by rw [hr.session]) (by rw [hr.graph])

theorem keeps_outfitted_negotiate : Keeps (Outfitted s₀) negotiate := fun s h =>
  Negotiation.keeps_runPhases (stable_outfitted s₀) { session := s } h

theorem keeps_outfitted_settle (link src srcPad dst dstPad : Nat) :
    Keeps (Outfitted s₀) (settle link src srcPad dst dstPad) := by
  intro s h
  have same : ∀ {t : Session}, t.registry = s.registry → t.opened = s.opened → t.graph.nodes = s.graph.nodes →
      Outfitted s₀ t := fun hr ho hn => h.rewire hr (Nat.le_of_eq ho.symm) (by rw [hn])
  rw [run_settle]
  split
  · simp only
    split
    · exact same rfl rfl rfl
    · split
      · exact same rfl rfl rfl
      · split <;> exact same rfl rfl rfl
  · exact h

theorem keeps_outfitted_configureLinks : Keeps (Outfitted s₀) configureLinks :=
  keeps_configureLinks (fun _ _ h => h.rewire rfl (Nat.le_refl _) rfl) (fun _ _ h => h.rewire rfl (Nat.le_refl _) rfl)
    keeps_outfitted_settle

theorem keeps_outfitted_configure : Keeps (Outfitted s₀) configure :=
  keeps_configure (fun _ _ h => h.rewire rfl (Nat.le_refl _) rfl) (fun _ _ h => h.rewire rfl (Nat.le_refl _) rfl)
    keeps_outfitted_negotiate keeps_outfitted_configureLinks

end Session

end MediaGraph

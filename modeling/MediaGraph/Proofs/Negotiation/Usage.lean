/-
  MediaGraph.Proofs.Negotiation.Usage — an arena in the hands of any caller.

  The operations on shared sets can be called one by one, in any order and on any
  ends: an end twice in one share, a link moved onto itself, an end that holds the
  handle it is given. A caller knows the handles that `share` returned to it
  (`Usage`), and binds no others (`Permits`). What a handle named may be gone by the
  time it is bound: the end then holds a handle that names nothing.

  Whatever calls were made, the count of a live set is the number of the ends that
  hold it, and a handle that names nothing counts nothing. A live set is dropped by
  the call that takes it from its last end, or that merges it into another, and by no
  other; a handle dropped stays so (`counts_exact`). Merging two sets redirects all
  ends that held either, or else changes nothing (`merge_all_or_nothing`).
-/

import MediaGraph.Proofs.Negotiation.Convergence
import MediaGraph.Proofs.Negotiation.Handles

namespace MediaGraph.Arena

/-! ## Calls -/

inductive Call where
  | share (set : FormatSet) (ends : List (Nat × Side))
  | bind (link : Nat) (side : Side) (id : Nat)
  | release (link : Nat)
  | moveAccepted (src dst : Nat)
  | merge (i j : Nat)
  | pin (id : Nat) (format : Format)
  deriving DecidableEq, Repr

/-- A merge or a pin that comes to nothing leaves the arena as it is. -/
def exec (a : Arena) : Call → Arena
  | .share s ends => (a.share s ends).2
  | .bind l side id => a.bind l side id
  | .release l => a.release l
  | .moveAccepted src dst => a.moveAccepted src dst
  | .merge i j => (a.merge i j).getD a
  | .pin id f => (a.pin? id f).getD a

/-- The handle a call returns. -/
def returned? (a : Arena) : Call → Option Nat
  | .share s ends => (a.share s ends).1
  | .merge i j => (a.merge i j).map fun _ => i
  | _ => none

/-- What drops a live set: that it is merged into another, or else that the last end holding it lets go. -/
def Drops (a : Arena) (id : Nat) : Call → Prop
  | .merge i j => j = id ∧ i ≠ j ∧ (a.merge i j).isSome
  | c => 0 < a.holders id ∧ (a.exec c).holders id = 0

/-- An arena and the handles that `share` returned, newest first. -/
structure Usage where
  arena : Arena := {}
  issued : List Nat := []
  deriving DecidableEq, Repr

namespace Usage

def exec (u : Usage) (c : Call) : Usage where
  arena := u.arena.exec c
  issued := match c with
    | .share .. => (u.arena.returned? c).toList ++ u.issued
    | _ => u.issued

/-- Only handles that were issued are bound. -/
def Permits (u : Usage) : Call → Prop
  | .bind _ _ id => id ∈ u.issued
  | _ => True

/-- Only handles of live sets are bound. -/
def BindsLive (u : Usage) : Call → Prop
  | .bind _ _ id => (u.arena.get? id).isSome
  | _ => True

/-- Each of the calls keeps to a rule at the time it is made. -/
def Follows (rule : Usage → Call → Prop) (u : Usage) : List Call → Prop
  | [] => True
  | c :: calls => rule u c ∧ Follows rule (u.exec c) calls

variable {u : Usage} {rule : Usage → Call → Prop}

/-- What calls that keep to a rule preserve one by one, they preserve together. -/
theorem Follows.foldl {P : Usage → Prop} (step : ∀ u c, P u → rule u c → P (u.exec c)) {calls : List Call}
    (h : u.Follows rule calls) (hu : P u) : P (calls.foldl exec u) := by
  induction calls generalizing u with
  | nil => exact hu
  | cons c calls ih => exact ih h.2 (step u c hu h.1)

theorem Follows.and {rule' : Usage → Call → Prop} {calls : List Call} (h : u.Follows rule calls)
    (h' : u.Follows rule' calls) : u.Follows (fun u c => rule u c ∧ rule' u c) calls := by
  induction calls generalizing u with
  | nil => trivial
  | cons c calls ih => exact ⟨⟨h.1, h'.1⟩, ih h.2 h'.2⟩

/-! ## One call -/

/-- The sets are counted, and what was issued has a number. -/
structure Sound (u : Usage) : Prop where
  counted : u.arena.Counted []
  issued : ∀ id ∈ u.issued, id < u.arena.slots.length

theorem sound_start : Sound {} := ⟨counted_empty, nofun⟩

end Usage

variable {a b : Arena} {i j : Nat}

/-- A merge either comes about or changes nothing. -/
theorem exec_merge {P : Arena → Prop} (h : P a) (hm : ∀ b, a.merge i j = some b → P b) : P (a.exec (.merge i j)) := by
  show P ((a.merge i j).getD a)
  cases e : a.merge i j with
  | none => exact h
  | some b => exact hm b e

theorem narrows_exec (a : Arena) (c : Call) : a.Narrows (a.exec c) := by
  cases c with
  | share s ends => exact a.narrows_share s ends
  | bind l side id => exact a.narrows_bind l side id
  | release l => exact a.narrows_release l
  | moveAccepted src dst => exact a.narrows_moveAccepted src dst
  | merge i j => exact exec_merge (.refl a) fun _ hm => narrows_merge hm
  | pin id f => exact a.narrows_pin id f

/-- A handle that names nothing any more never names anything again. -/
theorem Narrows.get?_eq_none (h : a.Narrows b) {id : Nat} (hid : id < a.slots.length) (hn : a.get? id = none) :
    b.get? id = none := by
  cases hb : b.get? id with
  | none => rfl
  | some t =>
    obtain ⟨s, hs, -⟩ := h.set hid hb
    rw [hn] at hs
    cases hs

theorem isSome_get? (a : Arena) (id : Nat) : (a.get? id).isSome = (a.slot? id).isSome := Option.isSome_map

namespace Usage

variable {u : Usage} {c : Call}

theorem Sound.exec (h : u.Sound) (hc : u.Permits c) : (u.exec c).Sound := by
  have length := (u.arena.narrows_exec c).length
  have old : ∀ id ∈ u.issued, id < (u.arena.exec c).slots.length := fun id hid =>
    Nat.lt_of_lt_of_le (h.issued id hid) length
  cases c with
  | share s ends =>
    refine ⟨h.counted.share s ends, fun id hid => ?_⟩
    rcases List.mem_append.mp hid with hnew | hid
    · -- The number returned is the one the set was put in at.
      cases ends with
      | nil => cases hnew
      | cons e ends =>
        obtain rfl : u.arena.slots.length = id := Option.some.inj (Option.mem_toList.mp hnew)
        have hlen := (narrows_bind_all (u.arena.push s) u.arena.slots.length (e :: ends)).length
        rw [length_slots_push] at hlen
        exact hlen
    · exact old id hid
  | bind l side id => exact ⟨h.counted.bind (h.issued id hc) l side, old⟩
  | release l => exact ⟨h.counted.release l, old⟩
  | moveAccepted src dst => exact ⟨h.counted.moveAccepted src dst, old⟩
  | merge i j => exact ⟨exec_merge (P := (·.Counted [])) h.counted fun _ hm => h.counted.merge hm, old⟩
  | pin id f => exact ⟨h.counted.pin id f, old⟩

/-- A live set stays live while an end holds it, unless it is merged into another. -/
theorem Sound.liveAt (h : u.Sound) (hc : u.Permits c) (hmerge : ∀ i j, c ≠ .merge i j) {id : Nat}
    (hid : (u.arena.get? id).isSome) : (u.arena.exec c).LiveAt [] id := by
  rw [isSome_get?] at hid
  have live : u.arena.LiveAt [] id := fun _ => hid
  cases c with
  | share s ends => exact live.share h.counted s ends
  | bind l side k => exact live.bind h.counted (h.issued k hc) (fun e => e ▸ hid) l side
  | release l => exact live.release h.counted l
  | moveAccepted src dst => exact live.moveAccepted h.counted src dst
  | merge i j => exact absurd rfl (hmerge i j)
  | pin k f => exact live.pin k f

theorem Sound.live (h : u.Sound) (hl : u.arena.Live []) (hc : u.Permits c) (hb : u.BindsLive c) :
    (u.exec c).arena.Live [] := by
  cases c with
  | share s ends => exact hl.share h.counted s ends
  | bind l side k =>
    have hk : (u.arena.get? k).isSome := hb
    rw [isSome_get?] at hk
    exact fun id => LiveAt.bind (hl id) h.counted (h.issued k hc) (fun _ => hk) l side
  | release l => exact hl.release h.counted l
  | moveAccepted src dst => exact hl.moveAccepted h.counted src dst
  | merge i j => exact exec_merge (P := (·.Live [])) hl fun _ hm => hl.merge hm
  | pin k f => exact fun id => LiveAt.pin (hl id) k f

end Usage

/-! ## Counts -/

theorem Counted.refs_eq (h : a.Counted []) (id : Nat) :
    a.refs id = if (a.get? id).isSome then a.holders id else 0 := by
  rw [isSome_get?, refs]
  cases hs : a.slot? id with
  | none => rfl
  | some s => exact h.exact hs

theorem Counted.refs_pos (h : a.Counted []) {id : Nat} (hid : (a.get? id).isSome) : 1 ≤ a.refs id := by
  rw [isSome_get?] at hid
  obtain ⟨s, hs⟩ := Option.isSome_iff_exists.mp hid
  rw [refs, hs]
  exact h.used hs

theorem Counted.holders_pos_of_live (h : a.Counted []) {id : Nat} (hid : (a.get? id).isSome) : 0 < a.holders id := by
  have hrefs := h.refs_pos hid
  rwa [h.refs_eq, if_pos hid] at hrefs

theorem get?_merge (hm : a.merge i j = some b) (hij : i ≠ j) {id : Nat} (hid : (a.get? id).isSome) :
    b.get? id = none ↔ j = id := by
  rcases merge_eq_some hm with ⟨e, -⟩ | ⟨-, s, t, -, -, -, hslot, -, -⟩
  · exact absurd e hij
  · rw [isSome_get?] at hid
    rw [get?, hslot, Option.map_eq_none_iff]
    by_cases hi : id = i
    · simp [hi, Ne.symm hij]
    · by_cases hj : id = j
      · simp [hj, Ne.symm hij]
      · simp [hi, hj, Ne.symm hj, Option.isSome_iff_ne_none.mp hid]

/-- A live set is gone after a call just where that call drops it. -/
theorem Usage.Sound.get?_eq_none_iff {u : Usage} (h : u.Sound) {c : Call} (hc : u.Permits c) {id : Nat}
    (hid : (u.arena.get? id).isSome) : (u.arena.exec c).get? id = none ↔ u.arena.Drops id c := by
  have other : (∀ i j, c ≠ .merge i j) →
      ((u.arena.exec c).get? id = none ↔ 0 < u.arena.holders id ∧ (u.arena.exec c).holders id = 0) := by
    intro hmerge
    have counted : (u.arena.exec c).Counted [] := (h.exec hc).counted
    constructor
    · intro hgone
      refine ⟨h.counted.holders_pos_of_live hid, Nat.eq_zero_of_not_pos fun hpos => ?_⟩
      have hlive := h.liveAt hc hmerge hid (Nat.add_pos_left hpos _)
      rw [← isSome_get?, hgone] at hlive
      cases hlive
    · rintro ⟨-, hnone⟩
      refine Option.not_isSome_iff_eq_none.mp fun hlive => ?_
      exact absurd (counted.holders_pos_of_live hlive) (hnone ▸ Nat.lt_irrefl 0)
  cases c with
  | merge i j =>
    show ((u.arena.merge i j).getD u.arena).get? id = none ↔ j = id ∧ i ≠ j ∧ (u.arena.merge i j).isSome
    cases hm : u.arena.merge i j with
    | none => simp [Option.isSome_iff_ne_none.mp hid]
    | some b =>
      by_cases hij : i = j
      · rcases merge_eq_some hm with ⟨-, rfl, -⟩ | ⟨hne, -⟩
        · simp [hij, Option.isSome_iff_ne_none.mp hid]
        · exact absurd hij hne
      · simp [get?_merge hm hij hid, hij]
  | share | bind | release | moveAccepted | pin => exact other nofun

/-- Whatever calls were made, with no handle bound that was not issued: the count of a live set is the number of ends
that hold it, one at least, and that of any other handle is 0; a live set is dropped by the call that merges it into
another or takes it from its last end, and by no other; a handle dropped stays so. Where only live sets were bound, every
handle an end holds names one. -/
theorem counts_exact (calls : List Call) (h : Usage.Follows Usage.Permits {} calls) :
    let u : Usage := calls.foldl Usage.exec {}
    (∀ id, u.arena.refs id = if (u.arena.get? id).isSome then u.arena.holders id else 0) ∧
    (∀ id, (u.arena.get? id).isSome → 1 ≤ u.arena.refs id) ∧
    (∀ c, u.Permits c → ∀ id, (u.arena.get? id).isSome →
      ((u.exec c).arena.get? id = none ↔ u.arena.Drops id c)) ∧
    (∀ more, u.Follows Usage.Permits more → ∀ id ∈ u.issued, u.arena.get? id = none →
      (more.foldl Usage.exec u).arena.get? id = none) ∧
    (Usage.Follows Usage.BindsLive {} calls →
      ∀ l side id, (u.arena.link l).get side = some id → (u.arena.get? id).isSome) := by
  intro u
  have sound : u.Sound := h.foldl (fun _ _ hu hc => hu.exec hc) Usage.sound_start
  refine ⟨sound.counted.refs_eq, fun id => sound.counted.refs_pos, fun c hc id => sound.get?_eq_none_iff hc, ?stays,
    ?held⟩
  case stays =>
    intro more hmore id hid hgone
    have gone := hmore.foldl (P := fun v => id < v.arena.slots.length ∧ v.arena.get? id = none) (fun v c hv _ => by
      have narrows := v.arena.narrows_exec c
      exact ⟨Nat.lt_of_lt_of_le hv.1 narrows.length, narrows.get?_eq_none hv.1 hv.2⟩) ⟨sound.issued id hid, hgone⟩
    exact gone.2
  case held =>
    intro hbound l side id hid
    have live := (h.and hbound).foldl (P := fun v => v.Sound ∧ v.arena.Live [])
      (fun v c hv hc => ⟨hv.1.exec hc.1, hv.1.live hv.2 hc.1 hc.2⟩) ⟨Usage.sound_start, live_empty⟩
    rw [isSome_get?]
    exact live.2.held hid

/-- Two sets that share an end's link, merged; then the handle that is gone is bound, and the link let go. -/
def staleCalls : List Call :=
  let both : FormatSet := .ofList .video [.video .i420, .video .nv12]
  let one : FormatSet := .ofList .video [.video .nv12]
  [.share both [(0, .offered), (0, .offered), (1, .accepted)], .share one [(0, .accepted)], .merge 0 1,
    .bind 2 .offered 1, .moveAccepted 1 1, .release 0]

/-- The end that holds the handle of the dropped set is not counted; the last end of the other set still is, and with it
that set goes. -/
theorem stale_handle_uncounted :
    let u : Usage := staleCalls.foldl Usage.exec {}
    Usage.Follows Usage.Permits {} staleCalls ∧ u.arena.holders 1 = 1 ∧ u.arena.refs 1 = 0 ∧ u.arena.refs 0 = 1 ∧
      (u.exec (.release 1)).arena.get? 0 = none := by
  have follows : Usage.Follows Usage.Permits {} staleCalls :=
    ⟨trivial, trivial, trivial, (by decide +kernel : 1 ∈ _), trivial, trivial, trivial⟩
  obtain ⟨count, -, dropped, -⟩ := counts_exact staleCalls follows
  refine ⟨follows, by decide +kernel, ?_, ?_, (dropped (.release 1) trivial 0 (by decide +kernel)).mpr ?_⟩
  · rw [count]
    decide +kernel
  · rw [count]
    decide +kernel
  · exact ⟨by decide +kernel, by decide +kernel⟩

/-! ## Merging -/

/-- An arena without one of its live sets. -/
theorem liveSets_setSlot_none {s : Shared} (hs : a.slot? j = some s) :
    (a.setSlot j none).liveSets + 1 = a.liveSets := by
  have hlt := lt_of_slot?_eq_some hs
  have hget : a.slots[j] = some s := by
    rw [slot?, List.getElem?_eq_getElem hlt] at hs
    exact hs
  have hpos : 0 < a.liveSets := List.countP_pos_iff.mpr ⟨_, List.getElem_mem hlt, by simp [hget]⟩
  unfold liveSets at hpos ⊢
  simp only [setSlot]
  rw [List.countP_set hlt]
  simp only [hget, Option.isSome_some, Option.isSome_none, if_true, Bool.false_eq_true, if_false]
  omega

/-- `b` is `a` with the sets of two handles made one: the candidates of the first that the second has too, in the order
of the first and under its handle, for every end that held either. -/
structure Fused (a : Arena) (i j : Nat) (b : Arena) : Prop where
  set : ∃ s t u, a.get? i = some s ∧ a.get? j = some t ∧ b.get? i = some u ∧ u.kind = s.kind ∧
    u.formats = s.formats.filter (· ∈ t)
  gone : b.get? j = none
  ends : ∀ l side, (b.link l).get side =
    if (a.link l).get side = some i ∨ (a.link l).get side = some j then some i else (a.link l).get side
  refs : b.refs i = a.refs i + a.refs j
  live : b.liveSets + 1 = a.liveSets
  others : ∀ id, id ≠ i → id ≠ j → b.get? id = a.get? id ∧ b.refs id = a.refs id

theorem fused_of_merge (hm : a.merge i j = some b) (hij : i ≠ j) : a.Fused i j b := by
  rcases merge_eq_some hm with ⟨e, -⟩ | ⟨-, s, t, hs, ht, -, hslot, hlen, hlinks⟩
  · exact absurd e hij
  have first : b.slot? i = some ⟨s.set.intersect t.set, s.refs + t.refs⟩ := by rw [hslot, if_pos rfl]
  have second : b.slot? j = none := by rw [hslot, if_neg (Ne.symm hij), if_pos rfl]
  refine ⟨⟨s.set, t.set, _, get?_of_slot? hs, get?_of_slot? ht, get?_of_slot? first, FormatSet.kind_intersect _ _,
    FormatSet.formats_intersect _ _⟩, ?gone, fun l side => ?ends, ?refs, ?live, fun id hi hj => ?others⟩
  case gone =>
    rw [get?, second]
    rfl
  case refs =>
    rw [refs, refs, refs, first, hs, ht]
    rfl
  case ends =>
    rw [link_of_redirect hlinks, Ends.get_redirect]
    by_cases hi : (a.link l).get side = some i
    · simp [hi]
    · simp [hi]
  case live =>
    -- The first handle still names a set, so just the second set is gone.
    rw [← liveSets_setSlot_none ht, Nat.add_right_cancel_iff, liveSets, liveSets, countP_slots, countP_slots]
    simp only [setSlot, List.length_set, hlen]
    refine List.countP_congr fun id hid => ?_
    have hslot' := slot?_setSlot a j id none
    rw [setSlot] at hslot'
    rw [hslot, hslot']
    have hlt := lt_of_slot?_eq_some ht
    by_cases hi : id = i
    · subst hi
      simp [Ne.symm hij, hs]
    · by_cases hj : id = j
      · subst hj
        simp [hi, hlt]
      · simp [hi, hj, Ne.symm hj]
  case others =>
    have same : b.slot? id = a.slot? id := by rw [hslot, if_neg hi, if_neg hj]
    exact ⟨by rw [get?, get?, same], by rw [refs, refs, same]⟩

theorem isSome_merge_iff (hij : i ≠ j) : (a.merge i j).isSome ↔
    ∃ s t f, a.get? i = some s ∧ a.get? j = some t ∧ f ∈ s ∧ f ∈ t := by
  constructor
  · intro h
    obtain ⟨b, hm⟩ := Option.isSome_iff_exists.mp h
    rcases merge_eq_some hm with ⟨e, -⟩ | ⟨-, s, t, hs, ht, ⟨f, hf⟩, -⟩
    · exact absurd e hij
    · obtain ⟨hfs, hft⟩ := FormatSet.mem_intersect.mp hf
      exact ⟨s.set, t.set, f, get?_of_slot? hs, get?_of_slot? ht, hfs, hft⟩
  · intro hcommon
    obtain ⟨_, _, f, hs, ht, hfs, hft⟩ := hcommon
    obtain ⟨s, hslot, rfl⟩ := get?_eq_some.mp hs
    obtain ⟨t, htslot, rfl⟩ := get?_eq_some.mp ht
    obtain ⟨b, hm⟩ := merge_of_common hslot htslot hfs hft
    exact Option.isSome_iff_exists.mpr ⟨b, hm⟩

theorem merge_self (a : Arena) (i : Nat) : a.merge i i = if (a.get? i).isSome then some a else none := by
  rw [merge, if_pos rfl, isSome_get?]
  cases a.slot? i <;> rfl

/-- A handle merged with itself is returned if it is live, and nothing changes. Two different ones are merged if both are
live and the sets have a format in common, and then what is common takes the place of both; else no handle is returned
and nothing changes. -/
theorem merge_all_or_nothing (a : Arena) (i j : Nat) :
    (a.returned? (.merge i i) = (if (a.get? i).isSome then some i else none) ∧ a.exec (.merge i i) = a) ∧
    (i ≠ j →
      ((a.returned? (.merge i j)).isSome ↔
        ∃ s t f, a.get? i = some s ∧ a.get? j = some t ∧ f ∈ s ∧ f ∈ t) ∧
      (∀ k, a.returned? (.merge i j) = some k → k = i ∧ a.Fused i j (a.exec (.merge i j))) ∧
      (a.returned? (.merge i j) = none → a.exec (.merge i j) = a)) := by
  refine ⟨?same, fun hij => ?different⟩
  case same =>
    rw [returned?, exec, merge_self]
    split <;> exact ⟨rfl, rfl⟩
  case different =>
    refine ⟨by rw [returned?, Option.isSome_map, isSome_merge_iff hij], fun k hk => ?done, fun hnone => ?undone⟩
    case done =>
      obtain ⟨b, hm, rfl⟩ := Option.map_eq_some_iff.mp hk
      rw [exec, hm]
      exact ⟨rfl, fused_of_merge hm hij⟩
    case undone =>
      rw [exec, Option.map_eq_none_iff.mp hnone]
      rfl

/-- Two sets at either end of a link, with one format in common. -/
theorem common_format_merged :
    let a : Arena := (staleCalls.take 2).foldl exec {}
    a.returned? (.merge 0 1) = some 0 ∧ (a.exec (.merge 0 1)).refs 0 = 3 ∧
      ∃ u, (a.exec (.merge 0 1)).get? 0 = some u ∧ u.formats = [.video .nv12] := by
  intro a
  obtain ⟨-, -, done, -⟩ := (merge_all_or_nothing a 0 1).imp_right fun h => h (by decide)
  have returned : a.returned? (.merge 0 1) = some 0 := by decide +kernel
  obtain ⟨-, fused⟩ := done 0 returned
  refine ⟨returned, by rw [fused.refs]; decide +kernel, ?_⟩
  obtain ⟨s, t, u, hs, ht, hu, -, hformats⟩ := fused.set
  obtain rfl := Option.some.inj (hs.symm.trans (by rfl : a.get? 0 = _))
  obtain rfl := Option.some.inj (ht.symm.trans (by rfl : a.get? 1 = _))
  exact ⟨u, hu, hformats.trans (by decide +kernel)⟩

end MediaGraph.Arena

/-
  MediaGraph.Proofs.Negotiation.Handles — the sets at the ends of links, under any use of the phases.

  The phases of a negotiation can be called in any order, again, and after one of
  them failed half way through a splice. Two things hold all along.
  - A number once handed out stands for one set, which is dropped for good or
    narrowed: of its kind still, without new candidates, and not left without any
    if it had one (`Arena.Narrows`, `Step.narrows`).
  - A set is of the kind of the pad at every end that holds it (`Kinded`,
    `Step.kinded`). A step that hands out no new set gives an end only what an end
    of that kind held (`Kinded.of_held`); a new set is of the kind of the pads it is
    declared for (`Kinded.shareEnds`).

  Which states a run came through can be read off the calls on record: for each query
  there is the state it was made in, and the states after its declarations, one by one,
  lie on the way from there (`Traced`, kept by every move; `declarations_on_path`).
-/

import MediaGraph.Proofs.Negotiation.Accounting
import MediaGraph.Proofs.Session.Course
import MediaGraph.Proofs.Session.Reach

namespace MediaGraph

/-! ## Narrowing -/

/-- What is left of a set: candidates it had, one at least if there was one. -/
structure FormatSet.Narrowed (s t : FormatSet) : Prop where
  kind : t.kind = s.kind
  subset : ∀ f ∈ t, f ∈ s
  nonempty : (∃ f, f ∈ s) → ∃ f, f ∈ t

namespace FormatSet.Narrowed

variable {s t u : FormatSet}

theorem refl (s : FormatSet) : s.Narrowed s := ⟨rfl, fun _ h => h, fun h => h⟩

theorem trans (h : s.Narrowed t) (h' : t.Narrowed u) : s.Narrowed u :=
  ⟨h'.kind.trans h.kind, fun f hf => h.subset f (h'.subset f hf), fun hs => h'.nonempty (h.nonempty hs)⟩

theorem pin {f : Format} (hf : f ∈ s) (hk : t.kind = s.kind) (ht : t.formats = [f]) : s.Narrowed t := by
  have only : ∀ g, g ∈ t ↔ g = f := fun g => by rw [mem_def, ht, List.mem_singleton]
  exact ⟨hk, fun g hg => by rw [(only g).mp hg]; exact hf, fun _ => ⟨f, (only f).mpr rfl⟩⟩

end FormatSet.Narrowed

theorem Shared.Pinned.narrowed {s t : Shared} (h : s.Pinned t) : s.set.Narrowed t.set := by
  rcases h with rfl | ⟨-, -, hk, f, hf, ht⟩
  · exact .refl _
  · exact .pin hf hk ht

namespace Arena

/-- From `a` to `b` no number came to stand for another set, and every set still there is narrowed. -/
structure Narrows (a b : Arena) : Prop where
  length : a.slots.length ≤ b.slots.length
  set : ∀ {id t}, id < a.slots.length → b.get? id = some t → ∃ s, a.get? id = some s ∧ s.Narrowed t

variable {a b c : Arena}

theorem Narrows.refl (a : Arena) : a.Narrows a := ⟨Nat.le_refl _, fun _ ht => ⟨_, ht, .refl _⟩⟩

theorem Narrows.trans (h : a.Narrows b) (h' : b.Narrows c) : a.Narrows c where
  length := Nat.le_trans h.length h'.length
  set hid hu := by
    obtain ⟨t, ht, hut⟩ := h'.set (Nat.lt_of_lt_of_le hid h.length) hu
    obtain ⟨s, hs, hts⟩ := h.set hid ht
    exact ⟨s, hs, hts.trans hut⟩

theorem Narrows.get? (h : a.Narrows b) {id : Nat} {s t : FormatSet} (hs : a.get? id = some s)
    (ht : b.get? id = some t) : s.Narrowed t := by
  obtain ⟨u, hu, -⟩ := get?_eq_some.mp hs
  obtain ⟨s', hs', hst⟩ := h.set (lt_of_slot?_eq_some hu) ht
  cases hs.symm.trans hs'
  exact hst

/-- Sets are kept or dropped. -/
theorem Narrows.of_get (hl : b.slots.length = a.slots.length) (h : ∀ {id t}, b.get? id = some t → a.get? id = some t) :
    a.Narrows b := ⟨Nat.le_of_eq hl.symm, fun _ ht => ⟨_, h ht, .refl _⟩⟩

theorem narrows_retain (a : Arena) (id : Nat) : a.Narrows (a.retain id) := by
  refine .of_get (by simp) fun {j t} ht => ?_
  rw [get?, slot?_retain] at ht
  split at ht
  · rename_i e
    rw [Option.map_map] at ht
    rw [e]
    exact ht
  · exact ht

theorem narrows_drop (a : Arena) (id : Nat) : a.Narrows (a.drop id) := by
  refine .of_get (by simp) fun {j t} ht => ?_
  obtain ⟨u, hu, rfl⟩ := get?_eq_some.mp ht
  rw [slot?_drop] at hu
  split at hu
  · rename_i e
    obtain ⟨s, hs, hu⟩ := Option.bind_eq_some_iff.mp hu
    split at hu <;> cases hu
    rw [e]
    exact get?_of_slot? (s := s) hs
  · exact get?_of_slot? hu

theorem narrows_drop? (a : Arena) (h : Option Nat) : a.Narrows (a.drop? h) := by
  cases h with
  | none => exact .refl a
  | some id => exact a.narrows_drop id

theorem narrows_setLink (a : Arena) (l : Nat) (e : Ends) : a.Narrows (a.setLink l e) := .of_get rfl fun ht => ht

theorem narrows_bind (a : Arena) (l : Nat) (side : Side) (id : Nat) : a.Narrows (a.bind l side id) :=
  ((a.narrows_retain id).trans (narrows_setLink _ l _)).trans (narrows_drop? _ _)

theorem narrows_bind_all (a : Arena) (id : Nat) (ends : List (Nat × Side)) :
    a.Narrows (ends.foldl (fun b e => b.bind e.1 e.2 id) a) := by
  induction ends generalizing a with
  | nil => exact .refl a
  | cons e ends ih => exact (a.narrows_bind e.1 e.2 id).trans (ih _)

theorem narrows_push (a : Arena) (s : FormatSet) : a.Narrows (a.push s) where
  length := by rw [length_slots_push]; exact Nat.le_succ _
  set {id t} hid ht := by
    rw [get?, slot?_push, if_neg (Nat.ne_of_lt hid)] at ht
    exact ⟨t, ht, .refl t⟩

theorem narrows_share (a : Arena) (s : FormatSet) (ends : List (Nat × Side)) : a.Narrows (a.share s ends).2 := by
  unfold share
  split
  · exact .refl a
  · exact (a.narrows_push s).trans (narrows_bind_all _ _ _)

theorem narrows_shareEnds (a : Arena) (s : FormatSet) (ends : List BoundEnd) : a.Narrows (a.shareEnds s ends) :=
  a.narrows_share s _

/-- The set just handed out, if an end holds it. -/
theorem get?_shareEnds_new {s t : FormatSet} {ends : List BoundEnd}
    (ht : (a.shareEnds s ends).get? a.slots.length = some t) : s.Narrowed t := by
  unfold shareEnds share at ht
  split at ht
  · obtain ⟨u, hu, -⟩ := get?_eq_some.mp ht
    exact absurd (lt_of_slot?_eq_some hu) (Nat.lt_irrefl _)
  · obtain ⟨u, hu, h⟩ := (narrows_bind_all (a.push s) a.slots.length _).set (by simp) ht
    rw [get?, slot?_push, if_pos rfl] at hu
    cases hu
    exact h

theorem narrows_declareAll (a : Arena) (n : Node) (ds : List Declaration) : a.Narrows (a.declareAll n ds) :=
  declareAll_induct (P := a.Narrows) (fun b s ends _ h => h.trans (b.narrows_shareEnds s ends)) ds (.refl a)

theorem narrows_fillBare (a : Arena) (n : Node) : a.Narrows (a.fillBare n) :=
  fillBare_induct (P := a.Narrows) (fun b s ends _ h => h.trans (b.narrows_shareEnds s ends)) (.refl a)

theorem narrows_release (a : Arena) (l : Nat) : a.Narrows (a.release l) :=
  ((a.narrows_setLink l _).trans (narrows_drop? _ _)).trans (narrows_drop? _ _)

theorem narrows_moveAccepted (a : Arena) (src dst : Nat) : a.Narrows (a.moveAccepted src dst) := by
  unfold moveAccepted
  split
  · exact .refl a
  · exact ((a.narrows_setLink src _).trans (narrows_setLink _ dst _)).trans (narrows_drop? _ _)

theorem narrows_merge {i j : Nat} (h : a.merge i j = some b) : a.Narrows b := by
  rcases merge_eq_some h with ⟨-, rfl, -⟩ | ⟨-, s, t, hs, -, hcommon, hslot, hlen, -⟩
  · exact .refl b
  · refine ⟨Nat.le_of_eq hlen.symm, fun {id u} _ hu => ?_⟩
    rw [get?, hslot] at hu
    split at hu
    · rename_i e
      cases hu
      refine ⟨s.set, e ▸ get?_of_slot? hs, FormatSet.kind_intersect _ _, ?_, fun _ => hcommon⟩
      exact fun f hf => (FormatSet.mem_intersect.mp hf).1
    · split at hu
      · cases hu
      · exact ⟨u, hu, .refl u⟩

theorem narrows_pin (a : Arena) (id : Nat) (f : Format) : a.Narrows ((a.pin? id f).getD a) := by
  cases hp : a.pin? id f with
  | none => exact .refl a
  | some b =>
    obtain ⟨s, t, hs, hf, -, hk, ht, rfl⟩ := pin?_eq_some hp
    refine ⟨Nat.le_of_eq (by simp [setSlot]), fun {j u} _ hu => ?_⟩
    rw [Option.getD_some, get?, slot?_rewrite hs] at hu
    split at hu
    · rename_i e
      cases hu
      exact ⟨s.set, e ▸ get?_of_slot? hs, .pin hf hk ht⟩
    · exact ⟨u, hu, .refl u⟩

end Arena

namespace Negotiation

variable {n n' : Negotiation} {s : Session}

theorem Reduced.narrows (h : Reduced n n') : n.arena.Narrows n'.arena := by
  refine ⟨Nat.le_of_eq h.slots.symm, fun {id u} _ hu => ?_⟩
  obtain ⟨t, ht, rfl⟩ := Arena.get?_eq_some.mp hu
  obtain ⟨s, hs, hp⟩ := h.slot_of ht
  exact ⟨s.set, Arena.get?_of_slot? hs, hp.narrowed⟩

theorem Step.narrows (h : Step n n') : n.arena.Narrows n'.arena := by
  cases h with
  | aside | create => exact .refl _
  | declare ds => exact Arena.narrows_declareAll _ _ ds
  | fill => exact Arena.narrows_fillBare _ _
  | splice => exact Arena.narrows_moveAccepted _ _ _
  | merge _ hm => exact Arena.narrows_merge hm
  | reduce hr => exact hr.narrows
  | pick => exact (Arena.narrows_pin _ _ _).trans (Arena.narrows_release _ _)

theorem Steps.narrows (h : Steps n n') : n.arena.Narrows n'.arena := by
  induction h with
  | refl => exact .refl _
  | tail _ hs ih => exact ih.trans hs.narrows

/-! ## Kinds -/

/-- A set is of the kind of the pads at the ends that hold it. -/
def Kinded (n : Negotiation) : Prop :=
  ∀ ⦃i l d id s⦄, n.session.graph.links[i]? = some l → (n.arena.link i).get (Direction.side d) = some id →
    n.arena.get? id = some s → n.session.graph.kindAt? (l.port d) = some s.kind

/-- Every end holds nothing new: what it holds, an end of its kind held. -/
theorem Kinded.of_held (hk : Kinded n) (h : Accounted n) (hn : n.arena.Narrows n'.arena)
    (hh : ∀ {i l d id}, n'.session.graph.links[i]? = some l → (n'.arena.link i).get (Direction.side d) = some id →
      ∃ j m, n.session.graph.links[j]? = some m ∧ (n.arena.link j).get d.side = some id ∧
        n'.session.graph.kindAt? (l.port d) = n.session.graph.kindAt? (m.port d)) : Kinded n' := by
  intro i l d id t hl hid ht
  obtain ⟨j, m, hm, hid, hkind⟩ := hh hl hid
  obtain ⟨s, hs⟩ := Option.isSome_iff_exists.mp (h.live.held hid)
  obtain ⟨s, hs, hst⟩ := hn.set (Arena.lt_of_slot?_eq_some hs) ht
  rw [hkind, hst.kind]
  exact hk hm hid hs

theorem Kinded.shareEnds (hk : Kinded n) (h : Accounted n) {i : Nat} {node : Node}
    (hn : n.session.graph.nodes[i]? = some node) {s : FormatSet} {ends : List BoundEnd}
    (he : ∀ e ∈ ends, e ∈ node.boundEnds ∧ e.kind = s.kind) :
    Kinded { n with arena := n.arena.shareEnds s ends } := by
  intro j l d id t hl hid ht
  change n.session.graph.links[j]? = some l at hl
  change ((n.arena.shareEnds s ends).link j).get d.side = some id at hid
  rw [Arena.get_shareEnds] at hid
  split at hid
  · rename_i hmem
    obtain ⟨e, hmem, rfl, hside⟩ := hmem
    obtain rfl := Option.some.inj hid
    obtain ⟨hb, hes⟩ := he e hmem
    obtain ⟨d', p, hp, hpl, hpk, hd'⟩ := Node.mem_boundEnds.mp hb
    obtain rfl := Direction.side_injective (hd'.trans hside)
    obtain ⟨pad, hpad⟩ := List.getElem?_of_mem hp
    -- The link's record names the very pad that was declared for.
    have hat : n.session.graph.padAt? ⟨i, d', pad⟩ = some p := by simp [Graph.padAt?, Graph.pad?, hn, hpad]
    have hbound : n.session.graph.bound? ⟨i, d', pad⟩ = some e.link := by rw [Graph.bound?, hat]; exact hpl
    obtain ⟨l', hl', hport⟩ := h.wired.pads hbound
    rw [hl] at hl'
    cases hl'
    show n.session.graph.kindAt? (l.port d') = some t.kind
    rw [hport, Graph.kindAt?, hat, Option.map_some, hpk, hes, (Arena.get?_shareEnds_new ht).kind]
  · obtain ⟨u, hu⟩ := Option.isSome_iff_exists.mp (h.live.held hid)
    obtain ⟨s', hs', hst⟩ := (n.arena.narrows_shareEnds s ends).set (Arena.lt_of_slot?_eq_some hu) ht
    show n.session.graph.kindAt? (l.port d) = some t.kind
    rw [hst.kind]
    exact hk hl hid hs'

/-- Sets with something in common are of one kind, so the first can stand for both. -/
theorem Kinded.merge (hk : Kinded n) {i j : Nat} {arena : Arena} (hm : n.arena.merge i j = some arena) :
    Kinded { n with arena } := by
  rcases Arena.merge_eq_some hm with ⟨-, rfl, -⟩ | ⟨-, s, t, hs, ht, ⟨f, hf⟩, hslot, -, hb⟩
  · exact hk
  intro m l d id u hl hid hu
  change n.session.graph.links[m]? = some l at hl
  change (arena.link m).get d.side = some id at hid
  obtain ⟨v, hv, rfl⟩ := Arena.get?_eq_some.mp hu
  rw [hslot] at hv
  rw [Arena.link_of_redirect hb, Ends.get_redirect] at hid
  show n.session.graph.kindAt? (l.port d) = some v.set.kind
  split at hid
  · rename_i hj
    obtain rfl := Option.some.inj hid
    rw [if_pos rfl] at hv
    cases hv
    obtain ⟨hfs, hft⟩ := FormatSet.mem_intersect.mp hf
    rw [FormatSet.kind_intersect, ← s.set.ofKind f hfs, t.set.ofKind f hft]
    exact hk hl hj (Arena.get?_of_slot? ht)
  · split at hv
    · rename_i e
      cases hv
      rw [FormatSet.kind_intersect]
      exact hk hl hid (e ▸ Arena.get?_of_slot? hs)
    · split at hv
      · cases hv
      · exact hk hl hid (Arena.get?_of_slot? hv)

theorem Kinded.splice (hk : Kinded n) (h : Accounted n) {link node : Nat} {l : Link} {graph : Graph}
    (hs : n.session.graph.Spliced link node 0 0 l graph) : Kinded (n.spliced link graph) := by
  have hlt := (List.getElem?_eq_some_iff.mp hs.found).1
  refine hk.of_held h (Arena.narrows_moveAccepted _ _ _) fun {i m d id} hm hid => ?_
  have hkind : ∀ p, (n.spliced link graph).session.graph.kindAt? p = n.session.graph.kindAt? p :=
    Graph.kindAt?_congr hs.detached
  simp only [hkind]
  rcases Arena.get_moveAccepted (Nat.ne_of_lt hlt) (h.bare_link (Nat.le_refl _)) hid with
    ⟨rfl, hd, held⟩ | ⟨hne, hd, held⟩
  · -- The new link ends where the link ended before.
    obtain rfl : d = .input := Direction.side_injective hd
    have hm' : some m = _ := hm.symm.trans hs.link_new
    cases hm'
    exact ⟨link, l, hs.found, held, rfl⟩
  · rcases hs.links_iff.mp hm with ⟨rfl, rfl⟩ | ⟨-, hm⟩ | ⟨rfl, -⟩
    · obtain rfl : d = .output := Direction.side_injective (hd rfl)
      exact ⟨i, l, hs.found, held, rfl⟩
    · exact ⟨i, m, hm, held, rfl⟩
    · exact absurd rfl hne

theorem Step.kinded (hs : Step n n') (h : Accounted n) (hk : Kinded n) : Kinded n' := by
  have hn := hs.narrows
  cases hs with
  | aside c ha => exact hk.of_held h hn fun {i l _ _} hl hid => ⟨i, l, ha.graph ▸ hl, hid, by rw [ha.graph]⟩
  | declare ds hnode =>
    exact (Arena.declareAll_induct (P := fun a => Accounted { n with arena := a } ∧ Kinded { n with arena := a })
      (fun _ s _ he h => ⟨h.1.shareEnds hnode s fun e hm => (he e hm).1, h.2.shareEnds h.1 hnode he⟩) ds ⟨h, hk⟩).2
  | fill ds hnode =>
    exact (Arena.fillBare_induct (P := fun a => Accounted { n with arena := a } ∧ Kinded { n with arena := a })
      (fun _ s _ he h => ⟨h.1.shareEnds hnode s fun e hm => (he e hm).1, h.2.shareEnds h.1 hnode he⟩) ⟨h, hk⟩).2
  | create ha =>
    refine hk.of_held h hn fun {i l d _} hl hid => ?_
    have hl : n.session.graph.links[i]? = some l := by rw [ha.graph] at hl; exact hl
    refine ⟨i, l, hl, hid, ?_⟩
    rw [ha.graph, Graph.kindAt?, Graph.padAt?_addNode_of_isSome _ (Graph.padAt?_isSome_of_bound (h.wired.ends hl d))]
    rfl
  | splice hi =>
    obtain ⟨rfl, l, hs⟩ := Graph.insert_ok hi
    exact hk.splice h hs
  | merge _ hm => exact hk.merge hm
  | reduce hr =>
    exact hk.of_held h hn fun {i l _ _} hl hid => ⟨i, l, hr.graph ▸ hl, hr.link i ▸ hid, by rw [hr.graph]⟩
  | @pick link id format hc hf =>
    refine hk.of_held h hn fun {i l d id'} hl hid => ?_
    change (n.session.graph.modifyLink link _).links[i]? = some l at hl
    change ((Arena.release _ link).link i).get d.side = some id' at hid
    rw [Arena.link_release, Arena.link_pin] at hid
    split at hid
    · cases d <;> cases hid
    · rename_i e
      rw [Graph.getElem?_modifyLink, if_neg e] at hl
      exact ⟨i, l, hl, hid, rfl⟩

theorem Steps.kinded (hs : Steps n n') (h : Accounted n) (hk : Kinded n) : Kinded n' := by
  induction hs with
  | refl => exact hk
  | tail hs hs' ih => exact hs'.kinded (Steps.accounted hs h) ih

theorem kinded_start (s : Session) : Kinded { session := s } := fun _ _ d _ _ _ hid => by cases d <;> cases hid

/-! ## Declarations on record -/

/-- With `earlier` on record the filter of `node` was asked, declared `declared` and answered. What it declared took
effect in the state `m`, on the way from `n₀` to `n`. -/
structure TookEffect (n₀ n : Negotiation) (earlier : History) (node : Node) (declared : List Declaration)
    (answer : Answer) (m : Negotiation) : Prop where
  present : node ∈ m.session.graph.nodes
  asked : node.filter.query earlier node.serial node.layout = (declared, answer)
  history : m.session.history = ⟨node.serial, .query node.layout declared answer⟩ :: earlier
  before : Steps n₀ m
  after : Steps { m with arena := m.arena.declareAll node declared } n

namespace TookEffect

variable {n₀ m : Negotiation} {earlier : History} {node : Node} {ds es : List Declaration} {answer : Answer}

theorem trans (h : TookEffect n₀ n earlier node ds answer m) (hs : Steps n n') :
    TookEffect n₀ n' earlier node ds answer m :=
  { h with after := h.after.trans hs }

/-- Declaring is one step after the other: a state between two declarations is on the way as well. -/
theorem between (h : TookEffect n₀ n earlier node (ds ++ es) answer m) :
    Steps n₀ { m with arena := m.arena.declareAll node ds } ∧
      Steps { m with arena := m.arena.declareAll node ds } n := by
  obtain ⟨i, hi⟩ := List.getElem?_of_mem h.present
  have hes : Step { m with arena := m.arena.declareAll node ds }
      { m with arena := (m.arena.declareAll node ds).declareAll node es } := .declare es hi
  have hafter := h.after
  rw [Arena.declareAll, List.foldl_append] at hafter
  exact ⟨h.before.tail (.declare ds hi), .trans (.single hes) hafter⟩

end TookEffect

/-- `n` was come to from `n₀`, and the declarations of every query on record since then took effect on the way. -/
structure Traced (n₀ n : Negotiation) : Prop where
  steps : Steps n₀ n
  effect : ∀ ⦃later earlier serial layout declared answer⦄,
    n.session.history = later ++ ⟨serial, .query layout declared answer⟩ :: earlier →
      n₀.session.history.length ≤ earlier.length →
        ∃ node m, node.serial = serial ∧ node.layout = layout ∧ TookEffect n₀ n earlier node declared answer m

namespace Traced

variable {n₀ : Negotiation}

theorem start (n : Negotiation) : Traced n n where
  steps := .refl
  effect := by
    intro later earlier serial layout declared answer hh hle
    rw [hh, List.length_append, List.length_cons] at hle
    omega

/-- Steps in which no filter is asked for its formats. -/
theorem quiet (h : Traced n₀ n) (hs : Steps n n') (calls : History)
    (hcalls : n'.session.history = calls ++ n.session.history) (hq : ∀ r ∈ calls, r.call.queries = false) :
    Traced n₀ n' where
  steps := h.steps.trans hs
  effect := by
    intro later earlier serial layout declared answer hh hle
    have old : ∀ later', n.session.history = later' ++ ⟨serial, .query layout declared answer⟩ :: earlier →
        ∃ node m, node.serial = serial ∧ node.layout = layout ∧ TookEffect n₀ n' earlier node declared answer m := by
      intro later' hh'
      obtain ⟨node, m, hserial, hlayout, ht⟩ := h.effect hh' hle
      exact ⟨node, m, hserial, hlayout, ht.trans hs⟩
    rcases List.append_eq_append_iff.mp (hcalls.symm.trans hh) with ⟨later', -, hrest⟩ | ⟨calls', rfl, hrest⟩
    · exact old later' hrest
    · cases calls' with
      | nil => exact old [] hrest.symm
      | cons r calls' =>
        -- The query would be one of the calls just made.
        obtain ⟨rfl, -⟩ := List.cons.inj hrest
        cases hq _ (List.mem_append_right _ List.mem_cons_self)

/-- A filter is asked; what it declares takes effect before anything else. -/
theorem asked (h : Traced n₀ n) {i : Nat} {node : Node} {ds : List Declaration} {a : Answer}
    (hn : n.session.graph.nodes[i]? = some node)
    (hask : node.filter.query n.session.history node.serial node.layout = (ds, a))
    (hs : Steps { n with session := n.session.asked node, arena := n.arena.declareAll node ds } n')
    (hh' : n'.session.history = (n.session.asked node).history) : Traced n₀ n' := by
  obtain ⟨-, -, hhistory⟩ := Session.asked_eq node n.session
  rw [hask] at hhistory
  have hmem := List.mem_of_getElem? (Session.node_asked hn)
  have hsteps : Steps n n' := (steps_declared hn ds).trans hs
  refine ⟨h.steps.trans hsteps, fun later earlier serial layout declared answer hh hle => ?_⟩
  rw [hh', hhistory] at hh
  cases later with
  | nil =>
    obtain ⟨hr, rfl⟩ := List.cons.inj hh
    cases hr
    exact ⟨node, _, rfl, rfl, hmem, hask, hhistory, h.steps.tail (step_asked n node), hs⟩
  | cons r later =>
    obtain ⟨node', m, hserial, hlayout, ht⟩ := h.effect (List.cons.inj hh).2 hle
    exact ⟨node', m, hserial, hlayout, ht.trans hsteps⟩

end Traced

theorem stable_traced (n₀ : Negotiation) : Stable (Traced n₀) := by
  intro n n' hm h
  have hs := hm.steps
  cases hm with
  | refuse hn hask => exact h.asked hn hask .refl rfl
  | answer hn hask => exact h.asked hn hask (.single (.fill _ (Session.node_asked hn))) rfl
  | create =>
    obtain ⟨calls, hcalls, hq⟩ := Session.calls_create _ _ _ _ n.session
    exact h.quiet hs calls hcalls hq
  | tell | plan | splice | merge | pick => exact h.quiet hs [] rfl (List.forall_mem_nil _)
  | reduce => exact h.quiet hs [] (by rw [(reduced_reduce n).session]; rfl) (List.forall_mem_nil _)

/-! ## Any use of the phases -/

/-- However the phases are called, each query on record since they began was one of a node of the graph then, and the
state right after each of its declarations lies on a path of steps from where the calls began to where they end. -/
theorem declarations_on_path (s : Session) (calls : List Call) {later earlier : History} {serial : Nat} {layout : Layout}
    {ds es : List Declaration} {answer : Answer}
    (hrecord : (calls.foldl exec { session := s }).session.history =
      later ++ ⟨serial, .query layout (ds ++ es) answer⟩ :: earlier) (hnew : s.history.length ≤ earlier.length) :
    ∃ node m, node.serial = serial ∧ node.layout = layout ∧
      TookEffect { session := s } (calls.foldl exec { session := s }) earlier node (ds ++ es) answer m ∧
      Steps { session := s } { m with arena := m.arena.declareAll node ds } ∧
      Steps { m with arena := m.arena.declareAll node ds } (calls.foldl exec { session := s }) := by
  have traced : Traced { session := s } (calls.foldl exec { session := s }) :=
    (stable_traced _).calls calls (.start _)
  obtain ⟨node, m, hserial, hlayout, ht⟩ := traced.effect hrecord hnew
  exact ⟨node, m, hserial, hlayout, ht, ht.between⟩

/-- However the phases are called, with failures on the way: an end that holds a set belongs to a link of the graph, the
set is live and of the kind of the pad there; a live set counts the ends that hold it, one at least. A set that was live
when a filter had declared `ds`, with `es` still to come, and is live now is narrowed at most: it has candidates if it
had any then. Runs come through these states (`declarations_on_path`). -/
theorem handles_sound (h : s.Reachable) (calls : List Call) :
    let n := calls.foldl exec { session := s }
    (∀ l d id, (n.arena.link l).get (Direction.side d) = some id →
      ∃ m t, n.session.graph.links[l]? = some m ∧ n.arena.get? id = some t ∧
        n.session.graph.kindAt? (m.port d) = some t.kind) ∧
    (∀ id t, n.arena.slot? id = some t → t.refs = n.arena.holders id ∧ 1 ≤ t.refs) ∧
    ∀ m node ds es, Steps { session := s } m → Steps { m with arena := m.arena.declareAll node (ds ++ es) } n →
      ∀ id t u, (m.arena.declareAll node ds).get? id = some t → n.arena.get? id = some u →
        u.kind = t.kind ∧ (∀ f ∈ u, f ∈ t) ∧ ((∃ f, f ∈ t) → ∃ f, f ∈ u) := by
  intro n
  have start : Accounted { session := s } := accounted_start h.wired
  have hsteps : Steps { session := s } n := steps_calls calls { session := s }
  have hn : Accounted n := hsteps.accounted start
  refine ⟨?held, ?counted, ?narrowed⟩
  case held =>
    intro l d id hid
    have hl := List.getElem?_eq_getElem (hn.known hid)
    obtain ⟨t, ht⟩ := Option.isSome_iff_exists.mp (hn.live.held hid)
    exact ⟨_, t.set, hl, Arena.get?_of_slot? ht, hsteps.kinded start (kinded_start s) hl hid (Arena.get?_of_slot? ht)⟩
  case counted =>
    exact fun id t ht => ⟨hn.counted.exact ht, hn.counted.used ht⟩
  case narrowed =>
    intro m node ds es _ hm id t u ht hu
    have hrest : (m.arena.declareAll node ds).Narrows (m.arena.declareAll node (ds ++ es)) := by
      rw [Arena.declareAll, Arena.declareAll, List.foldl_append]
      exact Arena.narrows_declareAll _ node es
    have htu := (hrest.trans hm.narrows).get? ht hu
    exact ⟨htu.kind, htu.subset, htu.nonempty⟩

/-- Merging before anything was asked, then asking, merging with a converter, and asking once more: the link the converter
was spliced into offers a set of its pad's kind. -/
theorem meddled_handles :
    let n := [Call.merge, .query, .merge, .query].foldl exec { session := Studio.mismatched }
    ∃ id m t, (n.arena.link 1).get (Direction.side .output) = some id ∧ n.session.graph.links[1]? = some m ∧
      n.arena.get? id = some t ∧ n.session.graph.kindAt? (m.port .output) = some t.kind := by
  have hs : (([Call.merge, .query, .merge, .query].foldl exec { session := Studio.mismatched }).arena.link 1).get
      (Direction.side .output) |>.isSome := by decide +kernel
  obtain ⟨id, hid⟩ := Option.isSome_iff_exists.mp hs
  obtain ⟨m, t, h⟩ := (handles_sound Studio.mismatched_reachable [.merge, .query, .merge, .query]).1 1 .output id hid
  exact ⟨id, m, t, hid, h⟩

end Negotiation

end MediaGraph

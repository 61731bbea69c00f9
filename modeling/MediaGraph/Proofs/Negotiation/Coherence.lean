/-
  MediaGraph.Proofs.Negotiation.Coherence — the steps of merging stay coherent.

  A step that no pad of a node asked before can tell of (`Unnoticed`) keeps all that
  is known of classes (`Coherent.carry`): notices and plans, a new node, and a node
  spliced into a link, where the pad the link ended at keeps its set on the new
  link (`Coherent.splice`). Merging the two sets of a link joins the classes of its
  ends (`Coherent.merge`). The first query of a node makes its pads known, each set
  among them a class of its own (`Coherent.query`).
-/

import MediaGraph.Proofs.Negotiation.Classes

namespace MediaGraph

namespace Negotiation

variable {n n' : Negotiation}

/-! ## The start -/

theorem accounted_start {s : Session} (h : s.graph.Wired) : Accounted { session := s } := by
  refine ⟨h, Arena.counted_empty, Arena.live_empty, ?_⟩
  intro l side id hl
  cases side <;> cases hl

theorem coherent_start {s : Session} (h : s.graph.Wired) : Coherent { session := s } := by
  have held : ∀ p, held? { session := s } p = none := by
    intro p
    rw [held?]
    cases s.graph.bound? p with
    | none => rfl
    | some l => cases p.direction <;> rfl
  refine ⟨accounted_start h, ?asked, ?origin, ?filled, ?handle, ?left, ?members, ?order, ?together, ?joined⟩
  case asked => intro i hi; cases hi
  case origin => intro sv hs; cases hs
  case filled =>
    intro p
    rw [held]
    exact ⟨fun hp => absurd hp Bool.false_ne_true, fun hp => absurd hp.2 Bool.false_ne_true⟩
  case handle => intro p; rw [held]; rfl
  case left => intro p hp; cases hp
  case members => intro p id u hp; rw [held] at hp; cases hp
  case order => intro p id u hp; rw [held] at hp; cases hp
  case together => intro p q id _ hp; cases hp
  case joined => intro p q id hp; rw [held] at hp; cases hp

/-! ## Steps that go unnoticed -/

/-- Pads hold what they held, of sets that stay as they were, and the ties in effect stay in effect. -/
structure Unnoticed (n n' : Negotiation) : Prop where
  surveys : n'.surveys = n.surveys
  nodes : n.session.graph.nodes.length ≤ n'.session.graph.nodes.length
  bound : ∀ p, (n.survey? p.node).isSome → ((n'.session.graph.bound? p).isSome ↔ (n.session.graph.bound? p).isSome)
  held : ∀ p, n'.held? p = n.held? p
  get : ∀ id, n'.arena.get? id = n.arena.get? id
  settled : ∀ {i l}, n.session.graph.links[i]? = some l → n.Settled i →
    n'.session.graph.links[i]? = some l ∧ n'.Settled i

theorem Unnoticed.joined (h : Unnoticed n n') {p q : Port} (hpq : Joined n p q) : Joined n' p q := by
  cases hpq with
  | link d e hl hs =>
    obtain ⟨hl', hs'⟩ := h.settled hl hs
    exact .link d e hl' hs'
  | @shared _ _ id hpq hp hq =>
    have handle : ∀ p, n'.leftHandle? p = n.leftHandle? p := fun p => leftHandle?_congr (survey?_congr h.surveys _)
    exact .shared hpq (by rw [handle, hp]) (by rw [handle, hq])

theorem Coherent.carry (h : Coherent n) (hu : Unnoticed n n') (ha : Accounted n') : Coherent n' := by
  have survey : ∀ i, n'.survey? i = n.survey? i := survey?_congr hu.surveys
  have handle : ∀ p, n'.leftHandle? p = n.leftHandle? p := fun p => leftHandle?_congr (survey _)
  have left : ∀ p, n'.left? p = n.left? p := fun p => left?_congr (survey _)
  refine ⟨ha, ?asked, ?origin, ?filled, ?handle, ?left, ?members, ?order, ?together, ?joined⟩
  case asked =>
    intro i hi
    rw [survey] at hi
    exact Nat.lt_of_lt_of_le (h.asked hi) hu.nodes
  case origin =>
    intro sv hsv
    rw [hu.surveys] at hsv
    exact h.origin hsv
  case filled =>
    intro p
    rw [hu.held, h.filled, survey]
    exact and_congr_left fun hp => (hu.bound p hp).symm
  case handle =>
    intro p
    rw [handle, hu.held]
    exact h.handle p
  case left =>
    intro p hp
    rw [handle] at hp
    rw [left]
    exact h.left hp
  case members =>
    intro p id s hp hs f
    simp only [hu.held, hu.get, Allows, left] at hp hs ⊢
    exact h.members hp hs f
  case order =>
    intro p id s hp hs
    simp only [hu.held, hu.get, left] at hp hs ⊢
    exact h.order hp hs
  case together =>
    intro p q id hpq hp hq
    rw [handle] at hp hq
    rw [hu.held, hu.held]
    exact h.together hpq hp hq
  case joined =>
    intro p q id hp hq
    rw [hu.held] at hp hq
    exact (h.joined hp hq).mono fun _ _ => hu.joined

/-- Notices, calls to filters and plans change nothing. -/
theorem Coherent.aside (h : Coherent n) (session : Session) (hg : session.graph = n.session.graph)
    (converters : Converters) : Coherent { n with session, converters } := by
  refine h.carry ?_ ⟨by rw [hg]; exact h.wired, h.counted, h.live, by rw [hg]; exact h.known⟩
  refine ⟨rfl, Nat.le_of_eq (by rw [hg]), fun p _ => by rw [hg], fun p => ?_, fun _ => rfl, fun hl hs => ⟨?_, hs⟩⟩
  · rw [held?, hg]
    rfl
  · rw [hg]
    exact hl

theorem Accounted.create (h : Accounted n) {session : Session} {node : Node} (hn : node.Unbound)
    (hg : session.graph = n.session.graph.addNode node) (converters : Converters) :
    Accounted { n with session, converters } :=
  ⟨hg ▸ h.wired.addNode hn, h.counted, h.live, by rw [hg]; exact h.known⟩

theorem Coherent.create (h : Coherent n) {session : Session} {node : Node} (hn : node.Unbound)
    (hg : session.graph = n.session.graph.addNode node) : Coherent { n with session } := by
  have bound : ∀ p, session.graph.bound? p = n.session.graph.bound? p := by
    intro p
    rw [hg, Graph.bound?_addNode hn]
  refine h.carry ?_ (h.toAccounted.create hn hg n.converters)
  refine ⟨rfl, ?_, fun p _ => by rw [bound], fun p => ?_, fun _ => rfl, fun hl hs => ⟨?_, hs⟩⟩
  · rw [hg]
    simp [Graph.addNode]
  · rw [held?, bound]
    rfl
  · rw [hg]
    exact hl

/-! ## Splicing -/

/-- A node spliced into a link: what the link accepts moves to the new link, the last one. -/
def spliced (n : Negotiation) (link : Nat) (graph : Graph) : Negotiation :=
  { n with
    session := { n.session with graph }
    arena := n.arena.moveAccepted link n.session.graph.links.length }

theorem not_settled {link i j : Nat} (hl : n.arena.link link = ⟨some i, some j⟩) (hij : i ≠ j) : ¬ n.Settled link := by
  intro h
  obtain ⟨id, hid⟩ := h
  rw [hl] at hid
  cases hid
  exact hij rfl

section Splicing

variable {link node i j : Nat} {l : Link} {graph : Graph} (h : Accounted n)
  (hs : n.session.graph.Spliced link node 0 0 l graph)
include h hs

theorem bound?_spliced (hn : n.survey? node = none) {p : Port} (hp : (n.survey? p.node).isSome) :
    (graph.bound? p).isSome ↔ (n.session.graph.bound? p).isSome := by
  have hne : ∀ d, p ≠ ⟨node, d, 0⟩ := by
    intro d e
    rw [e, hn] at hp
    cases hp
  rw [hs.bound, if_neg (hne .input)]
  by_cases hmoved : p = l.port .input
  · rw [if_pos (Or.inr hmoved), hmoved, h.wired.ends hs.found]
    exact Iff.rfl
  · rw [if_neg (not_or.mpr ⟨hne .output, hmoved⟩)]

theorem Accounted.splice : Accounted (n.spliced link graph) := by
  refine ⟨h.wired.splice hs, h.counted.moveAccepted _ _, h.live.moveAccepted h.counted _ _, ?_⟩
  intro m side id hm
  have hlt := (List.getElem?_eq_some_iff.mp hs.found).1
  show m < graph.links.length
  rw [hs.length_links]
  rcases Arena.get_moveAccepted (Nat.ne_of_lt hlt) (h.bare_link (Nat.le_refl _)) hm with ⟨rfl, -⟩ | ⟨-, -, hm⟩
  · exact Nat.lt_succ_self _
  · exact Nat.lt_succ_of_lt (h.known hm)

variable (hl : n.arena.link link = ⟨some i, some j⟩)
include hl

theorem arena_spliced :
    (∀ id, (n.spliced link graph).arena.slot? id = n.arena.slot? id) ∧
    ∀ m, (n.spliced link graph).arena.link m =
      if m = n.session.graph.links.length then ⟨none, some j⟩
      else if m = link then ⟨some i, none⟩ else n.arena.link m := by
  have hlt := (List.getElem?_eq_some_iff.mp hs.found).1
  have hmove := n.arena.moveAccepted_eq (show (n.arena.link link).accepted = some j by rw [hl]) (Nat.ne_of_lt hlt)
    (h.bare_link (Nat.le_refl _))
  rw [hl] at hmove
  exact hmove

/-- Every pad holds what it held: the pad the link ended at holds it on the new link, and the pads of the node spliced
in hold nothing yet. -/
theorem held?_spliced (p : Port) : (n.spliced link graph).held? p = n.held? p := by
  have hlt := (List.getElem?_eq_some_iff.mp hs.found).1
  have hlink := (arena_spliced h hs hl).2
  have hbound : (n.spliced link graph).session.graph.bound? p = _ := hs.bound p
  rw [held?, held?, hbound]
  by_cases hin : p = ⟨node, .input, 0⟩
  · rw [if_pos hin, hin, hs.inFree]
    show ((n.spliced link graph).arena.link link).accepted = none
    rw [hlink, if_neg (Nat.ne_of_lt hlt), if_pos rfl]
  · rw [if_neg hin]
    by_cases hout : p = ⟨node, .output, 0⟩
    · rw [if_pos (Or.inl hout), hout, hs.outFree]
      show ((n.spliced link graph).arena.link n.session.graph.links.length).offered = none
      rw [hlink, if_pos rfl]
    · by_cases hmoved : p = l.port .input
      · rw [if_pos (Or.inr hmoved), hmoved, h.wired.ends hs.found]
        show ((n.spliced link graph).arena.link n.session.graph.links.length).accepted = (n.arena.link link).accepted
        rw [hlink, if_pos rfl, hl]
      · rw [if_neg (not_or.mpr ⟨hout, hmoved⟩)]
        cases hb : n.session.graph.bound? p with
        | none => rfl
        | some m =>
          show ((n.spliced link graph).arena.link m).get p.direction.side = (n.arena.link m).get p.direction.side
          rw [hlink, if_neg (Nat.ne_of_lt (h.wired.bound_lt hb))]
          by_cases e : m = link
          · -- The pad at the link's other end keeps what the link offers.
            subst e
            obtain ⟨l', hl', hport⟩ := h.wired.pads hb
            rw [hs.found] at hl'
            cases hl'
            rw [if_pos rfl, hl]
            cases hd : p.direction with
            | input => rw [hd] at hport; exact absurd hport.symm hmoved
            | output => rfl
          · rw [if_neg e]

variable (hij : i ≠ j)
include hij

theorem settled_spliced {m : Nat} (hm : n.Settled m) : (n.spliced link graph).Settled m := by
  have hne : m ≠ link := fun e => not_settled hl hij (e ▸ hm)
  have hmlt := h.settled_lt hm
  obtain ⟨id, hm⟩ := hm
  refine ⟨id, ?_⟩
  rw [(arena_spliced h hs hl).2, if_neg (Nat.ne_of_lt hmlt), if_neg hne, hm]

theorem unnoticed_spliced (hn : n.survey? node = none) : Unnoticed n (n.spliced link graph) := by
  refine ⟨rfl, Nat.le_of_eq hs.nodes.symm, fun p hp => bound?_spliced h hs hn hp, held?_spliced h hs hl, ?_, ?_⟩
  · intro id
    exact congrArg (Option.map _) ((arena_spliced h hs hl).1 id)
  · intro m k hm hset
    have hne : m ≠ link := fun e => not_settled hl hij (e ▸ hset)
    exact ⟨hs.links_iff.mpr (Or.inr (Or.inl ⟨hne, hm⟩)), settled_spliced h hs hl hij hset⟩

end Splicing

theorem Coherent.splice (h : Coherent n) {link node i j : Nat} {l : Link} {graph : Graph}
    (hs : n.session.graph.Spliced link node 0 0 l graph) (hl : n.arena.link link = ⟨some i, some j⟩) (hij : i ≠ j)
    (hn : n.survey? node = none) : Coherent (n.spliced link graph) :=
  h.carry (unnoticed_spliced h.toAccounted hs hl hij hn) (h.toAccounted.splice hs)

/-! ## Merging -/

section Merging

variable {arena : Arena} {i j : Nat} (hb : arena.links = n.arena.links.map (·.redirect j i))
include hb

theorem held?_merge (p : Port) : held? { n with arena } p = if n.held? p = some j then some i else n.held? p := by
  show (n.session.graph.bound? p >>= fun l => (arena.link l).get p.direction.side) = _
  rw [held?]
  cases n.session.graph.bound? p with
  | none => simp
  | some l => simp [Arena.link_of_redirect hb, Ends.get_redirect]

theorem held?_merge_first (p : Port) : held? { n with arena } p = some i ↔ n.held? p = some i ∨ n.held? p = some j := by
  rw [held?_merge hb]
  split <;> simp_all

theorem held?_merge_other {id : Nat} (hid : id ≠ i) (p : Port) :
    held? { n with arena } p = some id ↔ n.held? p = some id ∧ id ≠ j := by
  rw [held?_merge hb]
  split
  · rename_i e
    rw [e]
    simp [Ne.symm hid, eq_comm]
  · rename_i e
    refine ⟨fun hp => ⟨hp, ?_⟩, fun hp => hp.1⟩
    intro hj
    rw [hj] at hp
    exact e hp

theorem isSome_held?_merge (p : Port) : (held? { n with arena } p).isSome ↔ (n.held? p).isSome := by
  rw [held?_merge hb]
  split
  · rename_i e
    rw [e]
    exact Iff.rfl
  · exact Iff.rfl

theorem Settled.merge {m : Nat} (h : n.Settled m) : Settled { n with arena } m := by
  obtain ⟨id, hid⟩ := h
  refine ⟨if id = j then i else id, ?_⟩
  show arena.link m = _
  rw [Arena.link_of_redirect hb, hid]
  by_cases e : id = j <;> simp [Ends.redirect, e]

theorem settled_merge {link : Nat} (hl : n.arena.link link = ⟨some i, some j⟩) : Settled { n with arena } link := by
  refine ⟨i, ?_⟩
  show arena.link link = _
  rw [Arena.link_of_redirect hb, hl]
  simp [Ends.redirect]

theorem Joined.merge {p q : Port} (h : Joined n p q) : Joined { n with arena } p q := by
  cases h with
  | link d e hl hs => exact .link d e hl (hs.merge hb)
  | shared hpq hp hq => exact .shared hpq hp hq

end Merging

theorem Accounted.merge (h : Accounted n) {i j : Nat} {arena : Arena} (hm : n.arena.merge i j = some arena)
    (hb : arena.links = n.arena.links.map (·.redirect j i)) : Accounted { n with arena } := by
  refine ⟨h.wired, h.counted.merge hm, h.live.merge hm, ?_⟩
  intro m side id hid
  simp only [Arena.link_of_redirect hb, Ends.get_redirect] at hid
  split at hid
  · rename_i e
    exact h.known e
  · exact h.known hid

/-- Merging the two sets of a link settles it, and unsettles no other. -/
theorem Accounted.merge_ends (h : Accounted n) {link i j : Nat} {arena : Arena}
    (hl : n.arena.link link = ⟨some i, some j⟩) (hm : n.arena.merge i j = some arena) :
    Accounted { n with arena } ∧ Settled { n with arena } link ∧ ∀ m, n.Settled m → Settled { n with arena } m := by
  rcases Arena.merge_eq_some hm with ⟨rfl, rfl, -⟩ | ⟨-, -, -, -, -, -, -, -, hb⟩
  · exact ⟨h, ⟨i, hl⟩, fun _ hs => hs⟩
  · exact ⟨h.merge hm hb, settled_merge hb hl, fun _ => Settled.merge hb⟩

namespace Coherent

section Merging

variable (h : Coherent n) {link i j : Nat} {l : Link} {arena : Arena} {s t : FormatSet}
  (hb : arena.links = n.arena.links.map (·.redirect j i)) (hfound : n.session.graph.links[link]? = some l)
  (hl : n.arena.link link = ⟨some i, some j⟩)

include h hfound hl in
theorem held?_ends : n.held? (l.port .output) = some i ∧ n.held? (l.port .input) = some j := by
  rw [h.held?_port hfound, h.held?_port hfound, hl]
  exact ⟨rfl, rfl⟩

include h hb hfound hl

/-- The link ties what held the second set to what held the first. -/
theorem joined_merge {p q : Port} {id : Nat} (hp : held? { n with arena } p = some id)
    (hq : held? { n with arena } q = some id) : Relation.EqvGen (Joined { n with arena }) p q := by
  obtain ⟨hout, hin⟩ := h.held?_ends hfound hl
  have keep : ∀ {p q k}, n.held? p = some k → n.held? q = some k → Relation.EqvGen (Joined { n with arena }) p q := by
    intro p q k hp hq
    exact (h.joined hp hq).mono fun _ _ => Joined.merge hb
  have toOutput : ∀ {p}, held? { n with arena } p = some i →
      Relation.EqvGen (Joined { n with arena }) p (l.port .output) := by
    intro p hp
    rcases (held?_merge_first hb p).mp hp with hp | hp
    · exact keep hp hout
    · exact .trans _ _ _ (keep hp hin) (.rel _ _ (.link .input .output hfound (settled_merge hb hl)))
  by_cases e : id = i
  · subst e
    exact .trans _ _ _ (toOutput hp) (.symm _ _ (toOutput hq))
  · exact keep ((held?_merge_other hb e p).mp hp).1 ((held?_merge_other hb e q).mp hq).1

variable (hs : n.arena.get? i = some s) (ht : n.arena.get? j = some t)
  (hget : ∀ id, arena.get? id =
    if id = i then some (s.intersect t) else if id = j then none else n.arena.get? id)

include hs ht hget

/-- The common set has what was left for all that held either set. -/
theorem members_merge {p : Port} {id : Nat} {u : FormatSet} (hp : held? { n with arena } p = some id)
    (hu : arena.get? id = some u) (f : Format) : f ∈ u ↔ ∀ q, held? { n with arena } q = some id → n.Allows q f := by
  obtain ⟨hout, hin⟩ := h.held?_ends hfound hl
  rw [hget] at hu
  by_cases e : id = i
  · rw [if_pos e] at hu
    cases hu
    rw [FormatSet.mem_intersect, h.members hout hs, h.members hin ht]
    constructor
    · intro hf q hq
      rw [e, held?_merge_first hb] at hq
      rcases hq with hq | hq
      · exact hf.1 q hq
      · exact hf.2 q hq
    · intro hf
      refine ⟨fun q hq => hf q ?_, fun q hq => hf q ?_⟩
      · rw [e, held?_merge_first hb]
        exact Or.inl hq
      · rw [e, held?_merge_first hb]
        exact Or.inr hq
  · obtain ⟨hp, hj⟩ := (held?_merge_other hb e p).mp hp
    rw [if_neg e, if_neg hj] at hu
    rw [h.members hp hu]
    refine forall_congr' fun q => imp_congr_left ?_
    rw [held?_merge_other hb e]
    exact (and_iff_left hj).symm

omit ht in
/-- The common set is in the order of the first. -/
theorem order_merge {p : Port} {id : Nat} {u : FormatSet} (hp : held? { n with arena } p = some id)
    (hu : arena.get? id = some u) :
    ∃ q v, held? { n with arena } q = some id ∧ n.left? q = some v ∧ u.formats.Sublist v.formats := by
  obtain ⟨hout, -⟩ := h.held?_ends hfound hl
  rw [hget] at hu
  by_cases e : id = i
  · rw [if_pos e] at hu
    cases hu
    obtain ⟨q, v, hq, hv, hsub⟩ := h.order hout hs
    refine ⟨q, v, ?_, hv, (FormatSet.intersect_sublist _ _).trans hsub⟩
    rw [e, held?_merge_first hb]
    exact Or.inl hq
  · obtain ⟨hp, hj⟩ := (held?_merge_other hb e p).mp hp
    rw [if_neg e, if_neg hj] at hu
    obtain ⟨q, v, hq, hv, hsub⟩ := h.order hp hu
    exact ⟨q, v, (held?_merge_other hb e q).mpr ⟨hq, hj⟩, hv, hsub⟩

end Merging

theorem merge (h : Coherent n) {link i j : Nat} {arena : Arena} (hl : n.arena.link link = ⟨some i, some j⟩)
    (hm : n.arena.merge i j = some arena) :
    Coherent { n with arena } ∧ Settled { n with arena } link ∧ ∀ m, n.Settled m → Settled { n with arena } m := by
  rcases Arena.merge_eq_some hm with ⟨rfl, rfl, -⟩ | ⟨-, s, t, hs, ht, -, hslot, -, hb⟩
  · exact ⟨h, ⟨i, hl⟩, fun _ hs => hs⟩
  refine ⟨?_, settled_merge hb hl, fun _ => Settled.merge hb⟩
  have hget : ∀ id, arena.get? id =
      if id = i then some (s.set.intersect t.set) else if id = j then none else n.arena.get? id := by
    intro id
    rw [Arena.get?, hslot]
    split
    · rfl
    · split <;> rfl
  obtain ⟨l, hfound⟩ : ∃ l, n.session.graph.links[link]? = some l := ⟨_, List.getElem?_eq_getElem
    (h.known (show (n.arena.link link).get .offered = some i by rw [hl]; rfl))⟩
  have hgs : n.arena.get? i = some s.set := Arena.get?_of_slot? hs
  have hgt : n.arena.get? j = some t.set := Arena.get?_of_slot? ht
  refine ⟨h.toAccounted.merge hm hb, h.asked, h.origin, ?filled, ?handle, h.left,
    fun hp hu => h.members_merge hb hfound hl hgs hgt hget hp hu, fun hp hu => h.order_merge hb hfound hl hgs hget hp hu,
    ?together, fun hp hq => h.joined_merge hb hfound hl hp hq⟩
  case filled =>
    intro p
    exact (isSome_held?_merge hb p).trans (h.filled p)
  case handle =>
    intro p
    exact (h.handle p).trans (isSome_held?_merge hb p).symm
  case together =>
    intro p q id hpq hp hq
    rw [held?_merge hb, held?_merge hb, h.together hpq hp hq]

end Coherent

/-! ## Asking -/

section Asking

variable {i : Nat} {node : Node}

theorem owns_iff (hn : n.session.graph.nodes[i]? = some node) {l : Nat} {side : Side} :
    node.Owns l side ↔ ∃ d pad, d.side = side ∧ n.session.graph.bound? ⟨i, d, pad⟩ = some l := by
  simp only [Node.Owns, Graph.bound?, Graph.padAt?, Graph.pad?, hn, Option.bind_eq_bind, Option.bind_some,
    Option.bind_eq_some_iff]
  refine exists_congr fun d => ⟨?_, ?_⟩
  · rintro ⟨hd, p, hp, hl⟩
    obtain ⟨pad, hpad⟩ := List.getElem?_of_mem hp
    exact ⟨pad, hd, p, hpad, hl⟩
  · rintro ⟨pad, hd, p, hp, hl⟩
    exact ⟨hd, p, List.mem_of_getElem? hp, hl⟩

/-- The handle left for a pad is what its end holds right after the query. -/
theorem handle?_eq_held (hn : n.session.graph.nodes[i]? = some node) (ds : List Declaration) (a : Arena) (d : Direction)
    (pad : Nat) :
    Survey.handle? ⟨i, node, ds, a⟩ d pad = n.session.graph.bound? ⟨i, d, pad⟩ >>= fun l => (a.link l).get d.side := by
  simp only [Survey.handle?, Graph.bound?, Graph.padAt?, Graph.pad?, hn, Option.bind_eq_bind, Option.bind_some]

/-- The negotiation after a query in which the filter made these declarations. -/
def answered (n : Negotiation) (i : Nat) (node : Node) (ds : List Declaration) : Negotiation :=
  { n with
    arena := n.arena.queried node ds
    surveys := ⟨i, node, ds, n.arena.queried node ds⟩ :: n.surveys }

theorem survey?_answered (n : Negotiation) (i : Nat) (node : Node) (ds : List Declaration) (j : Nat) :
    (n.answered i node ds).survey? j =
      if i = j then some ⟨i, node, ds, n.arena.queried node ds⟩ else n.survey? j := by
  by_cases h : i = j <;> simp [survey?, answered, h]

theorem bare_of_held (hn : n.session.graph.nodes[i]? = some node) (h : ∀ d pad, n.held? ⟨i, d, pad⟩ = none) :
    n.arena.Bare node := by
  intro l side ho
  obtain ⟨d, pad, rfl, hb⟩ := (owns_iff hn).mp ho
  exact (held?_of_bound hb).symm.trans (h d pad)

theorem Coherent.bare (h : Coherent n) (hn : n.session.graph.nodes[i]? = some node) (hi : n.survey? i = none) :
    n.arena.Bare node := by
  refine bare_of_held hn fun d pad => ?_
  have hf := h.filled ⟨i, d, pad⟩
  rw [hi] at hf
  cases hg : n.held? ⟨i, d, pad⟩ with
  | none => rfl
  | some id => rw [hg] at hf; cases (hf.mp rfl).2

/-- A pad of another node does not share its end with one of this node. -/
theorem Accounted.not_owns (h : Accounted n) (hn : n.session.graph.nodes[i]? = some node) {p : Port} {l : Nat}
    (hb : n.session.graph.bound? p = some l) (hp : p.node ≠ i) : ¬ node.Owns l p.direction.side := by
  intro ho
  obtain ⟨d, pad, hd, hb'⟩ := (owns_iff hn).mp ho
  obtain ⟨lk, hl, hport⟩ := h.wired.pads hb
  obtain ⟨lk', hl', hport'⟩ := h.wired.pads hb'
  rw [hl] at hl'
  cases hl'
  have := Direction.side_injective hd
  subst this
  rw [hport'] at hport
  exact hp (congrArg Port.node hport).symm

/-- A query leaves every bound pad of the node a set. -/
theorem held?_answered (hn : n.session.graph.nodes[i]? = some node) (ds : List Declaration) {p : Port} (hp : p.node = i)
    (hb : (n.session.graph.bound? p).isSome) : ((n.answered i node ds).held? p).isSome := by
  obtain ⟨l, hb⟩ := Option.isSome_iff_exists.mp hb
  rw [held?_of_bound (n := n.answered i node ds) hb]
  exact Arena.held_queried ((owns_iff hn).mpr ⟨p.direction, p.pad, rfl, by rw [← hp]; exact hb⟩) n.arena ds

/-- Pads of other nodes hold what they held. -/
theorem Accounted.held?_of_grown (h : Accounted n) (hn : n.session.graph.nodes[i]? = some node) {m : Negotiation}
    (hg : m.session.graph = n.session.graph) (hm : n.arena.Grown node m.arena) {p : Port} (hp : p.node ≠ i) :
    m.held? p = n.held? p := by
  rw [held?, held?, hg]
  cases hb : n.session.graph.bound? p with
  | none => rfl
  | some l => exact hm.others l _ (h.not_owns hn hb hp)

/-- What a node's first query changes, seen by pad: at the node, what its pads hold is what was left for them;
elsewhere nothing. -/
structure Asked (n : Negotiation) (i : Nat) (n' : Negotiation) : Prop where
  new : n.survey? i = none
  survey : (n'.survey? i).isSome
  bound : ∀ p, n'.session.graph.bound? p = n.session.graph.bound? p
  handle : ∀ {p}, p.node = i → n'.leftHandle? p = n'.held? p
  left : ∀ {p}, p.node = i → n'.left? p = n'.held? p >>= n'.arena.get?
  fresh : ∀ {p id}, p.node = i → n'.held? p = some id → n.arena.slots.length ≤ id
  filled : ∀ {p}, p.node = i → (n.session.graph.bound? p).isSome → (n'.held? p).isSome
  others : ∀ {p}, p.node ≠ i → n'.survey? p.node = n.survey? p.node ∧ n'.held? p = n.held? p
  get : ∀ {id}, id < n.arena.slots.length → n'.arena.get? id = n.arena.get? id
  settled : ∀ {m}, n.Settled m → n'.Settled m
  links : n'.session.graph.links = n.session.graph.links

theorem settled_query (hb : n.arena.Bare node) (ds : List Declaration) {m : Nat} (hm : n.Settled m) :
    (n.answered i node ds).Settled m := by
  obtain ⟨id, hm⟩ := hm
  have keep : ∀ d : Direction, ((n.arena.queried node ds).link m).get d.side = (n.arena.link m).get d.side := by
    intro d
    refine (Arena.grown_queried hb ds).others m d.side fun ho => ?_
    have := hb m d.side ho
    rw [hm] at this
    cases d <;> cases this
  refine ⟨id, ?_⟩
  rw [← hm]
  exact congrArg₂ Ends.mk (keep .output) (keep .input)

theorem Accounted.shareEnds (h : Accounted n) (hn : n.session.graph.nodes[i]? = some node) (s : FormatSet)
    {ends : List BoundEnd} (he : ∀ e ∈ ends, e ∈ node.boundEnds) :
    Accounted { n with arena := n.arena.shareEnds s ends } := by
  refine ⟨h.wired, h.counted.share _ _, h.live.share h.counted _ _, ?_⟩
  intro l side id hid
  have hid : ((n.arena.shareEnds s ends).link l).get side = some id := hid
  rw [Arena.get_shareEnds] at hid
  split at hid
  · rename_i hmem
    obtain ⟨e, hmem, rfl, rfl⟩ := hmem
    obtain ⟨d, pad, -, hb⟩ := (owns_iff hn).mp (Node.owns_of_mem (he e hmem))
    exact h.wired.bound_lt hb
  · exact h.known hid

theorem Accounted.declareAll (h : Accounted n) (hn : n.session.graph.nodes[i]? = some node) (ds : List Declaration) :
    Accounted { n with arena := n.arena.declareAll node ds } :=
  Arena.declareAll_induct (P := fun a => Accounted { n with arena := a })
    (fun _ s _ he h => h.shareEnds hn s fun e hm => (he e hm).1) ds h

theorem Accounted.fillBare (h : Accounted n) (hn : n.session.graph.nodes[i]? = some node) :
    Accounted { n with arena := n.arena.fillBare node } :=
  Arena.fillBare_induct (P := fun a => Accounted { n with arena := a })
    (fun _ s _ he h => h.shareEnds hn s fun e hm => (he e hm).1) h

theorem Accounted.query (h : Accounted n) (hn : n.session.graph.nodes[i]? = some node) (ds : List Declaration) :
    Accounted (n.answered i node ds) := by
  have hf := (h.declareAll hn ds).fillBare hn
  exact ⟨hf.wired, hf.counted, hf.live, hf.known⟩

theorem Coherent.asked_query (h : Coherent n) (hn : n.session.graph.nodes[i]? = some node) (hi : n.survey? i = none)
    (ds : List Declaration) : Asked n i (n.answered i node ds) := by
  have grown := Arena.grown_queried (h.bare hn hi) ds
  have survey : (n.answered i node ds).survey? i = some ⟨i, node, ds, n.arena.queried node ds⟩ := by
    rw [survey?_answered, if_pos rfl]
  have owns : ∀ {p : Port} {l}, p.node = i → n.session.graph.bound? p = some l → node.Owns l p.direction.side := by
    intro p l hp hb
    refine (owns_iff hn).mpr ⟨p.direction, p.pad, rfl, ?_⟩
    rw [← hp]
    exact hb
  have handle : ∀ {p : Port}, p.node = i →
      Survey.handle? ⟨i, node, ds, n.arena.queried node ds⟩ p.direction p.pad = (n.answered i node ds).held? p := by
    intro p hp
    rw [handle?_eq_held hn, ← hp]
    rfl
  refine ⟨hi, by rw [survey]; rfl, fun _ => rfl, ?handle, ?left, ?fresh, ?filled, ?others, ?get,
    settled_query (h.bare hn hi) ds, rfl⟩
  case handle =>
    intro p hp
    rw [leftHandle?, hp, survey]
    exact handle hp
  case left =>
    intro p hp
    rw [left?, hp, survey, ← handle hp]
    rfl
  case fresh =>
    intro p id hp hid
    obtain ⟨l, hb, hl⟩ := held?_eq_some.mp hid
    exact grown.fresh l p.direction.side id (owns hp hb) hl
  case filled => exact fun hp hb => held?_answered hn ds hp hb
  case others =>
    intro p hp
    exact ⟨by rw [survey?_answered, if_neg (Ne.symm hp)], h.held?_of_grown (m := n.answered i node ds) hn rfl grown hp⟩
  case get =>
    intro id hid
    exact congrArg (Option.map _) (grown.slot id hid)

end Asking

namespace Asked

variable {i : Nat} (ha : Asked n i n')
include ha

theorem handle_of_ne {p : Port} (hp : p.node ≠ i) : n'.leftHandle? p = n.leftHandle? p :=
  leftHandle?_congr (ha.others hp).1

theorem left_of_ne {p : Port} (hp : p.node ≠ i) : n'.left? p = n.left? p := left?_congr (ha.others hp).1

/-- The node had nothing left for its pads before. -/
theorem ne_of_handle {p : Port} {id : Nat} (hp : n.leftHandle? p = some id) : p.node ≠ i := by
  intro e
  rw [leftHandle?, e, ha.new] at hp
  cases hp

theorem joined {p q : Port} (hpq : Joined n p q) : Joined n' p q := by
  cases hpq with
  | link d e hl hs => exact .link d e (by rw [ha.links]; exact hl) (ha.settled hs)
  | shared hpq hp hq =>
    refine .shared hpq ?_ (by rw [ha.handle_of_ne (ha.ne_of_handle hq)]; exact hq)
    rw [ha.handle_of_ne (ha.ne_of_handle hp)]
    exact hp

variable (h : Coherent n)
include h

/-- The sets of the node's pads are new, so whoever holds one of them is a pad of the node. -/
theorem node_of_held {p q : Port} {id : Nat} (hp : n'.held? p = some id) (hq : n'.held? q = some id)
    (hpi : p.node = i) : q.node = i := by
  by_cases hqi : q.node = i
  · exact hqi
  · rw [(ha.others hqi).2] at hq
    exact absurd (h.lt_of_held hq) (Nat.not_lt_of_le (ha.fresh hpi hp))

/-- What pads of other nodes hold was there before, and whoever holds it now held it. -/
theorem held_of_ne {p q : Port} {id : Nat} (hp : n'.held? p = some id) (hpi : p.node ≠ i) :
    n'.held? q = some id ↔ n.held? q = some id := by
  have hp' := hp
  rw [(ha.others hpi).2] at hp'
  by_cases hqi : q.node = i
  · refine ⟨fun hq => absurd (ha.node_of_held h hq hp hqi) hpi, fun hq => ?_⟩
    have hf := h.filled q
    rw [hqi, ha.new, hq] at hf
    cases (hf.mp rfl).2
  · rw [(ha.others hqi).2]

theorem filled_iff (p : Port) :
    (n'.held? p).isSome ↔ (n'.session.graph.bound? p).isSome ∧ (n'.survey? p.node).isSome := by
  rw [ha.bound]
  by_cases hp : p.node = i
  · refine ⟨fun hh => ⟨?_, by rw [hp]; exact ha.survey⟩, fun hh => ha.filled hp hh.1⟩
    obtain ⟨id, hh⟩ := Option.isSome_iff_exists.mp hh
    obtain ⟨l, hl, -⟩ := held?_eq_some.mp hh
    rw [← ha.bound, hl]
    rfl
  · rw [(ha.others hp).1, (ha.others hp).2]
    exact h.filled p

theorem handle_iff (p : Port) : (n'.leftHandle? p).isSome ↔ (n'.held? p).isSome := by
  by_cases hp : p.node = i
  · rw [ha.handle hp]
  · rw [ha.handle_of_ne hp, (ha.others hp).2]
    exact h.handle p

theorem left_isSome (hacc : Accounted n') {p : Port} (hh : (n'.leftHandle? p).isSome) : (n'.left? p).isSome := by
  by_cases hp : p.node = i
  · rw [ha.handle hp] at hh
    obtain ⟨id, hh⟩ := Option.isSome_iff_exists.mp hh
    obtain ⟨s, hs⟩ := hacc.get?_of_held hh
    rw [ha.left hp, hh, Option.bind_eq_bind, Option.bind_some, hs]
    rfl
  · rw [ha.left_of_ne hp]
    rw [ha.handle_of_ne hp] at hh
    exact h.left hh

theorem members {p : Port} {id : Nat} {s : FormatSet} (hp : n'.held? p = some id) (hs : n'.arena.get? id = some s)
    (f : Format) : f ∈ s ↔ ∀ q, n'.held? q = some id → n'.Allows q f := by
  by_cases hpi : p.node = i
  · have left : ∀ {q}, n'.held? q = some id → n'.left? q = some s := by
      intro q hq
      rw [ha.left (ha.node_of_held h hp hq hpi), hq]
      exact hs
    constructor
    · intro hf q hq
      exact ⟨s, left hq, hf⟩
    · intro hf
      obtain ⟨t, ht, hf⟩ := hf p hp
      rw [left hp] at ht
      cases ht
      exact hf
  · have hp' := (ha.held_of_ne h hp hpi).mp hp
    rw [ha.get (h.lt_of_held hp')] at hs
    rw [h.members hp' hs]
    refine forall_congr' fun q => ?_
    rw [ha.held_of_ne h hp hpi]
    refine imp_congr_right fun hq => ?_
    have hqi : q.node ≠ i := fun hqi => hpi (ha.node_of_held h ((ha.held_of_ne h hp hpi).mpr hq) hp hqi)
    rw [Allows, Allows, ha.left_of_ne hqi]

theorem order {p : Port} {id : Nat} {s : FormatSet} (hp : n'.held? p = some id) (hs : n'.arena.get? id = some s) :
    ∃ q t, n'.held? q = some id ∧ n'.left? q = some t ∧ s.formats.Sublist t.formats := by
  by_cases hpi : p.node = i
  · refine ⟨p, s, hp, ?_, List.Sublist.refl _⟩
    rw [ha.left hpi, hp]
    exact hs
  · have hp' := (ha.held_of_ne h hp hpi).mp hp
    rw [ha.get (h.lt_of_held hp')] at hs
    obtain ⟨q, t, hq, ht, hsub⟩ := h.order hp' hs
    have hq' := (ha.held_of_ne h hp hpi).mpr hq
    have hqi : q.node ≠ i := fun hqi => hpi (ha.node_of_held h hq' hp hqi)
    exact ⟨q, t, hq', by rw [ha.left_of_ne hqi, ht], hsub⟩

theorem together {p q : Port} {id : Nat} (hpq : p.node = q.node) (hp : n'.leftHandle? p = some id)
    (hq : n'.leftHandle? q = some id) : n'.held? p = n'.held? q := by
  by_cases hpi : p.node = i
  · rw [← ha.handle hpi, ← ha.handle (hpq ▸ hpi), hp, hq]
  · have hqi : q.node ≠ i := fun e => hpi (hpq.trans e)
    rw [ha.handle_of_ne hpi] at hp
    rw [ha.handle_of_ne hqi] at hq
    rw [(ha.others hpi).2, (ha.others hqi).2]
    exact h.together hpq hp hq

theorem joined_of_held {p q : Port} {id : Nat} (hp : n'.held? p = some id) (hq : n'.held? q = some id) :
    Relation.EqvGen (Joined n') p q := by
  by_cases hpi : p.node = i
  · have hqi := ha.node_of_held h hp hq hpi
    exact .rel _ _ (.shared (hpi.trans hqi.symm) (by rw [ha.handle hpi, hp]) (by rw [ha.handle hqi, hq]))
  · have hp' := (ha.held_of_ne h hp hpi).mp hp
    have hq' := (ha.held_of_ne h hp hpi).mp hq
    exact (h.joined hp' hq').mono fun _ _ => ha.joined

end Asked

/-- The first query of a node. -/
theorem Coherent.query (h : Coherent n) {i : Nat} {node : Node} (hn : n.session.graph.nodes[i]? = some node)
    (hi : n.survey? i = none) (ds : List Declaration) : Coherent (n.answered i node ds) := by
  have ha := h.asked_query hn hi ds
  have hacc := h.toAccounted.query hn ds
  refine ⟨hacc, ?asked, ?origin, ha.filled_iff h, ha.handle_iff h, ha.left_isSome h hacc, ha.members h, ha.order h,
    ha.together h, ha.joined_of_held h⟩
  case asked =>
    intro j hj
    by_cases e : j = i
    · rw [e]
      exact (List.getElem?_eq_some_iff.mp hn).1
    · have hj' := (ha.others (p := ⟨j, .input, 0⟩) e).1
      rw [hj'] at hj
      exact h.asked hj
  case origin =>
    intro sv hsv
    rcases List.mem_cons.mp hsv with e | hsv
    · rw [e]
      exact ⟨n.arena, h.bare hn hi, rfl⟩
    · exact h.origin hsv

end Negotiation

end MediaGraph

/-
  MediaGraph.Proofs.Graph.Flow — where links lead, and the cycles they run in.

  Media flow along the links. A node leads to a sink when one can be reached from
  it; a link is worth configuring when its destination does. Links that are met
  again while one follows them against the flow lie on a directed cycle
  (`onCycle_of_path`). A cycle takes no link twice, but may come to a node again: a
  link and a link into its source lie on one together exactly where the flow leads
  back from the one to the other (`onCycle_iff_reaches`).

  A graph has no cycle just where its nodes have a rank that goes up along every link
  (`acyclic_of_rank`, `Acyclic.exists_rank`). So whoever can always go on comes to a
  sink (`Acyclic.leadsToSink`).
-/

import Mathlib.Data.List.Chain
import Mathlib.Data.List.Nodup
import Mathlib.Logic.Relation
import MediaGraph.Proofs.Graph.Wiring

namespace MediaGraph.Graph

variable {g : Graph}

/-- A link runs from one node to the other. -/
def Flows (g : Graph) (a b : Nat) : Prop := ∃ l ∈ g.links, l.src = a ∧ l.dst = b

/-- A node without output pads can be reached from this one, or is this one. -/
def LeadsToSink (g : Graph) (a : Nat) : Prop :=
  ∃ b n, Relation.ReflTransGen g.Flows a b ∧ g.nodes[b]? = some n ∧ n.isSink = true

theorem leadsToSink_of_isSink {a : Nat} {n : Node} (hn : g.nodes[a]? = some n) (hs : n.isSink = true) :
    g.LeadsToSink a := ⟨a, n, .refl, hn, hs⟩

theorem LeadsToSink.of_link {i : Nat} {l : Link} (h : g.LeadsToSink l.dst) (hl : g.links[i]? = some l) :
    g.LeadsToSink l.src := by
  obtain ⟨b, n, hpath, hn, hs⟩ := h
  exact ⟨b, n, .head ⟨l, List.mem_of_getElem? hl, rfl, rfl⟩ hpath, hn, hs⟩

/-- The second link starts where the first ends. -/
def Follows (g : Graph) (i j : Nat) : Prop := ∃ l k, g.links[i]? = some l ∧ g.links[j]? = some k ∧ l.dst = k.src

/-- A directed cycle: each link starts where the one before it ends, and the first where the last ends. No link comes
twice, but a node may. -/
structure Cycle (g : Graph) (ls : List Nat) : Prop where
  nodup : ls.Nodup
  path : ls.IsChain g.Follows
  closed : ∃ i ∈ ls.head?, ∃ j ∈ ls.getLast?, g.Follows j i

def Acyclic (g : Graph) : Prop := ∀ ls, ¬ g.Cycle ls

/-- The rank of the node a link starts at. -/
def startRank (g : Graph) (rank : Nat → Nat) (i : Nat) : Nat := ((g.links[i]?).map fun l => rank l.src).getD 0

theorem startRank_of_link {i : Nat} {l : Link} (hl : g.links[i]? = some l) (rank : Nat → Nat) :
    g.startRank rank i = rank l.src := by
  rw [startRank, hl]
  rfl

/-- There is no cycle where the links all run up a rank of the nodes. -/
theorem acyclic_of_rank (rank : Nat → Nat) (h : ∀ l ∈ g.links, rank l.src < rank l.dst) : g.Acyclic := by
  rintro ls ⟨-, hpath, i, hi, j, hj, hji⟩
  -- the rank where each link starts goes up along the cycle, and at its end falls back to the first
  have up : ∀ i j, g.Follows i j → g.startRank rank i < g.startRank rank j := by
    rintro i j ⟨l, k, hl, hk, e⟩
    rw [startRank_of_link hl, startRank_of_link hk, ← e]
    exact h l (List.mem_of_getElem? hl)
  have hchain : (ls.map (g.startRank rank)).Pairwise (· < ·) :=
    List.isChain_iff_pairwise.mp ((List.isChain_map _).mpr (hpath.imp up))
  cases ls with
  | nil => cases hi
  | cons k ls =>
    cases hi
    have last := List.mem_of_getLast? hj
    have back := up j i hji
    rcases List.mem_cons.mp last with rfl | hmem
    · exact Nat.lt_irrefl _ back
    · exact Nat.lt_asymm back ((List.pairwise_cons.mp hchain).1 _ (List.mem_map_of_mem hmem))

/-! ## Paths -/

/-- A way from one to the other that comes to nothing twice. -/
theorem exists_nodup_path {α : Type} {r : α → α → Prop} {a b : α} (h : Relation.ReflTransGen r a b) :
    ∃ path, (a :: path).IsChain r ∧ (a :: path).Nodup ∧ (a :: path).getLast? = some b := by
  induction h using Relation.ReflTransGen.head_induction_on with
  | refl => exact ⟨[], List.isChain_singleton b, List.nodup_singleton b, rfl⟩
  | @head a c hac _ ih =>
    obtain ⟨path, hchain, hnodup, hlast⟩ := ih
    by_cases ha : a ∈ c :: path
    · -- the way from `c` comes to `a` again: begin there
      obtain ⟨pre, post, e⟩ := List.append_of_mem ha
      rw [e] at hchain hnodup hlast
      refine ⟨post, hchain.right_of_append, (List.nodup_append.mp hnodup).2.1, ?_⟩
      rw [List.getLast?_append_of_ne_nil _ (List.cons_ne_nil a post)] at hlast
      exact hlast
    · exact ⟨c :: path, hchain.cons_cons hac, List.nodup_cons.mpr ⟨ha, hnodup⟩, hlast⟩

/-- Between the links at the ends of a path of nodes there is a path of links. -/
theorem follows_of_flows {a b : Nat} (h : Relation.ReflTransGen g.Flows a b) {i j : Nat} {l k : Link}
    (hl : g.links[i]? = some l) (hk : g.links[j]? = some k) (ha : l.dst = a) (hb : k.src = b) :
    Relation.TransGen g.Follows i j := by
  induction h using Relation.ReflTransGen.head_induction_on generalizing i l with
  | refl => exact .single ⟨l, k, hl, hk, ha.trans hb.symm⟩
  | head hac _ ih =>
    obtain ⟨m, hm, hsrc, hdst⟩ := hac
    obtain ⟨x, hx⟩ := List.mem_iff_getElem?.mp hm
    exact .head ⟨l, m, hl, hx, ha.trans hsrc.symm⟩ (ih hx hdst)

/-- And the other way round: links that follow each other take the flow along. -/
theorem flows_of_follows {i j : Nat} {l k : Link} (h : Relation.TransGen g.Follows i j) (hl : g.links[i]? = some l)
    (hk : g.links[j]? = some k) : Relation.ReflTransGen g.Flows l.dst k.src := by
  induction h generalizing k with
  | single hij =>
    obtain ⟨l', k', hl', hk', e⟩ := hij
    obtain rfl := Option.some.inj (hl.symm.trans hl')
    obtain rfl := Option.some.inj (hk.symm.trans hk')
    rw [e]
  | tail _ hjk ih =>
    obtain ⟨m, k', hm, hk', e⟩ := hjk
    obtain rfl := Option.some.inj (hk.symm.trans hk')
    exact (ih hm).tail ⟨m, List.mem_of_getElem? hm, rfl, e⟩

/-! ## Cycles -/

/-- All around a cycle: each link leads to each. -/
theorem Cycle.reaches {ls : List Nat} (h : g.Cycle ls) {i j : Nat} (hi : i ∈ ls) (hj : j ∈ ls) :
    Relation.ReflTransGen g.Follows i j := by
  obtain ⟨a, ha, b, hb, hba⟩ := h.closed
  have pairs : ls.Pairwise (Relation.ReflTransGen g.Follows) :=
    List.isChain_iff_pairwise.mp (h.path.imp fun _ _ => .single)
  have from_first : Relation.ReflTransGen g.Follows a j := by
    obtain ⟨rest, rfl⟩ := List.head?_eq_some_iff.mp ha
    rcases List.mem_cons.mp hj with rfl | hj
    · exact .refl
    · exact (List.pairwise_cons.mp pairs).1 j hj
  have to_last : Relation.ReflTransGen g.Follows i b := by
    obtain ⟨rest, rfl⟩ := List.getLast?_eq_some_iff.mp hb
    rcases List.mem_append.mp hi with hi | hi
    · exact (List.pairwise_append.mp pairs).2.2 i hi b (List.mem_singleton.mpr rfl)
    · rw [List.mem_singleton.mp hi]
  exact to_last.trans (.head hba from_first)

/-- A directed cycle runs through both links. It takes each link once, and may come to a node more than once. -/
def OnCycle (g : Graph) (i j : Nat) : Prop := ∃ ls, g.Cycle ls ∧ i ∈ ls ∧ j ∈ ls

/-- A link on the way down from another, and followed by it, closes a cycle. -/
theorem onCycle_of_path {i j : Nat} {path : List Nat} (hnodup : (i :: path).Nodup)
    (hpath : (i :: path).IsChain g.Follows) (hj : j ∈ i :: path) (hji : g.Follows j i) : g.OnCycle i j := by
  obtain ⟨pre, post, e⟩ := List.append_of_mem hj
  have e : i :: path = (pre ++ [j]) ++ post := by rw [e, List.append_assoc, List.singleton_append]
  rw [e] at hnodup hpath
  have head : (pre ++ [j]).head? = some i := by
    have h := congrArg List.head? e
    rw [List.head?_append] at h
    cases hp : (pre ++ [j]).head? with
    | none => simp at hp
    | some k => rw [hp] at h; exact h.symm
  refine ⟨pre ++ [j], ⟨(List.nodup_append.mp hnodup).1, hpath.left_of_append, i, head, j, by simp, hji⟩, ?_, by simp⟩
  exact List.mem_of_head? head

/-- A link and a link into its source lie on a cycle together just where the flow leads from the one to the other. -/
theorem onCycle_iff_reaches {i j : Nat} {l k : Link} (hl : g.links[i]? = some l) (hk : g.links[j]? = some k)
    (hkl : k.dst = l.src) : g.OnCycle i j ↔ Relation.ReflTransGen g.Flows l.dst k.src := by
  constructor
  · intro h
    obtain ⟨ls, hls, hi, hj⟩ := h
    rcases Relation.reflTransGen_iff_eq_or_transGen.mp (hls.reaches hi hj) with rfl | hij
    · obtain rfl := Option.some.inj (hl.symm.trans hk)
      rw [hkl]
    · exact flows_of_follows hij hl hk
  · intro h
    obtain ⟨path, hchain, hnodup, hlast⟩ := exists_nodup_path (follows_of_flows h hl hk rfl rfl).to_reflTransGen
    exact ⟨i :: path, ⟨hnodup, hchain, i, rfl, j, hlast, k, l, hk, hl, hkl⟩, List.mem_cons_self,
      List.mem_of_getLast? hlast⟩

/-- Links that lead back to where they started close a cycle. -/
theorem exists_cycle {i : Nat} (h : Relation.TransGen g.Follows i i) : ∃ ls, g.Cycle ls := by
  obtain ⟨j, hij, hji⟩ := Relation.TransGen.head'_iff.mp h
  obtain ⟨path, hchain, hnodup, hlast⟩ := exists_nodup_path hji
  exact ⟨j :: path, hnodup, hchain, j, rfl, i, hlast, hij⟩

/-! ## Ranks -/

open Classical in
/-- The links whose flow comes to a node. -/
noncomputable def upstream (g : Graph) (a : Nat) : List Link :=
  g.links.filter fun k => Relation.ReflTransGen g.Flows k.dst a

theorem mem_upstream {a : Nat} {k : Link} : k ∈ g.upstream a ↔ k ∈ g.links ∧ Relation.ReflTransGen g.Flows k.dst a := by
  simp [upstream]

/-- Where there is no cycle, the number of links upstream of a node goes up along every link. -/
theorem Acyclic.exists_rank (h : g.Acyclic) : ∃ rank : Nat → Nat, (∀ a, rank a ≤ g.links.length) ∧
    ∀ l ∈ g.links, rank l.src < rank l.dst := by
  refine ⟨fun a => (g.upstream a).length, fun a => List.length_filter_le _ _, fun l hl => ?_⟩
  have hsub : (g.upstream l.src).Sublist (g.upstream l.dst) := by
    refine List.monotone_filter_right _ fun k hk => ?_
    have hpath : Relation.ReflTransGen g.Flows k.dst l.src := by simpa using hk
    simpa using hpath.tail ⟨l, hl, rfl, rfl⟩
  refine Nat.lt_of_le_of_ne hsub.length_le fun hlength => ?_
  have hback : l ∈ g.upstream l.src := by
    rw [hsub.eq_of_length hlength]
    exact mem_upstream.mpr ⟨hl, .refl⟩
  obtain ⟨i, hi⟩ := List.mem_iff_getElem?.mp hl
  obtain ⟨ls, hls⟩ := exists_cycle (follows_of_flows (mem_upstream.mp hback).2 hi hi rfl rfl)
  exact h ls hls

/-- Only where links run matters. -/
theorem Acyclic.of_ports {g' : Graph} (h : g.Acyclic)
    (hp : ∀ i : Nat, (g'.links[i]?).map Link.port = (g.links[i]?).map Link.port) : g'.Acyclic := by
  have old : ∀ {i : Nat} {l' : Link}, g'.links[i]? = some l' → ∃ l, g.links[i]? = some l ∧ l.port = l'.port := by
    intro i l' hl'
    have hport := hp i
    rw [hl'] at hport
    exact Option.map_eq_some_iff.mp hport.symm
  have follows : ∀ i j, g'.Follows i j → g.Follows i j := by
    rintro i j ⟨l', k', hl', hk', e⟩
    obtain ⟨l, hl, hlport⟩ := old hl'
    obtain ⟨k, hk, hkport⟩ := old hk'
    have hdst : l.dst = l'.dst := congrArg (fun p => (p .input).node) hlport
    have hsrc : k.src = k'.src := congrArg (fun p => (p .output).node) hkport
    exact ⟨l, k, hl, hk, by rw [hdst, hsrc, e]⟩
  rintro ls ⟨hnodup, hpath, i, hi, j, hj, hji⟩
  exact h ls ⟨hnodup, hpath.imp follows, i, hi, j, hj, follows j i hji⟩

/-- Every node that is no sink has a link to go on with. -/
def Unblocked (g : Graph) : Prop := ∀ a n, g.nodes[a]? = some n → n.isSink = true ∨ ∃ l ∈ g.links, l.src = a

theorem Unblocked.of_ports {g' : Graph} (h : g.Unblocked) (hn : g'.nodes = g.nodes)
    (hp : ∀ i : Nat, (g'.links[i]?).map Link.port = (g.links[i]?).map Link.port) : g'.Unblocked := by
  intro a n ha
  rw [hn] at ha
  rcases h a n ha with hs | ⟨l, hl, rfl⟩
  · exact .inl hs
  · obtain ⟨i, hi⟩ := List.mem_iff_getElem?.mp hl
    have hport := hp i
    rw [hi] at hport
    obtain ⟨l', hl', e⟩ := Option.map_eq_some_iff.mp hport
    exact .inr ⟨l', List.mem_of_getElem? hl', congrArg (fun p => (p .output).node) e⟩

/-- Where there is no cycle and no node is blocked, every node leads to a sink. -/
theorem Acyclic.leadsToSink (h : g.Acyclic) (hw : g.Wired) (hon : g.Unblocked) {a : Nat} (ha : a < g.nodes.length) :
    g.LeadsToSink a := by
  obtain ⟨rank, hle, hrank⟩ := h.exists_rank
  -- the rank goes up at each link and not beyond the number of links
  induction hd : g.links.length - rank a using Nat.strong_induction_on generalizing a with
  | _ d ih =>
    have hn := List.getElem?_eq_getElem ha
    rcases hon a _ hn with hs | ⟨l, hl, rfl⟩
    · exact leadsToSink_of_isSink hn hs
    · obtain ⟨i, hi⟩ := List.mem_iff_getElem?.mp hl
      have hup := hrank l hl
      have htop := hle l.dst
      have hlt : l.dst < g.nodes.length := hw.node_lt hi .input
      exact (ih _ (by omega) hlt rfl).of_link hi

end MediaGraph.Graph

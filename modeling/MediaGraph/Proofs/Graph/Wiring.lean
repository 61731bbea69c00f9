/-
  MediaGraph.Proofs.Graph.Wiring — the two records of a binding agree.

  A binding is written down in the link, which names a pad at each end, and in the
  pad, which names the link. `Wired`: the pads a link names are bound to it, and a
  bound pad is named by its link. `link` and `insert` are the edits that touch
  bindings; what each does to them is one equation for `bound?` (`bound?_pushLink`,
  `bound?_splice`), and from it that the graph stays wired, also where the node
  spliced in is an end of the link it is spliced into.

  Apart from bindings these edits leave the nodes as they are (`detached_pushLink`,
  `Spliced.detached`), so a link and its pads stay of one kind (`Matched`) as long as
  none is given another.
-/

import MediaGraph.Graph

namespace MediaGraph

/-- A pad of a graph: its node, its direction and its number there. -/
structure Port where
  node : Nat
  direction : Direction
  pad : Nat
  deriving DecidableEq, Repr

/-- The pads a link runs between: from an output, to an input. -/
def Link.port (l : Link) : Direction → Port
  | .output => ⟨l.src, .output, l.srcPad⟩
  | .input => ⟨l.dst, .input, l.dstPad⟩

@[simp] theorem Link.port_direction (l : Link) (d : Direction) : (l.port d).direction = d := by cases d <;> rfl

/-- A link without its format. -/
def Link.unformatted (l : Link) : Link := { l with props := { l.props with format := none } }

/-- All of a graph but the formats of its links. -/
def Graph.unformatted (g : Graph) : Graph := { g with links := g.links.map Link.unformatted }

/-- What `link` and `insert` complain of. -/
def Error.OfBinding : Error → Prop
  | unknownNode _ | unknownLink _ | noPad _ _ _ | padTaken _ _ _ | kindMismatch _ _ _ _ | wrongKind _ _ => True
  | _ => False

theorem Error.OfBinding.ne_corrupt {e : Error} (h : e.OfBinding) : e ≠ .corrupt := by
  rintro rfl
  exact h

/-- All pads of a node are free. -/
def Node.Unbound (n : Node) : Prop := ∀ d, ∀ p ∈ n.pads d, p.link = none

/-- The node with all its pads free: all of it but its bindings. -/
def Node.detached (n : Node) : Node :=
  { n with inputs := n.inputs.map ({ · with link := none }), outputs := n.outputs.map ({ · with link := none }) }

theorem Node.detached_bind (n : Node) (d : Direction) (pad : Nat) (link : Option Nat) :
    (n.bind d pad link).detached = n.detached := by
  have freed : ∀ ps : List Pad, (ps.modify pad ({ · with link })).map ({ · with link := none } : Pad → Pad) =
      ps.map ({ · with link := none }) := by
    intro ps
    refine List.ext_getElem? fun i => ?_
    simp only [List.getElem?_map, List.getElem?_modify]
    cases ps[i]? with
    | none => rfl
    | some p =>
      by_cases h : pad = i
      · simp [h]
      · simp [h]
  cases d
  · exact congrArg (fun ps => { n.detached with inputs := ps }) (freed n.inputs)
  · exact congrArg (fun ps => { n.detached with outputs := ps }) (freed n.outputs)

theorem Node.unbound_ofType (type : FilterType) (name : Option String) (serial : Nat) :
    (Node.ofType type name serial).Unbound := by
  intro d p hp
  cases d <;>
    (simp only [Node.pads, Node.ofType, Pad.ofTemplates, List.mem_mapIdx] at hp; obtain ⟨_, _, rfl⟩ := hp; rfl)

namespace Graph

def padAt? (g : Graph) (p : Port) : Option Pad := g.pad? p.node p.direction p.pad

/-- The link a pad is bound to. -/
def bound? (g : Graph) (p : Port) : Option Nat := g.padAt? p >>= (·.link)

/-- The media kind of a pad. -/
def kindAt? (g : Graph) (p : Port) : Option MediaKind := (g.padAt? p).map (·.kind)

structure Wired (g : Graph) : Prop where
  ends : ∀ {i l}, g.links[i]? = some l → ∀ d, g.bound? (l.port d) = some i
  pads : ∀ {p i}, g.bound? p = some i → ∃ l, g.links[i]? = some l ∧ l.port p.direction = p

variable {g g' : Graph}

theorem Wired.bound_lt (h : g.Wired) {p : Port} {i : Nat} (hp : g.bound? p = some i) : i < g.links.length := by
  obtain ⟨l, hl, -⟩ := h.pads hp
  exact (List.getElem?_eq_some_iff.mp hl).1

theorem padAt?_isSome_of_bound {p : Port} {i : Nat} (h : g.bound? p = some i) : (g.padAt? p).isSome := by
  unfold bound? at h
  cases hp : g.padAt? p with
  | none => rw [hp] at h; cases h
  | some _ => rfl

theorem node_lt_of_bound {p : Port} {i : Nat} (h : g.bound? p = some i) : p.node < g.nodes.length := by
  have hp := padAt?_isSome_of_bound h
  simp only [padAt?, pad?] at hp
  cases hn : g.nodes[p.node]? with
  | none => simp [hn] at hp
  | some n => exact (List.getElem?_eq_some_iff.mp hn).1

/-- A link runs between nodes of the graph. -/
theorem Wired.node_lt (h : g.Wired) {i : Nat} {l : Link} (hl : g.links[i]? = some l) (d : Direction) :
    (l.port d).node < g.nodes.length := node_lt_of_bound (h.ends hl d)

theorem Wired.exists_node (h : g.Wired) {i : Nat} {l : Link} (hl : g.links[i]? = some l) (d : Direction) :
    ∃ n, g.nodes[(l.port d).node]? = some n := ⟨_, List.getElem?_eq_getElem (h.node_lt hl d)⟩

/-- The links a node's pads of one direction are bound to. -/
theorem mem_padLinks {k i : Nat} {n : Node} (hn : g.nodes[k]? = some n) (d : Direction) :
    i ∈ (n.pads d).filterMap (·.link) ↔ ∃ pad, g.bound? ⟨k, d, pad⟩ = some i := by
  simp only [bound?, padAt?, pad?, hn, Option.bind_eq_bind, Option.bind_some, Option.bind_eq_some_iff, List.mem_filterMap]
  constructor
  · rintro ⟨p, hp, hl⟩
    obtain ⟨pad, hpad⟩ := List.getElem?_of_mem hp
    exact ⟨pad, p, hpad, hl⟩
  · rintro ⟨pad, p, hp, hl⟩
    exact ⟨p, List.mem_of_getElem? hp, hl⟩

theorem mem_inputLinks {k i : Nat} {n : Node} (hn : g.nodes[k]? = some n) :
    i ∈ n.inputLinks ↔ ∃ pad, g.bound? ⟨k, .input, pad⟩ = some i := mem_padLinks hn .input

theorem mem_outputLinks {k i : Nat} {n : Node} (hn : g.nodes[k]? = some n) :
    i ∈ n.outputLinks ↔ ∃ pad, g.bound? ⟨k, .output, pad⟩ = some i := mem_padLinks hn .output

/-- The links at the input pads of a node are those that end there. -/
theorem Wired.mem_inputLinks_iff (h : g.Wired) {k i : Nat} {n : Node} (hn : g.nodes[k]? = some n) :
    i ∈ n.inputLinks ↔ ∃ l, g.links[i]? = some l ∧ l.dst = k := by
  rw [mem_inputLinks hn]
  constructor
  · intro ⟨pad, hb⟩
    obtain ⟨l, hl, hport⟩ := h.pads hb
    exact ⟨l, hl, congrArg Port.node hport⟩
  · intro ⟨l, hl, e⟩
    exact ⟨l.dstPad, e ▸ h.ends hl .input⟩

/-- Two links that name one pad are one link. -/
theorem Wired.port_injective (h : g.Wired) {i j : Nat} {l m : Link} (hi : g.links[i]? = some l)
    (hj : g.links[j]? = some m) {d e : Direction} (he : l.port d = m.port e) : i = j := by
  have := h.ends hi d
  rw [he, h.ends hj e] at this
  exact (Option.some.inj this).symm

/-! ## What the edits do to pads and bindings -/

theorem padAt?_bindPad (g : Graph) (q : Port) (link : Option Nat) (p : Port) :
    (g.bindPad q.node q.direction q.pad link).padAt? p =
      if p = q then (g.padAt? p).map ({ · with link }) else g.padAt? p := by
  simp only [padAt?, pad?_bindPad]
  by_cases h : p = q
  · subst h; simp
  · rw [if_neg h, if_neg]
    intro he
    obtain ⟨h1, h2, h3⟩ := he
    cases p; cases q; simp_all

theorem bound?_bindPad {q : Port} (hq : (g.padAt? q).isSome) (link : Option Nat) (p : Port) :
    (g.bindPad q.node q.direction q.pad link).bound? p = if p = q then link else g.bound? p := by
  simp only [bound?, padAt?_bindPad]
  by_cases h : p = q
  · subst h
    obtain ⟨pad, hp⟩ := Option.isSome_iff_exists.mp hq
    simp [hp]
  · simp [h]

theorem padAt?_isSome_bindPad (q : Port) (link : Option Nat) (p : Port) :
    ((g.bindPad q.node q.direction q.pad link).padAt? p).isSome = (g.padAt? p).isSome := by
  rw [padAt?_bindPad]
  split <;> simp

@[simp] theorem links_bindPad (g : Graph) (node : Nat) (d : Direction) (pad : Nat) (link : Option Nat) :
    (g.bindPad node d pad link).links = g.links := rfl

@[simp] theorem length_nodes_bindPad (g : Graph) (node : Nat) (d : Direction) (pad : Nat) (link : Option Nat) :
    (g.bindPad node d pad link).nodes.length = g.nodes.length := by simp [bindPad]

theorem detached_bindPad (g : Graph) (node : Nat) (d : Direction) (pad : Nat) (link : Option Nat) :
    (g.bindPad node d pad link).nodes.map Node.detached = g.nodes.map Node.detached := by
  refine List.ext_getElem? fun i => ?_
  simp only [bindPad, List.getElem?_map, List.getElem?_modify]
  cases g.nodes[i]? with
  | none => rfl
  | some n =>
    by_cases h : node = i
    · simp [h, Node.detached_bind]
    · simp [h]

/-- Kinds do not depend on bindings. -/
theorem kindAt?_congr (h : g'.nodes.map Node.detached = g.nodes.map Node.detached) (p : Port) :
    g'.kindAt? p = g.kindAt? p := by
  have kind : ∀ g : Graph, g.kindAt? p =
      ((g.nodes.map Node.detached)[p.node]? >>= fun n => (n.pads p.direction)[p.pad]?).map (·.kind) := by
    intro g
    simp only [kindAt?, padAt?, pad?, List.getElem?_map]
    cases g.nodes[p.node]? with
    | none => rfl
    | some n =>
      cases p.direction <;>
        simp [Node.pads, Node.detached, Option.map_map, Function.comp_def]
  rw [kind, kind, h]

theorem padAt?_addNode (g : Graph) (n : Node) (p : Port) :
    (g.addNode n).padAt? p = if p.node = g.nodes.length then (n.pads p.direction)[p.pad]? else g.padAt? p := by
  simp only [padAt?, pad?, addNode]
  by_cases h : p.node = g.nodes.length
  · simp [h]
  · rw [if_neg h]
    by_cases hl : p.node < g.nodes.length
    · rw [List.getElem?_append_left hl]
    · rw [List.getElem?_eq_none (by simp; omega), List.getElem?_eq_none (by omega)]

theorem bound?_addNode {n : Node} (hn : n.Unbound) (p : Port) : (g.addNode n).bound? p = g.bound? p := by
  simp only [bound?, padAt?_addNode]
  split
  · rename_i h
    have hg : g.padAt? p = none := by simp [padAt?, pad?, h]
    rw [hg]
    cases hp : (n.pads p.direction)[p.pad]? with
    | none => rfl
    | some pad => exact hn _ _ (List.mem_of_getElem? hp)
  · rfl

/-- The pads of the node just added are free. -/
theorem bound?_added {n : Node} (hn : n.Unbound) (d : Direction) (pad : Nat) :
    (g.addNode n).bound? ⟨g.nodes.length, d, pad⟩ = none := by
  rw [bound?_addNode hn]
  cases hb : g.bound? ⟨g.nodes.length, d, pad⟩ with
  | none => rfl
  | some i => exact absurd (node_lt_of_bound hb) (Nat.lt_irrefl _)

theorem padAt?_addNode_of_isSome {p : Port} (n : Node) (hp : (g.padAt? p).isSome) :
    (g.addNode n).padAt? p = g.padAt? p := by
  rw [padAt?_addNode, if_neg]
  intro h
  simp [padAt?, pad?, h] at hp

theorem freePad_ok {node : Nat} {d : Direction} {pad : Nat} {n : Node} {p : Pad}
    (h : g.freePad node d pad = .ok (n, p)) : g.padAt? ⟨node, d, pad⟩ = some p ∧ g.bound? ⟨node, d, pad⟩ = none := by
  simp only [bound?, padAt?, pad?]
  unfold freePad at h
  split at h
  · cases h
  rename_i hn
  split at h
  · cases h
  rename_i hp
  split at h
  · cases h
  rename_i hl
  cases h
  simpa [hn, hp, Pad.isLinked] using hl

theorem freePad_error {node : Nat} {d : Direction} {pad : Nat} {e : Error} (h : g.freePad node d pad = .error e) :
    e.OfBinding := by
  unfold freePad at h
  split at h
  · cases h; trivial
  split at h
  · cases h; trivial
  split at h
  · cases h; trivial
  · cases h

/-! ## Appending a link -/

theorem padAt?_isSome_pushLink (l : Link) (p : Port) : ((g.pushLink l).padAt? p).isSome = (g.padAt? p).isSome := by
  have h1 := padAt?_isSome_bindPad (g := { g with links := g.links ++ [l] }) (l.port .output) (some g.links.length) p
  have h2 := padAt?_isSome_bindPad
    (g := { g with links := g.links ++ [l] }.bindPad l.src .output l.srcPad (some g.links.length))
    (l.port .input) (some g.links.length) p
  exact h2.trans h1

theorem bound?_pushLink {l : Link} (h : ∀ d, (g.padAt? (l.port d)).isSome) (p : Port) :
    (g.pushLink l).bound? p = if p = l.port p.direction then some g.links.length else g.bound? p := by
  let g₁ : Graph := { g with links := g.links ++ [l] }
  let g₂ := g₁.bindPad l.src .output l.srcPad (some g.links.length)
  have h1 : ∀ q, g₂.bound? q = if q = l.port .output then some g.links.length else g.bound? q :=
    bound?_bindPad (g := g₁) (q := l.port .output) (h .output) _
  have h2 : (g.pushLink l).bound? p = if p = l.port .input then some g.links.length else g₂.bound? p := by
    refine bound?_bindPad (g := g₂) (q := l.port .input) ?_ _ p
    rw [show (g₂.padAt? (l.port .input)).isSome = (g₁.padAt? (l.port .input)).isSome from
      padAt?_isSome_bindPad (l.port .output) _ _]
    exact h .input
  rw [h2, h1]
  have hd : ∀ d, p = l.port d → p.direction = d := fun d e => by rw [e, Link.port_direction]
  cases hp : p.direction with
  | input =>
    have : p ≠ l.port .output := fun e => by have := hd _ e; simp_all
    rw [if_neg this]
  | output =>
    have : p ≠ l.port .input := fun e => by have := hd _ e; simp_all
    rw [if_neg this]

@[simp] theorem links_pushLink (l : Link) : (g.pushLink l).links = g.links ++ [l] := rfl

@[simp] theorem length_nodes_pushLink (l : Link) : (g.pushLink l).nodes.length = g.nodes.length := by simp [pushLink]

theorem detached_pushLink (l : Link) : (g.pushLink l).nodes.map Node.detached = g.nodes.map Node.detached := by
  rw [pushLink, detached_bindPad, detached_bindPad]

theorem Wired.pushLink (hg : g.Wired) {l : Link} (hp : ∀ d, (g.padAt? (l.port d)).isSome)
    (hf : ∀ d, g.bound? (l.port d) = none) : (g.pushLink l).Wired := by
  constructor
  · intro i m hm d
    rw [bound?_pushLink hp, Link.port_direction]
    rw [links_pushLink, List.getElem?_append] at hm
    split at hm
    · have hb := hg.ends hm d
      rw [if_neg, hb]
      intro e
      rw [e, hf] at hb
      cases hb
    · obtain ⟨hi, rfl⟩ := List.getElem?_eq_some_iff.mp hm
      simp only [List.length_singleton] at hi
      rw [if_pos]
      · congr 1; omega
      · simp
  · intro p i hi
    rw [bound?_pushLink hp] at hi
    split at hi
    · rename_i e
      cases hi
      exact ⟨l, by simp, e.symm⟩
    · obtain ⟨m, hm, e⟩ := hg.pads hi
      exact ⟨m, by rw [links_pushLink, List.getElem?_append_left (hg.bound_lt hi), hm], e⟩

theorem link_ok {src srcPad dst dstPad j : Nat} (h : g.link src srcPad dst dstPad = .ok (j, g')) :
    ∃ kind, (∀ d, g.kindAt? (Link.port ⟨src, srcPad, dst, dstPad, .ofKind kind, .unconfigured⟩ d) = some kind ∧
        g.bound? (Link.port ⟨src, srcPad, dst, dstPad, .ofKind kind, .unconfigured⟩ d) = none) ∧
      j = g.links.length ∧ g' = g.pushLink ⟨src, srcPad, dst, dstPad, .ofKind kind, .unconfigured⟩ := by
  unfold link at h
  cases hs : g.freePad src .output srcPad with
  | error e => rw [hs] at h; cases h
  | ok s =>
    cases hd : g.freePad dst .input dstPad with
    | error e => rw [hs, hd] at h; cases h
    | ok t =>
      rw [hs, hd] at h
      simp only [bind, Except.bind] at h
      split at h
      · rename_i hkind
        cases h
        obtain ⟨hs1, hs2⟩ := freePad_ok hs
        obtain ⟨hd1, hd2⟩ := freePad_ok hd
        refine ⟨_, fun d => ?_, rfl, rfl⟩
        cases d
        · exact ⟨by simp [Link.port, kindAt?, hd1, hkind], hd2⟩
        · exact ⟨by simp [Link.port, kindAt?, hs1], hs2⟩
      · cases h

theorem link_error {src srcPad dst dstPad : Nat} {e : Error} (h : g.link src srcPad dst dstPad = .error e) :
    e.OfBinding := by
  unfold link at h
  cases hs : g.freePad src .output srcPad with
  | error e' => rw [hs] at h; cases h; exact freePad_error hs
  | ok s =>
    cases hd : g.freePad dst .input dstPad with
    | error e' => rw [hs, hd] at h; cases h; exact freePad_error hd
    | ok t =>
      rw [hs, hd] at h
      simp only [bind, Except.bind] at h
      split at h
      · cases h
      · cases h; trivial

/-! ## Splicing a node into a link -/

/-- `g'` is `g` with a node spliced into the link numbered `link`, which was `l`. -/
structure Spliced (g : Graph) (link node inPad outPad : Nat) (l : Link) (g' : Graph) : Prop where
  found : g.links[link]? = some l
  inFree : g.bound? ⟨node, .input, inPad⟩ = none
  outFree : g.bound? ⟨node, .output, outPad⟩ = none
  links : g'.links = g.links.set link { l with dst := node, dstPad := inPad } ++
    [⟨node, outPad, l.dst, l.dstPad, .ofKind l.kind, .unconfigured⟩]
  nodes : g'.nodes.length = g.nodes.length
  bound : ∀ p, g'.bound? p =
    if p = ⟨node, .input, inPad⟩ then some link
    else if p = ⟨node, .output, outPad⟩ ∨ p = l.port .input then some g.links.length
    else g.bound? p
  detached : g'.nodes.map Node.detached = g.nodes.map Node.detached
  inKind : g.kindAt? ⟨node, .input, inPad⟩ = some l.kind
  outKind : g.kindAt? ⟨node, .output, outPad⟩ = some l.kind

/-- What was bound to the pad the link ended at is bound to the new link, which `down` is. -/
theorem bound?_splice {l : Link} {link node inPad outPad : Nat} (hd : (g.padAt? (l.port .input)).isSome)
    (hi : (g.padAt? ⟨node, .input, inPad⟩).isSome) (ho : (g.padAt? ⟨node, .output, outPad⟩).isSome) (p : Port) :
    (((g.bindPad l.dst .input l.dstPad none).pushLink
        ⟨node, outPad, l.dst, l.dstPad, .ofKind l.kind, .unconfigured⟩).redirect link node inPad).bound? p =
      if p = ⟨node, .input, inPad⟩ then some link
      else if p = ⟨node, .output, outPad⟩ ∨ p = l.port .input then some g.links.length
      else g.bound? p := by
  let down : Link := ⟨node, outPad, l.dst, l.dstPad, .ofKind l.kind, .unconfigured⟩
  let g₁ := g.bindPad l.dst .input l.dstPad none
  let g₂ := (g₁.pushLink down).modifyLink link ({ · with dst := node, dstPad := inPad })
  have s1 : ∀ q, (g₁.padAt? q).isSome = (g.padAt? q).isSome := padAt?_isSome_bindPad (l.port .input) none
  have s2 : (g₂.padAt? ⟨node, .input, inPad⟩).isSome = (g₁.padAt? ⟨node, .input, inPad⟩).isSome :=
    padAt?_isSome_pushLink (g := g₁) down _
  have h1 : ∀ q, g₁.bound? q = if q = l.port .input then none else g.bound? q :=
    bound?_bindPad (q := l.port .input) hd none
  have h2 : ∀ q, g₂.bound? q = if q = down.port q.direction then some g.links.length else g₁.bound? q :=
    bound?_pushLink (g := g₁) fun d => by rw [s1]; cases d <;> assumption
  have h3 : ∀ q, (g₂.bindPad node .input inPad (some link)).bound? q =
      if q = ⟨node, .input, inPad⟩ then some link else g₂.bound? q :=
    bound?_bindPad (g := g₂) (q := ⟨node, .input, inPad⟩) (by rw [s2, s1, hi]) _
  show (g₂.bindPad node .input inPad (some link)).bound? p = _
  rw [h3, h2, h1]
  have ne : ∀ (q : Port) (d : Direction), p.direction = d → q.direction ≠ d → p ≠ q :=
    fun q d hp hq e => hq (e ▸ hp)
  cases hp : p.direction with
  | input =>
    have e : down.port .input = l.port .input := rfl
    simp only [e, ne ⟨node, .output, outPad⟩ .input hp (by simp), false_or]
    by_cases hq : p = l.port .input <;> simp [hq]
  | output =>
    have e : down.port .output = ⟨node, .output, outPad⟩ := rfl
    simp [e, ne (l.port .input) .output hp (by simp)]

theorem insert_ok {link node inPad outPad j : Nat} (h : g.insert link node inPad outPad = .ok (j, g')) :
    j = g.links.length ∧ ∃ l, g.Spliced link node inPad outPad l g' := by
  unfold insert at h
  cases hl : g.links[link]? with
  | none => rw [hl] at h; cases h
  | some l =>
    cases hi : g.freePad node .input inPad with
    | error e => rw [hl, hi] at h; cases h
    | ok s =>
      cases ho : g.freePad node .output outPad with
      | error e => rw [hl, hi, ho] at h; cases h
      | ok t =>
        rw [hl, hi, ho] at h
        simp only [bind, Except.bind] at h
        split at h
        · rename_i hkinds
          split at h
          · cases h
          · rename_i hd
            cases h
            obtain ⟨hi1, hi2⟩ := freePad_ok hi
            obtain ⟨ho1, ho2⟩ := freePad_ok ho
            have hd' : (g.padAt? (l.port .input)).isSome := by
              simpa [Option.isSome_iff_ne_none, padAt?, Link.port] using hd
            refine ⟨rfl, l, hl, hi2, ho2, ?links, by simp [redirect, modifyLink],
              bound?_splice hd' (by simp [hi1]) (by simp [ho1]), ?detached, by simp [kindAt?, hi1, hkinds.1],
              by simp [kindAt?, ho1, hkinds.2]⟩
            case links =>
              obtain ⟨hlt, hget⟩ := List.getElem?_eq_some_iff.mp hl
              refine List.ext_getElem? fun i => ?_
              simp only [redirect, links_bindPad, modifyLink, links_pushLink, List.getElem?_modify,
                List.getElem?_append, List.getElem?_set, List.length_set]
              by_cases e : link = i
              · subst e; simp [hlt, hget]
              · simp [e]
            case detached =>
              rw [redirect, detached_bindPad, modifyLink, detached_pushLink, detached_bindPad]
        · cases h

namespace Spliced

variable {link node inPad outPad : Nat} {l : Link} (h : g.Spliced link node inPad outPad l g')
include h

/-- The links after a splice: the one that leads to the node now, the others, and the new one. -/
theorem links_iff {i : Nat} {m : Link} : g'.links[i]? = some m ↔
    i = link ∧ m = { l with dst := node, dstPad := inPad } ∨ i ≠ link ∧ g.links[i]? = some m ∨
      i = g.links.length ∧ m = ⟨node, outPad, l.dst, l.dstPad, .ofKind l.kind, .unconfigured⟩ := by
  have hlt := (List.getElem?_eq_some_iff.mp h.found).1
  rw [h.links, List.getElem?_append, List.length_set]
  by_cases hi : i < g.links.length
  · have hne : i ≠ g.links.length := by omega
    rw [if_pos hi, List.getElem?_set]
    by_cases e : link = i
    · subst e
      simp [hlt, hne, eq_comm]
    · simp [e, Ne.symm e, hne]
  · have hne : i ≠ link := by omega
    have hout : g.links[i]? = none := List.getElem?_eq_none (by omega)
    rw [if_neg hi, hout]
    by_cases e : i = g.links.length
    · subst e
      simp [hne, eq_comm]
    · have hpos : i - g.links.length = (i - g.links.length - 1) + 1 := by omega
      rw [hpos]
      simp [hne, e]

theorem length_links : g'.links.length = g.links.length + 1 := by rw [h.links]; simp

theorem link_self : g'.links[link]? = some { l with dst := node, dstPad := inPad } :=
  h.links_iff.mpr (Or.inl ⟨rfl, rfl⟩)

theorem link_new : g'.links[g.links.length]? = some ⟨node, outPad, l.dst, l.dstPad, .ofKind l.kind, .unconfigured⟩ :=
  h.links_iff.mpr (Or.inr (Or.inr ⟨rfl, rfl⟩))

theorem link_of_ne {i : Nat} (hne : i ≠ link) (hi : i < g.links.length) : g'.links[i]? = g.links[i]? := by
  rw [h.links, List.getElem?_append_left (by rw [List.length_set]; exact hi), List.getElem?_set_ne (Ne.symm hne)]

/-- A pad bound before is none of the free pads of the node spliced in. -/
theorem ne_of_bound {q : Port} {i : Nat} (hq : g.bound? q = some i) :
    q ≠ ⟨node, .input, inPad⟩ ∧ q ≠ ⟨node, .output, outPad⟩ := by
  constructor
  · intro e
    rw [e, h.inFree] at hq
    cases hq
  · intro e
    rw [e, h.outFree] at hq
    cases hq

end Spliced

theorem Wired.splice (hg : g.Wired) {link node inPad outPad : Nat} {l : Link}
    (h : g.Spliced link node inPad outPad l g') : g'.Wired := by
  constructor
  · intro i m hm d
    rw [h.bound]
    rcases h.links_iff.mp hm with ⟨rfl, rfl⟩ | ⟨hne, hm⟩ | ⟨rfl, rfl⟩
    · cases d with
      | input => simp [Link.port]
      | output =>
        have hb := hg.ends h.found .output
        obtain ⟨-, hout⟩ := h.ne_of_bound hb
        simp only [Link.port] at hb hout ⊢
        simp [hout, hb]
    · have hb := hg.ends hm d
      obtain ⟨hin, hout⟩ := h.ne_of_bound hb
      have hother : m.port d ≠ l.port .input := fun e => hne (hg.port_injective hm h.found e)
      simp [hin, hout, hother, hb]
    · cases d with
      | input =>
        obtain ⟨hin, -⟩ := h.ne_of_bound (hg.ends h.found .input)
        simp only [Link.port] at hin ⊢
        simp [hin]
      | output => simp [Link.port]
  · intro p i hi
    rw [h.bound] at hi
    split at hi
    · rename_i e
      cases hi
      subst e
      exact ⟨_, h.links_iff.mpr (Or.inl ⟨rfl, rfl⟩), rfl⟩
    · split at hi
      · rename_i e
        cases hi
        refine ⟨_, h.links_iff.mpr (Or.inr (Or.inr ⟨rfl, rfl⟩)), ?_⟩
        rcases e with e | e <;> subst e <;> rfl
      · rename_i hne
        obtain ⟨m, hm, hport⟩ := hg.pads hi
        by_cases e : i = link
        · subst e
          rw [h.found] at hm
          cases hm
          refine ⟨_, h.links_iff.mpr (Or.inl ⟨rfl, rfl⟩), ?_⟩
          -- The link kept its source pad; its old destination pad is bound to the new link.
          cases hp : p.direction with
          | input =>
            rw [hp] at hport
            exact absurd (Or.inr hport.symm) hne
          | output =>
            rw [hp] at hport
            exact hport
        · exact ⟨m, h.links_iff.mpr (Or.inr (Or.inl ⟨e, hm⟩)), hport⟩

/-- In a wired graph the pad a link ends at is there. -/
theorem Wired.insert_error (hg : g.Wired) {link node inPad outPad : Nat} {e : Error}
    (h : g.insert link node inPad outPad = .error e) : e.OfBinding := by
  unfold insert at h
  cases hl : g.links[link]? with
  | none => rw [hl] at h; cases h; trivial
  | some l =>
    cases hi : g.freePad node .input inPad with
    | error e' => rw [hl, hi] at h; cases h; exact freePad_error hi
    | ok s =>
      cases ho : g.freePad node .output outPad with
      | error e' => rw [hl, hi, ho] at h; cases h; exact freePad_error ho
      | ok t =>
        rw [hl, hi, ho] at h
        simp only [bind, Except.bind] at h
        split at h
        · split at h
          · rename_i hd
            have hp := padAt?_isSome_of_bound (hg.ends hl .input)
            rw [padAt?, Link.port, Option.isSome_iff_ne_none] at hp
            exact absurd (Option.isNone_iff_eq_none.mp hd) hp
          · cases h
        · cases h; trivial

/-! ## Edits of what a link carries -/

theorem getElem?_modifyLink (g : Graph) (link : Nat) (f : Link → Link) (i : Nat) :
    (g.modifyLink link f).links[i]? = if link = i then (g.links[i]?).map f else g.links[i]? := by
  simp only [Graph.modifyLink, List.getElem?_modify]
  split <;> cases g.links[i]? <;> rfl

theorem getElem?_modifyLink_self {i : Nat} {l : Link} (hl : g.links[i]? = some l) (f : Link → Link) :
    (g.modifyLink i f).links[i]? = some (f l) := by
  rw [getElem?_modifyLink, if_pos rfl, hl]
  rfl

theorem getElem?_modifyLink_of_ne {link i : Nat} (hi : i ≠ link) (f : Link → Link) :
    (g.modifyLink link f).links[i]? = g.links[i]? := by
  rw [getElem?_modifyLink, if_neg (Ne.symm hi)]

theorem length_links_modifyLink (g : Graph) (link : Nat) (f : Link → Link) :
    (g.modifyLink link f).links.length = g.links.length := List.length_modify ..

theorem modifyLink_modifyLink (g : Graph) (link : Nat) (f f' : Link → Link) :
    (g.modifyLink link f).modifyLink link f' = g.modifyLink link fun l => f' (f l) :=
  congrArg (Graph.mk g.nodes) (List.modify_modify_eq f f' link g.links)

/-- A change of links that leaves their ends where they are, with the nodes untouched. -/
theorem Wired.of_ports (hg : g.Wired) (hn : g'.nodes = g.nodes)
    (hl : ∀ i : Nat, (g'.links[i]?).map Link.port = (g.links[i]?).map Link.port) : g'.Wired := by
  have hb : ∀ p, g'.bound? p = g.bound? p := fun p => by simp only [bound?, padAt?, pad?, hn]
  constructor
  · intro i m hm d
    have := hl i
    rw [hm] at this
    obtain ⟨l, hl', e⟩ := Option.map_eq_some_iff.mp this.symm
    rw [hb, ← e]
    exact hg.ends hl' d
  · intro p i hi
    rw [hb] at hi
    obtain ⟨l, hl', e⟩ := hg.pads hi
    have := hl i
    rw [hl'] at this
    obtain ⟨m, hm, e'⟩ := Option.map_eq_some_iff.mp this
    exact ⟨m, hm, by rw [e', e]⟩

theorem Wired.modifyLink (hg : g.Wired) (link : Nat) {f : Link → Link} (hf : ∀ l, (f l).port = l.port) :
    (g.modifyLink link f).Wired := by
  refine hg.of_ports rfl fun i => ?_
  rw [getElem?_modifyLink]
  split
  · cases g.links[i]? with
    | none => rfl
    | some l => exact congrArg some (hf l)
  · rfl

theorem unformatted_modifyLink (g : Graph) (link : Nat) {f : Link → Link}
    (hf : ∀ l, (f l).unformatted = l.unformatted) : (g.modifyLink link f).unformatted = g.unformatted := by
  refine congrArg (Graph.mk g.nodes) (List.ext_getElem? fun i => ?_)
  rw [List.getElem?_map, List.getElem?_map, getElem?_modifyLink]
  split
  · cases g.links[i]? with
    | none => rfl
    | some l => exact congrArg some (hf l)
  · rfl

theorem nodes_of_unformatted (h : g'.unformatted = g.unformatted) : g'.nodes = g.nodes := by
  have hn := congrArg nodes h
  exact hn

theorem ports_of_unformatted (h : g'.unformatted = g.unformatted) (i : Nat) :
    (g'.links[i]?).map Link.port = (g.links[i]?).map Link.port := by
  have hl := congrArg (fun g => (g.links[i]?).map Link.port) h
  simp only [unformatted, List.getElem?_map, Option.map_map] at hl
  exact hl

theorem Wired.addNode (hg : g.Wired) {n : Node} (hn : n.Unbound) : (g.addNode n).Wired := by
  constructor
  · intro i l hl d
    rw [bound?_addNode hn]
    exact hg.ends hl d
  · intro p i hi
    rw [bound?_addNode hn] at hi
    exact hg.pads hi

/-! ## Kinds -/

/-- A link and the pads at its ends are of one kind. -/
def Matched (g : Graph) : Prop :=
  ∀ (i : Nat) (l : Link), g.links[i]? = some l → ∀ d, g.kindAt? (l.port d) = some l.kind

theorem Matched.addNode (hg : g.Matched) (n : Node) : (g.addNode n).Matched := by
  intro i l hl d
  have hk := hg i l hl d
  obtain ⟨p, hp, -⟩ := Option.map_eq_some_iff.mp hk
  rw [kindAt?, padAt?_addNode_of_isSome n (by rw [hp]; rfl)]
  exact hk

theorem Matched.pushLink (hg : g.Matched) {l : Link} (hl : ∀ d, g.kindAt? (l.port d) = some l.kind) :
    (g.pushLink l).Matched := by
  intro i m hm d
  rw [kindAt?_congr (detached_pushLink l)]
  rw [links_pushLink, List.getElem?_append] at hm
  split at hm
  · exact hg i m hm d
  · have hi := List.mem_singleton.mp (List.mem_of_getElem? hm)
    rw [hi]
    exact hl d

theorem Matched.splice (hg : g.Matched) {link node inPad outPad : Nat} {l : Link}
    (h : g.Spliced link node inPad outPad l g') : g'.Matched := by
  intro i m hm d
  rw [kindAt?_congr h.detached]
  rcases h.links_iff.mp hm with ⟨rfl, rfl⟩ | ⟨-, hm⟩ | ⟨rfl, rfl⟩
  · cases d with
    | input => exact h.inKind
    | output => exact hg _ _ h.found .output
  · exact hg _ _ hm d
  · cases d with
    | input => exact hg _ _ h.found .input
    | output => exact h.outKind

theorem Matched.modifyLink (hg : g.Matched) (link : Nat) {f : Link → Link}
    (hf : ∀ l, g.links[link]? = some l → (f l).port = l.port ∧ (f l).kind = l.kind) :
    (g.modifyLink link f).Matched := by
  intro i l hl d
  have pads : ∀ p, (g.modifyLink link f).kindAt? p = g.kindAt? p := fun _ => rfl
  rw [getElem?_modifyLink] at hl
  rw [pads]
  split at hl
  · rename_i e
    obtain ⟨k, hk, rfl⟩ := Option.map_eq_some_iff.mp hl
    obtain ⟨hport, hkind⟩ := hf k (by rw [e]; exact hk)
    rw [hport, hkind]
    exact hg _ _ hk d
  · exact hg i l hl d

theorem matched_empty : Matched {} := fun _ _ h => by simp at h

theorem wired_empty : Wired {} := ⟨fun h => by simp at h, fun h => by simp [bound?, padAt?, pad?] at h⟩

end Graph

end MediaGraph

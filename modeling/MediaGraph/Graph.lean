/-
  MediaGraph.Graph — filter instances, and the links between their pads.

  Nodes and links are known by their number, which counts those before them, and
  are never removed one by one. A binding is written down twice: the link names a
  pad at each end, and the pad names the link. `link` and `insert` keep the two in
  step, and change nothing when they fail.
-/

import MediaGraph.Error
import MediaGraph.Filter.Registry

namespace MediaGraph

/-! ## Nodes -/

structure Node where
  name : Option String
  type : FilterType
  inputs : List Pad
  outputs : List Pad
  serial : Nat
  filter : Filter

namespace Node

/-- A fresh instance, with a free pad for every template. -/
def ofType (type : FilterType) (name : Option String) (serial : Nat) : Node where
  name
  type
  inputs := Pad.ofTemplates type.inputs
  outputs := Pad.ofTemplates type.outputs
  serial
  filter := type.fresh

/-- The instance name, or for an anonymous node the name of its type. -/
def display (n : Node) : String := n.name.getD n.type.name

def pads (n : Node) : Direction → List Pad
  | .input => n.inputs
  | .output => n.outputs

def layout (n : Node) : Layout := ⟨n.inputs.map (·.kind), n.outputs.map (·.kind)⟩

/-- The links bound to the input pads, in pad order. -/
def inputLinks (n : Node) : List Nat := n.inputs.filterMap (·.link)

/-- The links bound to the output pads, in pad order. -/
def outputLinks (n : Node) : List Nat := n.outputs.filterMap (·.link)

def isSink (n : Node) : Bool := n.outputs.isEmpty

/-- Bind one pad to a link, or free it. -/
def bind (n : Node) (d : Direction) (pad : Nat) (link : Option Nat) : Node :=
  match d with
  | .input => { n with inputs := n.inputs.modify pad ({ · with link }) }
  | .output => { n with outputs := n.outputs.modify pad ({ · with link }) }

end Node

/-! ## Graphs -/

structure Graph where
  nodes : List Node := []
  links : List Link := []

namespace Graph

def pad? (g : Graph) (node : Nat) (d : Direction) (pad : Nat) : Option Pad :=
  g.nodes[node]? >>= fun n => (n.pads d)[pad]?

/-- The first node of a name. Anonymous nodes have none. -/
def find? (g : Graph) (name : String) : Option Nat := g.nodes.findIdx? (·.name = some name)

def addNode (g : Graph) (n : Node) : Graph := { g with nodes := g.nodes ++ [n] }

def bindPad (g : Graph) (node : Nat) (d : Direction) (pad : Nat) (link : Option Nat) : Graph :=
  { g with nodes := g.nodes.modify node (·.bind d pad link) }

def modifyLink (g : Graph) (link : Nat) (f : Link → Link) : Graph :=
  { g with links := g.links.modify link f }

/-- Append a link and bind the pads at its ends. -/
def pushLink (g : Graph) (l : Link) : Graph :=
  ({ g with links := g.links ++ [l] }.bindPad l.src .output l.srcPad (some g.links.length)).bindPad
    l.dst .input l.dstPad (some g.links.length)

theorem pads_bind (n : Node) (d e : Direction) (pad : Nat) (link : Option Nat) :
    (n.bind d pad link).pads e = if d = e then (n.pads e).modify pad ({ · with link }) else n.pads e := by
  cases d <;> cases e <;> rfl

theorem pad?_bindPad (g : Graph) (node m : Nat) (d e : Direction) (pad q : Nat) (link : Option Nat) :
    (g.bindPad node d pad link).pad? m e q =
      if node = m ∧ d = e ∧ pad = q then (g.pad? m e q).map ({ · with link }) else g.pad? m e q := by
  simp only [pad?, bindPad, List.getElem?_modify]
  cases g.nodes[m]? with
  | none => simp
  | some n =>
    by_cases h : node = m
    · simp only [h, if_true, Option.map_eq_map, Option.map_some, Option.bind_eq_bind, Option.bind_some, pads_bind]
      by_cases hd : d = e
      · by_cases hp : pad = q <;> simp [hd, hp]
      · simp [hd]
    · simp [h]

/-- A pad that exists and is bound to nothing, with its node. -/
def freePad (g : Graph) (node : Nat) (d : Direction) (pad : Nat) : Except Error (Node × Pad) :=
  match g.nodes[node]? with
  | none => .error (.unknownNode node)
  | some n =>
    match (n.pads d)[pad]? with
    | none => .error (.noPad n.display d pad)
    | some p => if p.isLinked then .error (.padTaken n.display d p.name) else .ok (n, p)

/-- Link a free output pad to a free input pad of the same kind. The new link has the last number. -/
def link (g : Graph) (src srcPad dst dstPad : Nat) :
    Except Error (Nat × Graph) := do
  let (s, out) ← g.freePad src .output srcPad
  let (d, inp) ← g.freePad dst .input dstPad
  if out.kind = inp.kind then
    .ok (g.links.length, g.pushLink { src, srcPad, dst, dstPad, props := .ofKind out.kind })
  else
    .error (.kindMismatch s.display out.kind d.display inp.kind)

/-- Let a link end at another input pad. -/
def redirect (g : Graph) (link dst dstPad : Nat) : Graph :=
  (g.modifyLink link ({ · with dst, dstPad })).bindPad dst .input dstPad (some link)

/-- Splice a node into a link: the link ends at the node's input pad, and a new link runs from the
node's output pad to where the link ended before. -/
def insert (g : Graph) (link node inPad outPad : Nat) :
    Except Error (Nat × Graph) := do
  let some l := g.links[link]? | .error (.unknownLink link)
  let (n, inp) ← g.freePad node .input inPad
  let (_, out) ← g.freePad node .output outPad
  if inp.kind = l.kind ∧ out.kind = l.kind then
    if (g.pad? l.dst .input l.dstPad).isNone then .error .corrupt
    else
      let downstream : Link :=
        { src := node, srcPad := outPad, dst := l.dst, dstPad := l.dstPad, props := .ofKind l.kind }
      .ok (g.links.length,
        ((g.bindPad l.dst .input l.dstPad none).pushLink downstream).redirect link node inPad)
  else
    .error (.wrongKind n.display l.kind)

end Graph

end MediaGraph

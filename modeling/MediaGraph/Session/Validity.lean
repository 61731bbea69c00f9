/-
  MediaGraph.Session.Validity — a graph is valid when every pad is linked.

  Nodes are looked at in order, inputs before outputs; the first pad without a
  link is the one reported.
-/

import MediaGraph.Session

namespace MediaGraph

/-- The first free pad, inputs before outputs. -/
def Node.freePad? (n : Node) : Option (Direction × Pad) :=
  match n.inputs.find? (! ·.isLinked) with
  | some p => some (.input, p)
  | none => (n.outputs.find? (! ·.isLinked)).map (.output, ·)

/-- The first free pad of any node, with its node. -/
def Graph.freePad? (g : Graph) : Option (Node × Direction × Pad) :=
  g.nodes.findSome? fun n => n.freePad?.map (n, ·)

def Session.validate : Action Session Unit := do
  match ← Action.read (·.graph.freePad?) with
  | none => pure ()
  | some (n, d, p) => do
    notice (.unconnected d p.name n.display n.type.name)
    .fail (.unconnected d p.name n.display n.type.name)

end MediaGraph

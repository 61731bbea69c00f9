/-
  MediaGraph.Session.Propagation — dimensions and rates flow from the sources down.

  The walk starts at each sink, a node without output pads, and goes against the
  flow. Before a link is configured its source node's input links are; then the
  source computes the properties of the link from theirs, and the destination
  accepts them. A link met again while it is being configured closes a cycle: it
  is left to the walk that is at it.

  Every step of the walk marks one more link as being configured, so the walk is
  no deeper than the number of unconfigured links.
-/

import MediaGraph.Session

namespace MediaGraph

/-- The properties of the links bound to a node's inputs, in pad order. -/
def Graph.inputProps (g : Graph) (n : Node) : List LinkProps :=
  n.inputLinks.filterMap fun l => g.links[l]?.map (·.props)

def Graph.unconfigured (g : Graph) : Nat := g.links.countP (·.state = .unconfigured)

namespace Session

/-- The source computes the properties of a link, the destination accepts them. -/
def settle (link src srcPad dst dstPad : Nat) : Action Session Unit := do
  let source ← nodeAt src
  let inputs ← Action.read (·.graph.inputProps source)
  let given ← linkAt link
  let (props, answer) ← configOutput source srcPad given.props inputs
  match answer with
  | .refused r => do
    notice (.outputFailed source.display srcPad r)
    .fail (.reported r)
  | .done => do
    updateLink link ({ · with props })
    let destination ← nodeAt dst
    match ← configInput destination dstPad props with
    | .refused r => do
      notice (.inputFailed destination.display dstPad r)
      .fail (.reported r)
    | .done => updateLink link ({ · with state := .configured })

/-- Configure one input link of a node, after the input links of its source node. -/
def configureLink (configureSource : Nat → Action Session Unit) (node link : Nat) :
    Action Session Unit := do
  let l ← linkAt link
  match l.state with
  | .configured => pure ()
  | .configuring => do
    notice (.circular (← nodeAt node).display)
  | .unconfigured => do
    updateLink link ({ · with state := .configuring })
    configureSource l.src
    settle link l.src l.srcPad node l.dstPad

/-- Configure the input links of a node, going at most `depth` links back. -/
def configureInputs : Nat → Nat → Action Session Unit
  | 0, node => do (← nodeAt node).inputLinks.forM (configureLink (fun _ => .fail .corrupt) node)
  | depth + 1, node => do (← nodeAt node).inputLinks.forM (configureLink (configureInputs depth) node)

/-- Configure every link that leads to a sink. -/
def configureLinks : Action Session Unit := do
  let nodes ← Action.read (·.graph.nodes.length)
  (List.range nodes).forM fun node => do
    if (← nodeAt node).isSink then
      configureInputs (← Action.read (·.graph.unconfigured)) node

end Session

end MediaGraph

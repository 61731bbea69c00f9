/-
  MediaGraph.Negotiation — settling on one format for every link.

  Four phases go over the nodes in order:
  - `query`: every filter declares the formats of its pads;
  - `merge`: the two sets of each link are replaced by what they have in common,
    and where that is nothing a converter is spliced in;
  - `reduce`: a node with an input down to one format leaves that format on the
    outputs that have it, over and over until a pass changes nothing;
  - `pick`: every link takes the first format left and lets its sets go.

  A run is all four; the first failure ends it, and converters inserted before
  stay. The phases can also be used one by one.
-/

import MediaGraph.Negotiation.Converter
import MediaGraph.Negotiation.Declared
import MediaGraph.Session

namespace MediaGraph

/-- What one query left: the node as it was asked, what it declared, and the arena right after. -/
structure Survey where
  node : Nat
  asked : Node
  declared : List Declaration
  arena : Arena

structure Negotiation where
  session : Session
  arena : Arena := {}
  converters : Converters := {}
  /-- The queries answered, newest first. -/
  surveys : List Survey := []

/-! ## Asking one filter -/

/-- Ask a filter for its formats, inside a span that names it. -/
def Session.ask (n : Node) : Action Session (List Declaration × Answer) := do
  let options ← Action.read (·.options)
  withSpan options.tracing.filterSpans (.filter options.name n.display n.type.name) do
    let (declared, answer) ← queryNode n
    match answer with
    | .done => pure ()
    | .refused r => notice (.queryFailed n.display n.type.name r)
    return (declared, answer)

namespace Negotiation

def onSession {α : Type} (x : Action Session α) : Action Negotiation α :=
  .onPart Negotiation.session (fun session n => { n with session }) x

def updateArena (f : Arena → Arena) : Action Negotiation Unit :=
  .update fun n => { n with arena := f n.arena }

def readArena {α : Type} (f : Arena → α) : Action Negotiation α := .read fun n => f n.arena

/-- Declarations made before a filter refuses stay in effect. -/
def queryNode (node : Nat) : Action Negotiation Unit := do
  let n ← onSession (Session.nodeAt node)
  let (declared, answer) ← onSession (Session.ask n)
  updateArena (·.declareAll n declared)
  match answer with
  | .refused r => .fail (.reported r)
  | .done => do
    updateArena (·.fillBare n)
    Action.update fun m => { m with surveys := ⟨node, n, declared, m.arena⟩ :: m.surveys }

def nodeCount : Action Negotiation Nat := .read (·.session.graph.nodes.length)

def query : Action Negotiation Unit := do
  let nodes ← nodeCount
  onSession (Session.notice (.querying nodes))
  (List.range nodes).forM queryNode

/-! ## Merging -/

/-- The next converter for a kind. -/
def planConverter (kind : MediaKind) : Action Negotiation ConverterPlan := do
  match ← Action.read fun n => n.converters.plan kind n.session.registry n.session.options.scaleOpts with
  | .ok (plan, converters) => do
    Action.update fun n => { n with converters }
    return plan
  | .error e => do
    if e = .noResampler then onSession (Session.notice .noResampler)
    .fail e

/-- Merge the ends of a link next to a new converter. -/
def mergeBeside (src dst : Node) (link : Nat) : Action Negotiation Unit := do
  match ← readArena fun a => (a.link link, a) with
  | (⟨some i, some j⟩, a) =>
    match a.merge i j with
    | some b => updateArena fun _ => b
    | none => do
      onSession (Session.notice (.inconvertible src.display dst.display))
      .fail (.inconvertible src.display dst.display)
  | _ => pure ()

/-- Splice a converter into a link whose ends have nothing in common. What the destination accepts
moves to the converter's output link. -/
def insertConverter (link : Nat) : Action Negotiation Unit := do
  let l ← onSession (Session.linkAt link)
  let plan ← planConverter l.kind
  let src ← onSession (Session.nodeAt l.src)
  let dst ← onSession (Session.nodeAt l.dst)
  onSession (Session.notice (.inserting plan.name src.display dst.display))
  let converter ← onSession (Session.create plan.type (some plan.name) plan.args none)
  let downstream ← onSession (Session.insert link converter 0 0)
  updateArena (·.moveAccepted link downstream)
  queryNode converter
  mergeBeside src dst link
  mergeBeside src dst downstream

def mergeLink (link : Nat) : Action Negotiation Unit := do
  match ← readArena fun a => (a.link link, a) with
  | (⟨some i, some j⟩, a) =>
    if i = j then pure ()
    else
      match a.merge i j with
      | some b => do
        updateArena fun _ => b
        onSession (Session.notice (.merged link ((b.get? i).getD (.empty .video))))
      | none => insertConverter link
  | _ => pure ()

def mergeNode (node : Nat) : Action Negotiation Unit := do
  (← onSession (Session.nodeAt node)).inputLinks.forM mergeLink

/-- Merge the input links of the nodes from a number on, those appended on the way included. -/
def mergeFrom : Nat → Nat → Action Negotiation Unit
  | 0, _ => .fail .corrupt
  | rounds + 1, node => do
    if node < (← nodeCount) then do
      mergeNode node
      mergeFrom rounds (node + 1)

/-- No link gets more than one converter, so no more nodes are visited than there were nodes and
links at the start. -/
def merge : Action Negotiation Unit := do
  let g ← Action.read (·.session.graph)
  mergeFrom (g.nodes.length + g.links.length + 1) 0

/-! ## Reducing -/

/-- Leave a format on an output link that has it among others. -/
def narrow (format : Format) (n : Negotiation) (output : Nat) : Negotiation :=
  match n.session.graph.links[output]?, (n.arena.link output).current with
  | some l, some id =>
    match n.arena.get? id with
    | some s =>
      if l.kind = format.kind ∧ 1 < s.size then
        match n.arena.pin? id format with
        | some arena => { n with arena, session := n.session.tell (.reduced output format) }
        | none => n
      else n
    | none => n
  | _, _ => n

/-- The one format a link is down to. -/
def fixed? (n : Negotiation) (link : Nat) : Option Format :=
  match n.arena.linkSet? link with
  | some s => if s.isFixed then s.first? else none
  | none => none

def reduceNode (n : Negotiation) (node : Node) : Negotiation :=
  node.inputLinks.foldl (fun n input =>
    match n.fixed? input with
    | some format => node.outputLinks.foldl (narrow format) n
    | none => n) n

def reducePass (n : Negotiation) : Negotiation := n.session.graph.nodes.foldl reduceNode n

/-- Passes until one leaves no fewer choices than it found, with their number. -/
def reducePasses (n : Negotiation) : Nat × Negotiation :=
  let next := n.reducePass
  if next.arena.loose < n.arena.loose then
    let rest := reducePasses next
    (rest.1 + 1, rest.2)
  else (1, next)
termination_by n.arena.loose

def reduce : Action Negotiation Nat := fun n => (.ok n.reducePasses.1, n.reducePasses.2)

/-! ## Picking -/

def pickLink (link : Nat) : Action Negotiation Unit := do
  match ← readArena fun a => (a.link link).current.map fun id => (id, a.get? id >>= FormatSet.first?) with
  | none => pure ()
  | some (_, none) => do
    let l ← onSession (Session.linkAt link)
    let src ← onSession (Session.nodeAt l.src)
    let dst ← onSession (Session.nodeAt l.dst)
    .fail (.noFormatLeft src.display dst.display)
  | some (id, some format) => do
    updateArena fun a => ((a.pin? id format).getD a).release link
    onSession (Session.updateLink link fun l => { l with props := { l.props with format } })
    onSession (Session.notice (.picked link format))

def pickNode (node : Nat) : Action Negotiation Unit := do
  let n ← onSession (Session.nodeAt node)
  (n.inputLinks ++ n.outputLinks).forM pickLink

def pick : Action Negotiation Unit := do
  (List.range (← nodeCount)).forM pickNode

/-! ## A run -/

def runPhases : Action Negotiation Unit := do
  query
  merge
  let passes ← reduce
  onSession (Session.notice (.reductionDone passes))
  pick

end Negotiation

/-- One negotiation from start to end. -/
def Session.negotiate : Action Session Unit := fun s =>
  let result := Negotiation.runPhases.run { session := s }
  (result.1, result.2.session)

end MediaGraph

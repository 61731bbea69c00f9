/-
  MediaGraph.Session — a graph, the catalog and the options it is built with, and
  the record of what happened.

  Filters are called through the session, which notes each call with its answer;
  the notes are all a filter's hooks are told of the past. An instance is opened,
  initialized, and then added to the graph or discarded. The last call it gets is
  `uninit`: when it is discarded, or when the graph is freed, from the node added
  last to the first.
-/

import MediaGraph.Action
import MediaGraph.Graph
import MediaGraph.Notice

namespace MediaGraph

structure Session where
  registry : Registry := .standard
  options : Options := {}
  graph : Graph := {}
  /-- Every call made to a filter, newest first. -/
  history : History := []
  /-- The serial of the next instance. -/
  opened : Nat := 0
  /-- Every notice given, newest first. -/
  events : List Event := []
  /-- The spans now open, outermost first. -/
  spans : List Span := []

namespace Session

/-! ## Notes -/

def note (s : Session) (serial : Nat) (call : Call) : Session :=
  { s with history := ⟨serial, call⟩ :: s.history }

def tell (s : Session) (n : Notice) : Session := { s with events := ⟨s.spans, n⟩ :: s.events }

def notice (n : Notice) : Action Session Unit := .update (·.tell n)

/-- Run an action inside a span, if that kind of span is wanted. -/
def withSpan {α : Type} (wanted : Bool) (span : Span) (x : Action Session α) : Action Session α :=
  if wanted then do
    Action.update fun s => { s with spans := s.spans ++ [span] }
    Action.always x fun s => { s with spans := s.spans.dropLast }
  else x

/-! ## Instances -/

/-- A fresh instance that is in no graph yet. -/
def openNode (type : FilterType) (name : Option String) : Action Session Node := do
  let node ← Action.read fun s => Node.ofType type name s.opened
  Action.update fun s => { s.note node.serial (.opened type.name) with opened := s.opened + 1 }
  return node

def initNode (n : Node) (args : Option String) (context : Option Context) : Action Session (Node × Answer) := do
  let (filter, answer) ← Action.read fun s => n.filter.init s.history n.serial args context
  Action.update (·.note n.serial (.init args context answer))
  return ({ n with filter }, answer)

def queryNode (n : Node) : Action Session (List Declaration × Answer) := do
  let (declared, answer) ← Action.read fun s => n.filter.query s.history n.serial n.layout
  Action.update (·.note n.serial (.query n.layout declared answer))
  return (declared, answer)

def configOutput (n : Node) (pad : Nat) (props : LinkProps) (inputs : List LinkProps) :
    Action Session (LinkProps × Answer) := do
  let (left, answer) ← Action.read fun s => n.filter.configOutput s.history n.serial pad props inputs
  Action.update (·.note n.serial (.configOutput pad props inputs left answer))
  return (left, answer)

def configInput (n : Node) (pad : Nat) (props : LinkProps) : Action Session Answer := do
  let answer ← Action.read fun s => n.filter.configInput s.history n.serial pad props
  Action.update (·.note n.serial (.configInput pad props answer))
  return answer

def discardNode (n : Node) : Action Session Unit := .update (·.note n.serial .uninit)

def addNode (n : Node) : Action Session Nat := do
  let id ← Action.read (·.graph.nodes.length)
  Action.update fun s => { s with graph := s.graph.addNode n }
  return id

/-! ## The graph -/

def nodeAt (node : Nat) : Action Session Node := .expect (·.graph.nodes[node]?)

def linkAt (link : Nat) : Action Session Link := .expect (·.graph.links[link]?)

def updateLink (link : Nat) (f : Link → Link) : Action Session Unit :=
  .update fun s => { s with graph := s.graph.modifyLink link f }

/-- Open an instance of a type, initialize it and add it. An instance that fails to initialize is
discarded. -/
def create (type : String) (name args : Option String) (context : Option Context) : Action Session Nat := do
  match ← Action.read (·.registry.lookup type) with
  | none => .fail (.unknownType type)
  | some t =>
    let (node, answer) ← initNode (← openNode t name) args context
    match answer with
    | .done => addNode node
    | .refused r => do
      notice (.initFailed node.display type r)
      discardNode node
      .fail (.reported r)

/-- An edit of the graph that gives a link, or fails and changes nothing. -/
def edit (f : Graph → Except Error (Nat × Graph)) : Action Session Nat := do
  match ← Action.read fun s => f s.graph with
  | .error e => .fail e
  | .ok (link, graph) => do
    Action.update fun s => { s with graph }
    return link

def link (src srcPad dst dstPad : Nat) : Action Session Nat :=
  edit (·.link src srcPad dst dstPad)

def insert (link node inPad outPad : Nat) : Action Session Nat :=
  edit (·.insert link node inPad outPad)

/-- Take a node out of service. -/
def destroy (s : Session) (n : Node) : Session := (s.tell (.destroying n.display)).note n.serial .uninit

/-- Destroy every node, last one first, and leave the graph empty. -/
def free (s : Session) : Session := { s.graph.nodes.reverse.foldl destroy s with graph := {} }

end Session

end MediaGraph

/-
  MediaGraph.Notice — what is told about a graph while it is built and configured.

  A notice has a level, a message and named fields. An event is a notice with the
  spans that were open when it was given, outermost first: one for configuring a
  graph, one for asking a filter for its formats. Each kind of span is opened only
  where the tracing options ask for it; notices are given in any case.
-/

import MediaGraph.Error
import MediaGraph.Format.Set

namespace MediaGraph

/-! ## Options -/

structure Tracing where
  graphSpans : Bool := true
  filterSpans : Bool := true
  deriving DecidableEq, Repr

namespace Tracing

def all : Tracing := {}

def minimal : Tracing := { filterSpans := false }

def none : Tracing := { graphSpans := false, filterSpans := false }

end Tracing

structure Options where
  /-- What spans and notices call the graph. -/
  name : String := "graph"
  /-- Flags handed to every scaler that negotiation inserts. -/
  scaleOpts : Option String := .none
  tracing : Tracing := {}
  deriving DecidableEq, Repr

/-! ## Spans and notices -/

inductive Span where
  | graph (name : String)
  | filter (graphName name type : String)
  deriving DecidableEq, Repr

def Span.text : Span → String
  | graph name => s!"graph\x7bname={name}\x7d"
  | filter graphName name type => s!"filter\x7bgraph={graphName} filter={name} filter_type={type}\x7d"

inductive Phase where
  | validate
  | negotiate
  | configLinks
  deriving DecidableEq, Repr

def Phase.name : Phase → String
  | validate => "validate"
  | negotiate => "negotiate"
  | configLinks => "config links"

inductive Level where
  | trace
  | debug
  | info
  | error
  deriving DecidableEq, Repr

inductive Notice where
  | initFailed (filter type : String) (r : Report)
  | destroying (filter : String)
  | unconnected (direction : Direction) (padName filter type : String)
  | querying (nodes : Nat)
  | queryFailed (filter type : String) (r : Report)
  | merged (link : Nat) (formats : FormatSet)
  | noResampler
  | inserting (converter src dst : String)
  | inconvertible (src dst : String)
  | reduced (link : Nat) (format : Format)
  | reductionDone (passes : Nat)
  | picked (link : Nat) (format : Format)
  | circular (filter : String)
  | outputFailed (filter : String) (pad : Nat) (r : Report)
  | inputFailed (filter : String) (pad : Nat) (r : Report)
  | phase (graph : String) (p : Phase)
  | phaseFailed (graph : String) (p : Phase) (e : Error)
  | configured (graph : String) (nodes links : Nat)
  deriving DecidableEq, Repr

namespace Notice

def level : Notice → Level
  | destroying _ | merged _ _ | reduced _ _ | reductionDone _ => .trace
  | querying _ | picked _ _ | phase _ _ | configured _ _ _ => .debug
  | inserting _ _ _ | circular _ => .info
  | initFailed _ _ _ | unconnected _ _ _ _ | queryFailed _ _ _ | noResampler | inconvertible _ _
  | outputFailed _ _ _ | inputFailed _ _ _ | phaseFailed _ _ _ => .error

def message : Notice → String
  | initFailed _ _ _ => "filter initialization failed"
  | destroying _ => "destroying filter"
  | unconnected d padName filter type => Error.unconnectedText d padName filter type
  | querying _ => "querying formats"
  | queryFailed _ _ _ => "format query failed"
  | merged _ _ => "merged link formats"
  | noResampler => Error.noResamplerText
  | inserting _ _ _ => "inserting converter"
  | inconvertible src dst => Error.inconvertibleText src dst
  | reduced _ _ => "reduced output link"
  | reductionDone _ => "format reduction reached fixpoint"
  | picked _ _ => "picked format"
  | circular _ => "circular filter chain detected"
  | outputFailed _ _ _ => "failed to configure output link"
  | inputFailed _ _ _ => "failed to configure input link"
  | phase _ _ => "configuration phase"
  | phaseFailed _ _ _ => "graph configuration failed"
  | configured _ _ _ => "graph configured"

def fields : Notice → List (String × String)
  | initFailed filter type r => [("filter", filter), ("filter_type", type), ("error", r.message)]
  | destroying filter => [("filter", filter)]
  | unconnected _ _ _ _ => []
  | querying nodes => [("nodes", toString nodes)]
  | queryFailed filter type r => [("filter", filter), ("filter_type", type), ("error", r.message)]
  | merged link formats => [("link", toString link), ("formats", toString formats)]
  | noResampler => []
  | inserting converter src dst => [("converter", converter), ("from", src), ("to", dst)]
  | inconvertible _ _ => []
  | reduced link format => [("link", toString link), ("format", format.name)]
  | reductionDone passes => [("passes", toString passes)]
  | picked link format => [("link", toString link), ("format", format.name)]
  | circular filter => [("filter", filter)]
  | outputFailed filter pad r => [("filter", filter), ("pad", toString pad), ("error", r.message)]
  | inputFailed filter pad r => [("filter", filter), ("pad", toString pad), ("error", r.message)]
  | phase graph p => [("graph", graph), ("phase", p.name)]
  | phaseFailed graph p e => [("graph", graph), ("phase", p.name), ("error", e.message)]
  | configured graph nodes links => [("graph", graph), ("nodes", toString nodes), ("links", toString links)]

end Notice

structure Event where
  spans : List Span
  notice : Notice
  deriving DecidableEq, Repr

end MediaGraph

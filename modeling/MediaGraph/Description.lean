/-
  MediaGraph.Description — one-line descriptions of the parts of a graph.
-/

import MediaGraph.Session
import MediaGraph.Text.Quoted

namespace MediaGraph

/-- A name with the descriptions of some fields. -/
def fieldList (name : String) (fields : List (String × String)) (isWhole : Bool := true) : String :=
  let shown := fields.map fun f => f.1 ++ ": " ++ f.2
  name ++ " \x7b " ++ ", ".intercalate (if isWhole then shown else shown ++ [".."]) ++ " \x7d"

def FilterType.describe (t : FilterType) : String :=
  fieldList "FilterDescriptor"
    [("name", Text.quote t.name), ("inputs", toString t.inputs.length), ("outputs", toString t.outputs.length)]
    false

def Tracing.describe (t : Tracing) : String :=
  fieldList "TracingConfig" [("graph_spans", toString t.graphSpans), ("filter_spans", toString t.filterSpans)]

def Options.describe (o : Options) : String :=
  fieldList "GraphOptions"
    [("name", Text.quote o.name), ("scale_opts", Text.quote? o.scaleOpts), ("tracing", o.tracing.describe)]

def Node.describe (n : Node) : String :=
  fieldList "Node"
    [("name", Text.quote? n.name), ("filter_type", Text.quote n.type.name),
      ("inputs", toString n.inputs.length), ("outputs", toString n.outputs.length)]

def Session.describe (s : Session) : String :=
  fieldList "Graph"
    [("nodes", toString s.graph.nodes.length), ("links", toString s.graph.links.length),
      ("options", s.options.describe)]

end MediaGraph

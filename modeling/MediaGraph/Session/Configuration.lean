/-
  MediaGraph.Session.Configuration — making a graph ready: check it, settle its
  formats, settle its links.

  The first phase that fails ends the configuration, and its error is the result.
-/

import MediaGraph.Negotiation
import MediaGraph.Session.Propagation
import MediaGraph.Session.Validity

namespace MediaGraph.Session

/-- One phase of configuration, told at its start and again if it fails. -/
def phase (p : Phase) (x : Action Session Unit) : Action Session Unit := do
  let graph ← Action.read (·.options.name)
  notice (.phase graph p)
  Action.onFailure x fun e => notice (.phaseFailed graph p e)

def configure : Action Session Unit := do
  let options ← Action.read (·.options)
  withSpan options.tracing.graphSpans (.graph options.name) do
    phase .validate validate
    phase .negotiate negotiate
    phase .configLinks configureLinks
    let g ← Action.read (·.graph)
    notice (.configured options.name g.nodes.length g.links.length)

end MediaGraph.Session

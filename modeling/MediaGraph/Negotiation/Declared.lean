/-
  MediaGraph.Negotiation.Declared — declarations take effect on the ends of links.

  A filter declares for its pads; a set lands at the end of the link a pad is
  bound to, the accepted end for an input and the offered end for an output. Pads
  bound to nothing drop what is declared for them. A declaration for one pad
  replaces what its end held. One in common goes, as one shared set, to the ends
  of its kind that hold nothing yet. A rejected declaration has no effect. At the
  end of a query every bound end left without a set gets one of its own with all
  formats of its pad's kind.
-/

import MediaGraph.Graph
import MediaGraph.Negotiation.Arena

namespace MediaGraph

def Direction.side : Direction → Side
  | .input => .accepted
  | .output => .offered

/-- The end of a link that a pad is bound to. -/
structure BoundEnd where
  kind : MediaKind
  link : Nat
  side : Side
  deriving DecidableEq, Repr

def Pad.boundEnd? (d : Direction) (p : Pad) : Option BoundEnd := p.link.map (⟨p.kind, ·, d.side⟩)

/-- The ends bound to a node's pads, inputs before outputs. -/
def Node.boundEnds (n : Node) : List BoundEnd :=
  n.inputs.filterMap (Pad.boundEnd? .input) ++ n.outputs.filterMap (Pad.boundEnd? .output)

namespace Arena

def held? (a : Arena) (e : BoundEnd) : Option Nat := (a.link e.link).get e.side

/-- The bound ends of a node that hold nothing. -/
def bare (a : Arena) (n : Node) : List BoundEnd := n.boundEnds.filter fun e => (a.held? e).isNone

def shareEnds (a : Arena) (s : FormatSet) (ends : List BoundEnd) : Arena :=
  (a.share s (ends.map fun e => (e.link, e.side))).2

def declare (n : Node) (a : Arena) (d : Declaration) : Arena :=
  if (d.rejection? n.layout).isSome then a
  else
    match d with
    | .pad dir i formats =>
      a.shareEnds formats (((n.pads dir)[i]? >>= Pad.boundEnd? dir).toList)
    | .common formats => a.shareEnds formats ((a.bare n).filter (·.kind = formats.kind))

def declareAll (a : Arena) (n : Node) (ds : List Declaration) : Arena := ds.foldl (declare n) a

def fillBare (a : Arena) (n : Node) : Arena :=
  (a.bare n).foldl (fun b e => b.shareEnds (.all e.kind) [e]) a

end Arena

end MediaGraph

/-
  MediaGraph.Link — a connection from an output pad to an input pad.

  Negotiation fills in the format of a link and configuration its dimensions
  and rates. Configuration takes a link from `unconfigured` through
  `configuring`, while the links into its source are settled, to `configured`.
-/

import MediaGraph.Pad

namespace MediaGraph

structure LinkProps where
  kind : MediaKind := .video
  format : Option Format := none
  width : UInt32 := 0
  height : UInt32 := 0
  sampleRate : UInt32 := 0
  channels : UInt32 := 0
  deriving DecidableEq, Repr

namespace LinkProps

/-- Nothing is known yet but the kind. -/
def ofKind (kind : MediaKind) : LinkProps := { kind }

/-- Take over dimensions and rates, keep kind and format. -/
def inherit (props other : LinkProps) : LinkProps :=
  { props with
    width := other.width, height := other.height
    sampleRate := other.sampleRate, channels := other.channels }

/-- Take over the first input's dimensions and rates, if there is an input. -/
def inheritFirst (props : LinkProps) : List LinkProps → LinkProps
  | [] => props
  | first :: _ => props.inherit first

end LinkProps

inductive LinkState where
  | unconfigured
  | configuring
  | configured
  deriving DecidableEq, Repr

structure Link where
  src : Nat
  srcPad : Nat
  dst : Nat
  dstPad : Nat
  props : LinkProps
  state : LinkState := .unconfigured
  deriving DecidableEq, Repr

def Link.kind (l : Link) : MediaKind := l.props.kind

end MediaGraph

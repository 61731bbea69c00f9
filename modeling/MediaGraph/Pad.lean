/-
  MediaGraph.Pad — the attachment points of a filter.

  A filter type lists pad templates; every node opened from it gets one pad per
  template, numbered from 0 among the pads of one direction. A pad carries one
  media kind and is bound to at most one link.
-/

import MediaGraph.Format

namespace MediaGraph

inductive Direction where
  | input
  | output
  deriving DecidableEq, Repr

def Direction.name : Direction → String
  | input => "input"
  | output => "output"

/-- The name as it opens a sentence. -/
def Direction.title : Direction → String
  | input => "Input"
  | output => "Output"

structure PadTemplate where
  direction : Direction
  name : String
  kind : MediaKind
  deriving DecidableEq, Repr

structure Pad where
  name : String
  direction : Direction
  kind : MediaKind
  index : Nat
  link : Option Nat := none
  deriving DecidableEq, Repr

namespace Pad

def ofTemplate (t : PadTemplate) (index : Nat) : Pad :=
  { name := t.name, direction := t.direction, kind := t.kind, index }

def isLinked (p : Pad) : Bool := p.link.isSome

/-- The pads of one direction, numbered in order. -/
def ofTemplates (ts : List PadTemplate) : List Pad := ts.mapIdx fun i t => ofTemplate t i

end Pad

end MediaGraph

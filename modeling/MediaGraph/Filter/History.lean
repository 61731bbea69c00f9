/-
  MediaGraph.Filter.History — every call made to a filter, with its answer.

  Instances are numbered by a serial that is never used twice. The history lists
  the calls newest first: opening an instance, initializing it, asking for its
  formats, configuring the link on one of its pads, and the last call, `uninit`.
-/

import MediaGraph.Filter.Declaration
import MediaGraph.Link

namespace MediaGraph

/-- A value the caller hands to a filter beside its arguments. -/
inductive Context where
  | text (s : String)
  | number (n : Int)
  deriving DecidableEq, Repr

inductive Answer where
  | done
  | refused (r : Report)
  deriving DecidableEq, Repr

inductive Call where
  | opened (type : String)
  | init (args : Option String) (context : Option Context) (answer : Answer)
  | query (layout : Layout) (declared : List Declaration) (answer : Answer)
  /-- `left` are the properties as the filter left them, also where it refused. -/
  | configOutput (pad : Nat) (given : LinkProps) (inputs : List LinkProps) (left : LinkProps) (answer : Answer)
  | configInput (pad : Nat) (given : LinkProps) (answer : Answer)
  | uninit
  deriving DecidableEq, Repr

structure Record where
  serial : Nat
  call : Call
  deriving DecidableEq, Repr

abbrev History := List Record

end MediaGraph

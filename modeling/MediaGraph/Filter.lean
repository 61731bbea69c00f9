/-
  MediaGraph.Filter — what a filter does when the graph calls it.

  A filter is one of the built-in ones, whose parameters live with the node, or
  it is given by hooks. A hook answers from the history of all calls made so far,
  the serial of its own instance and what it is asked, so it stands for any
  filter at all: one with a memory, or several that share one. A hook left out
  refuses nothing; in its place every format of the filter's kind is declared in
  common, and an output takes over what the first input has.
-/

import MediaGraph.Filter.Builtin
import MediaGraph.Filter.History

namespace MediaGraph

/-- Make declarations in turn, up to the first that is rejected. -/
def Layout.declare (l : Layout) : List Declaration → List Declaration × Answer
  | [] => ([], .done)
  | d :: ds =>
    match d.rejection? l with
    | some r => ([d], .refused r.report)
    | none => (d :: (l.declare ds).1, (l.declare ds).2)

structure Hooks where
  init : History → Nat → Option String → Option Context → Answer := fun _ _ _ _ => .done
  query : History → Nat → Layout → List Declaration × Answer := fun _ _ l => l.declare [l.passThrough]
  configOutput : History → Nat → Nat → LinkProps → List LinkProps → LinkProps × Answer :=
    fun _ _ _ props inputs => (props.inheritFirst inputs, .done)
  configInput : History → Nat → Nat → LinkProps → Answer := fun _ _ _ _ => .done

inductive Filter where
  | builtin (b : Builtin)
  | custom (hooks : Hooks)

namespace Filter

def init (f : Filter) (h : History) (serial : Nat) (args : Option String) (context : Option Context) :
    Filter × Answer :=
  match f with
  | builtin b =>
    (builtin (b.init args).1, match (b.init args).2 with
      | .ok _ => .done
      | .error e => .refused e.report)
  | custom hooks => (f, hooks.init h serial args context)

/-- The declarations made, rejected ones included, and the answer at the end. -/
def query (f : Filter) (h : History) (serial : Nat) (l : Layout) : List Declaration × Answer :=
  match f with
  | builtin b =>
    match b.converts with
    | some kind => l.declare [.pad .input 0 (.all kind), .pad .output 0 (.all kind)]
    | none => l.declare [l.passThrough]
  | custom hooks => hooks.query h serial l

def configOutput (f : Filter) (h : History) (serial pad : Nat) (props : LinkProps) (inputs : List LinkProps) :
    LinkProps × Answer :=
  match f with
  | builtin b => (b.configOutput props inputs, .done)
  | custom hooks => hooks.configOutput h serial pad props inputs

def configInput (f : Filter) (h : History) (serial pad : Nat) (props : LinkProps) : Answer :=
  match f with
  | builtin _ => .done
  | custom hooks => hooks.configInput h serial pad props

end Filter

end MediaGraph

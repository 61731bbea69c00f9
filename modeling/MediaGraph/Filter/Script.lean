/-
  MediaGraph.Filter.Script — filters written down as data.

  A script lists, for each call, what the filter does. Asked for its formats it
  takes its steps in order: it declares, looks at its layout or refuses. A
  refusal, its own or of a declaration, ends the query, unless the step is
  tolerant: then it is noted and the next step is taken. Configuring an output it
  takes the steps for that pad; configuring an input, the first failure for that
  pad is its answer. A missing list of steps is the behaviour of a filter that
  leaves the hook out.
-/

import MediaGraph.Filter

namespace MediaGraph.Script

/-! ## Formats -/

inductive QueryAct where
  | declare (d : Declaration)
  | passThrough
  | inspect
  | refuse (r : Report)
  deriving DecidableEq, Repr

structure QueryStep where
  act : QueryAct
  tolerant : Bool := false
  deriving DecidableEq, Repr

inductive Note where
  | seen (layout : Layout)
  | caught (r : Report)
  deriving DecidableEq, Repr

namespace QueryAct

def declared (l : Layout) : QueryAct → List Declaration
  | declare d => [d]
  | passThrough => [l.passThrough]
  | _ => []

def failure? (l : Layout) : QueryAct → Option Report
  | declare d => (d.rejection? l).map Rejection.report
  | refuse r => some r
  | _ => none

def notes (l : Layout) : QueryAct → List Note
  | inspect => [.seen l]
  | _ => []

end QueryAct

/-- A query from start to end. -/
structure Asked where
  notes : List Note := []
  declared : List Declaration := []
  answer : Answer := .done
  deriving DecidableEq, Repr

def ask (l : Layout) : List QueryStep → Asked
  | [] => {}
  | s :: steps =>
    let rest := ask l steps
    match s.act.failure? l with
    | some r =>
      if s.tolerant then
        { rest with notes := .caught r :: rest.notes, declared := s.act.declared l ++ rest.declared }
      else { declared := s.act.declared l, answer := .refused r }
    | none =>
      { rest with notes := s.act.notes l ++ rest.notes, declared := s.act.declared l ++ rest.declared }

/-! ## Links -/

/-- The properties a step sets; the others stay. -/
structure Patch where
  kind : Option MediaKind := none
  format : Option (Option Format) := none
  width : Option UInt32 := none
  height : Option UInt32 := none
  sampleRate : Option UInt32 := none
  channels : Option UInt32 := none
  deriving DecidableEq, Repr

def Patch.apply (p : Patch) (props : LinkProps) : LinkProps where
  kind := p.kind.getD props.kind
  format := p.format.getD props.format
  width := p.width.getD props.width
  height := p.height.getD props.height
  sampleRate := p.sampleRate.getD props.sampleRate
  channels := p.channels.getD props.channels

inductive OutputAct where
  | passThrough
  | inherit (input : Nat)
  | set (p : Patch)
  | refuse (r : Report)
  deriving DecidableEq, Repr

/-- What to do for one pad, or for every pad. -/
structure OutputStep where
  pad : Option Nat := none
  act : OutputAct
  deriving DecidableEq, Repr

def concerns (pad : Nat) (which : Option Nat) : Bool := which.all (· = pad)

def configure (inputs : List LinkProps) (props : LinkProps) : List OutputAct → LinkProps × Answer
  | [] => (props, .done)
  | .passThrough :: acts => configure inputs (props.inheritFirst inputs) acts
  | .inherit i :: acts => configure inputs ((inputs[i]?.map props.inherit).getD props) acts
  | .set p :: acts => configure inputs (p.apply props) acts
  | .refuse r :: _ => (props, .refused r)

structure InputFailure where
  pad : Option Nat := none
  report : Report
  deriving DecidableEq, Repr

end Script

/-! ## Scripts -/

structure Script where
  init : Answer := .done
  query : List Script.QueryStep := [{ act := .passThrough }]
  configOutput : List Script.OutputStep := [{ act := .passThrough }]
  configInput : List Script.InputFailure := []
  deriving DecidableEq, Repr

namespace Script

def hooks (s : Script) : Hooks where
  init _ _ _ _ := s.init
  query _ _ l := ((ask l s.query).declared, (ask l s.query).answer)
  configOutput _ _ pad props inputs :=
    configure inputs props ((s.configOutput.filter (concerns pad ·.pad)).map (·.act))
  configInput _ _ pad _ :=
    match s.configInput.find? (concerns pad ·.pad) with
    | some f => .refused f.report
    | none => .done

end Script

end MediaGraph

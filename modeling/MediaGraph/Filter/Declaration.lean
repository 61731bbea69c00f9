/-
  MediaGraph.Filter.Declaration — how a filter says which formats it takes.

  A filter asked for its formats sees the kinds of its pads (`Layout`) and makes
  declarations. One for a single pad must name a pad it has and a set of that
  pad's kind, or it is rejected; one in common concerns the pads of the set's
  kind and is always accepted. Whether a declaration is rejected depends on the
  layout alone (`rejection?`), not on what was declared before.
-/

import MediaGraph.Format.Set
import MediaGraph.Pad
import MediaGraph.Report

namespace MediaGraph

/-- The kinds of a filter's pads, in index order. -/
structure Layout where
  inputs : List MediaKind
  outputs : List MediaKind
  deriving DecidableEq, Repr

namespace Layout

def pads (l : Layout) : Direction → List MediaKind
  | .input => l.inputs
  | .output => l.outputs

/-- The kind of the first input, else of the first output, else video. -/
def kind (l : Layout) : MediaKind := (l.inputs.head? <|> l.outputs.head?).getD .video

end Layout

inductive Declaration where
  | pad (direction : Direction) (index : Nat) (formats : FormatSet)
  /-- One set shared by every pad of its kind that has none yet. -/
  | common (formats : FormatSet)
  deriving DecidableEq, Repr

/-- What a filter that says nothing declares: every format of its own kind, in common. -/
def Layout.passThrough (l : Layout) : Declaration := .common (.all l.kind)

inductive Rejection where
  | noPad (direction : Direction) (index : Nat)
  | wrongKind (direction : Direction) (index : Nat) (declared padKind : MediaKind)
  deriving DecidableEq, Repr

def Rejection.text : Rejection → String
  | noPad d i => s!"no {d.name} pad {i}"
  | wrongKind d i declared padKind => s!"{declared.name} formats declared on {padKind.name} {d.name} pad {i}"

def Rejection.report (r : Rejection) : Report := ⟨.invalidArgument, r.text⟩

def Declaration.rejection? (l : Layout) : Declaration → Option Rejection
  | .pad d i formats =>
    match (l.pads d)[i]? with
    | none => some (.noPad d i)
    | some kind => if kind = formats.kind then none else some (.wrongKind d i formats.kind kind)
  | .common _ => none

/-- A declaration for one pad is accepted where there is such a pad, of its kind. -/
theorem Declaration.rejection?_pad_eq_none {l : Layout} {d : Direction} {i : Nat} {s : FormatSet} :
    (pad d i s).rejection? l = none ↔ (l.pads d)[i]? = some s.kind := by
  unfold rejection?
  cases hk : (l.pads d)[i]? with
  | none => simp [hk]
  | some kind => by_cases h : kind = s.kind <;> simp [hk, h]

end MediaGraph

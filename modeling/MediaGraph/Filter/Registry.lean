/-
  MediaGraph.Filter.Registry — filter types, and the catalog a graph takes them from.

  A filter type has a name, pad templates and a fresh instance. A registry holds
  at most one type of a name: registering a type takes the place of the one
  before it.
-/

import MediaGraph.Filter

namespace MediaGraph

structure FilterType where
  name : String
  description : String := ""
  inputs : List PadTemplate := []
  outputs : List PadTemplate := []
  fresh : Filter

namespace FilterType

/-- Add a pad behind the others of its direction. -/
def withPad (t : FilterType) (p : PadTemplate) : FilterType :=
  match p.direction with
  | .input => { t with inputs := t.inputs ++ [p] }
  | .output => { t with outputs := t.outputs ++ [p] }

def withInput (t : FilterType) (name : String) (kind : MediaKind) : FilterType :=
  t.withPad ⟨.input, name, kind⟩

def withOutput (t : FilterType) (name : String) (kind : MediaKind) : FilterType :=
  t.withPad ⟨.output, name, kind⟩

end FilterType

structure Registry where
  types : List FilterType := []

namespace Registry

def register (r : Registry) (t : FilterType) : Registry :=
  ⟨r.types.filter (·.name ≠ t.name) ++ [t]⟩

def lookup (r : Registry) (name : String) : Option FilterType := r.types.find? (·.name = name)

def isRegistered (r : Registry) (name : String) : Bool := (r.lookup name).isSome

/-- The names of all types, sorted by code point. -/
def names (r : Registry) : List String := (r.types.map (·.name)).mergeSort (· ≤ ·)

def ofList (ts : List FilterType) : Registry := ts.foldl register {}

/-- The catalog of a graph that is given no other. -/
def standard : Registry :=
  ofList [
    through scaleType "Convert video pixel format and size" .video (.scale {}),
    through resampleType "Convert audio sample format and rate" .audio (.resample {}),
    through "null" "Pass the input through unchanged" .video .null,
    through "anull" "Pass the input through unchanged" .audio .null,
    sink "nullsink" "Discard the input" .video,
    sink "anullsink" "Discard the input" .audio,
    source "nullsrc" "Produce empty video frames" .video (.nullSource {}),
    source "anullsrc" "Produce silent audio" .audio (.nullAudioSource {})]
where
  through (name description : String) (kind : MediaKind) (b : Builtin) : FilterType :=
    ({ name, description, fresh := .builtin b } : FilterType).withInput "default" kind |>.withOutput "default" kind
  sink (name description : String) (kind : MediaKind) : FilterType :=
    ({ name, description, fresh := .builtin .null } : FilterType).withInput "default" kind
  source (name description : String) (kind : MediaKind) (b : Builtin) : FilterType :=
    ({ name, description, fresh := .builtin b } : FilterType).withOutput "default" kind

end Registry

end MediaGraph

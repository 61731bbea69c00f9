/-
  MediaGraph.Negotiation.Converter — planning the converters negotiation inserts.

  Video is converted by a scaler that keeps the size, audio by a resampler that
  keeps the rate; other media cannot be converted. Scalers and resamplers are
  numbered apart, from 0 in each negotiation. A number is used up by a plan, not
  by a refusal.
-/

import MediaGraph.Error
import MediaGraph.Filter.Registry

namespace MediaGraph

structure ConverterPlan where
  type : String
  name : String
  args : Option String
  deriving DecidableEq, Repr

/-- How many converters were planned. -/
structure Converters where
  scalers : Nat := 0
  resamplers : Nat := 0
  deriving DecidableEq, Repr

namespace Converters

def scaler (c : Converters) (scaleOpts : Option String) : ConverterPlan where
  type := scaleType
  name := s!"auto-inserted scaler {c.scalers}"
  args := some ("0:0:" ++ scaleOpts.getD "")

def resampler (c : Converters) : ConverterPlan where
  type := resampleType
  name := s!"auto-inserted resampler {c.resamplers}"
  args := none

def plan (c : Converters) (kind : MediaKind) (registry : Registry) (scaleOpts : Option String) :
    Except Error (ConverterPlan × Converters) :=
  match kind with
  | .video => .ok (c.scaler scaleOpts, { c with scalers := c.scalers + 1 })
  | .audio =>
    if registry.isRegistered resampleType then .ok (c.resampler, { c with resamplers := c.resamplers + 1 })
    else .error .noResampler
  | .other => .error .noConverter

end Converters

end MediaGraph

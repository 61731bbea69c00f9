/-
  MediaGraph.Error — why an operation on a graph fails.

  One constructor per cause, with the names and numbers its message tells.
  `reported` hands on what a filter said. `corrupt` is the failure of a look-up
  the graph's own bookkeeping vouches for.
-/

import MediaGraph.Link
import MediaGraph.Report

namespace MediaGraph

inductive Error where
  | reported (r : Report)
  | unknownType (type : String)
  | unknownNode (node : Nat)
  | unknownLink (link : Nat)
  | noPad (filter : String) (direction : Direction) (pad : Nat)
  | padTaken (filter : String) (direction : Direction) (padName : String)
  | kindMismatch (src : String) (srcKind : MediaKind) (dst : String) (dstKind : MediaKind)
  /-- A filter spliced into a link of a kind its pads do not carry. -/
  | wrongKind (filter : String) (kind : MediaKind)
  | unconnected (direction : Direction) (padName filter type : String)
  | noResampler
  | noConverter
  | inconvertible (src dst : String)
  | noFormatLeft (src dst : String)
  | corrupt
  deriving DecidableEq, Repr

namespace Error

def unconnectedText (direction : Direction) (padName filter type : String) : String :=
  let missing := match direction with
    | .input => "source"
    | .output => "destination"
  s!"{direction.title} pad \"{padName}\" for the filter \"{filter}\" of type \"{type}\" not connected to any {missing}"

def noResamplerText : String := "'resample' filter not present, cannot convert audio formats"

def inconvertibleText (src dst : String) : String :=
  s!"Impossible to convert between the formats supported by the filter '{src}' and the filter '{dst}'"

def report : Error → Report
  | reported r => r
  | unknownType type => ⟨.invalidArgument, s!"no such filter type: '{type}'"⟩
  | unknownNode node => ⟨.invalidArgument, s!"no such node: {node}"⟩
  | unknownLink link => ⟨.invalidArgument, s!"no such link: {link}"⟩
  | noPad filter d pad => ⟨.invalidArgument, s!"filter '{filter}' has no {d.name} pad {pad}"⟩
  | padTaken filter d padName =>
    ⟨.invalidArgument, s!"{d.name} pad \"{padName}\" of filter '{filter}' is already linked"⟩
  | kindMismatch src srcKind dst dstKind =>
    ⟨.invalidArgument, s!"media kind mismatch linking '{src}' ({srcKind.name}) to '{dst}' ({dstKind.name})"⟩
  | wrongKind filter kind => ⟨.invalidArgument, s!"cannot insert '{filter}' into a {kind.name} link"⟩
  | unconnected d padName filter type => ⟨.configuration, unconnectedText d padName filter type⟩
  | noResampler => ⟨.invalidArgument, noResamplerText⟩
  | noConverter => ⟨.invalidArgument, "no converter available for this media kind"⟩
  | inconvertible src dst => ⟨.configuration, inconvertibleText src dst⟩
  | noFormatLeft src dst => ⟨.configuration, s!"no format left for the link from '{src}' to '{dst}'"⟩
  | corrupt => ⟨.invalidArgument, "the graph does not hold what it refers to"⟩

def message (e : Error) : String := e.report.message

end Error

end MediaGraph

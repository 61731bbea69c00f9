/-
  MediaGraph.Report — what a filter says when it refuses.

  A report has a class and a text of the filter's choosing. Its message is the
  heading of the class, a colon and the text.
-/

namespace MediaGraph

inductive ErrorClass where
  | outOfMemory
  | invalidArgument
  | configuration
  /-- The failing filter, by instance name or by type. -/
  | filter (name : String)
  deriving DecidableEq, Repr

def ErrorClass.heading : ErrorClass → String
  | outOfMemory => "out of memory"
  | invalidArgument => "invalid argument"
  | configuration => "configuration error"
  | filter name => s!"filter '{name}'"

structure Report where
  cls : ErrorClass
  text : String
  deriving DecidableEq, Repr

def Report.message (r : Report) : String := s!"{r.cls.heading}: {r.text}"

/-- A request for more storage than there are addresses. -/
def Report.capacityOverflow : Report :=
  ⟨.outOfMemory, "memory allocation failed because the computed capacity exceeded the collection's maximum"⟩

end MediaGraph

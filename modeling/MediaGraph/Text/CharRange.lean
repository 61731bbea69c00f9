/-
  MediaGraph.Text.CharRange — sets of characters given by runs of code points.
-/

namespace MediaGraph.Text

/-- A run, by its first and its last code point. -/
abbrev CharRange := Nat × Nat

def inRanges (rs : List CharRange) (c : Char) : Bool := rs.any fun r => r.1 ≤ c.toNat && c.toNat ≤ r.2

/-- Runs in ascending order, no two of which touch. -/
def areApart : List CharRange → Bool
  | [] => true
  | [r] => r.1 ≤ r.2
  | r :: s :: rs => r.1 ≤ r.2 && r.2 + 1 < s.1 && areApart (s :: rs)

end MediaGraph.Text

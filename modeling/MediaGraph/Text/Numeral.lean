/-
  MediaGraph.Text.Numeral — unsigned 32-bit numbers in filter arguments.

  A numeral is a text that, less the blanks around it, is one or more ASCII
  digits after at most one plus sign, with a value that fits 32 bits. Leading
  zeros are allowed, a minus sign is not.
-/

import MediaGraph.Text.Blank

namespace MediaGraph.Text

def digitValue (c : Char) : Nat := c.toNat - '0'.toNat

/-- The number that decimal digits spell. -/
def decimalValue (ds : List Char) : Nat := ds.foldl (fun n c => 10 * n + digitValue c) 0

/-- The text after one plus sign, if it starts with one. -/
def dropPlus : List Char → List Char
  | '+' :: cs => cs
  | cs => cs

def numeral? (cs : List Char) : Option UInt32 :=
  let digits := dropPlus (trim cs)
  if digits ≠ [] ∧ digits.all Char.isDigit = true ∧ decimalValue digits < UInt32.size then
    some (UInt32.ofNat (decimalValue digits))
  else none

end MediaGraph.Text

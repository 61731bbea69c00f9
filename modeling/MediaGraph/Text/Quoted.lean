/-
  MediaGraph.Text.Quoted — a text as descriptions print it: between double
  quotes, with the quote, the backslash and every character that has no shape of
  its own escaped.
-/

import MediaGraph.Text.Printable

namespace MediaGraph.Text

def hexDigits (n : Nat) : String := String.ofList (Nat.toDigits 16 n)

def escape (c : Char) : String :=
  match c with
  | '"' => "\\\""
  | '\\' => "\\\\"
  | '\n' => "\\n"
  | '\r' => "\\r"
  | '\t' => "\\t"
  | '\x00' => "\\0"
  | c => if isPrintable c then c.toString else "\\u\x7b" ++ hexDigits c.toNat ++ "\x7d"

def quote (s : String) : String := "\"" ++ String.join (s.toList.map escape) ++ "\""

/-- A text that may be missing. -/
def quote? : Option String → String
  | none => "None"
  | some s => s!"Some({quote s})"

end MediaGraph.Text

/-!
# Tables of code points

A character class is a list of spans, a span a run of code points at a fixed
step. A table of letter mappings pairs a span with the image of its first code
point.
-/

namespace TableGateway

/-- Every `step`-th code point from `first` to `last`. -/
structure Span where
  first : Nat
  last : Nat
  step : Nat

/-- Whether a code point belongs to a span. -/
def Span.contains (span : Span) (code : Nat) : Bool :=
  span.first ≤ code && code ≤ span.last &&
    (code - span.first) % span.step == 0

/-- Whether one of the spans of a table contains a code point. -/
def inTable (table : List Span) (code : Nat) : Bool :=
  table.any (·.contains code)

/-- A span whose code points all move by the same distance; `target` is the
image of the first one. -/
structure Shift where
  span : Span
  target : Nat

/-- The image of a code point under the first shift that contains it. -/
def shiftIn? (table : List Shift) (code : Nat) : Option Nat :=
  (table.find? (·.span.contains code)).map fun shift =>
    shift.target + (code - shift.span.first)

/-- The image of a code point that maps to several. -/
def expansionIn? (table : List (Nat × List Nat)) (code : Nat) :
    Option (List Nat) :=
  (table.find? (·.1 == code)).map Prod.snd

end TableGateway

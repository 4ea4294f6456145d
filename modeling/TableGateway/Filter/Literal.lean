import TableGateway.Json.Printer

/-!
# Values and literals

A clause holds its value as text. A JSON value is turned into such a text by
`literal?` and compared with one by `compareLiteral?`, where its own kind
decides how the text is read.
-/

namespace TableGateway

namespace Json

/-- The text of a value in a clause; null has none. -/
def literal? : Json → Option String
  | null => none
  | string text => some text
  | value => some value.text

/-- How a value compares with a literal: numbers as doubles, strings by code
point, truth values with `true` and `false`. Nothing else is comparable. -/
def compareLiteral? (value : Json) (literal : String) : Option Ordering :=
  match value with
  | number value =>
      (readDouble? literal.toList).bind value.reading.compare?
  | string text => some (compare text literal)
  | bool value => (readBool? literal).map (compare value)
  | _ => none

end Json

end TableGateway

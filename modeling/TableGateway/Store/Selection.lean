import TableGateway.Arguments

/-!
# Selecting rows

Rows are kept in their order when they satisfy a filter, and then sorted by one
field. Sorting is stable. Rows without the field go behind the others when the
order ascends, and before them when it descends.
-/

namespace TableGateway

/-! ## Order of values -/

/-- How two values of a field are ordered: numbers as doubles, strings by code
point, an absent value or null behind all others. Values of different kinds
count as equal, and so do truth values, arrays and objects. -/
def compareFieldValues (left right : Option Json) : Ordering :=
  match left.filter (!·.isNull), right.filter (!·.isNull) with
  | none, none => .eq
  | some _, none => .lt
  | none, some _ => .gt
  | some (.number left), some (.number right) =>
      (left.reading.compare? right.reading).getD .eq
  | some (.string left), some (.string right) => compare left right
  | some _, some _ => .eq

namespace OrderBy

def compareRows (order : OrderBy) (left right : Json) : Ordering :=
  let ascending :=
    compareFieldValues (left.get? order.field) (right.get? order.field)
  if order.ascending then ascending else ascending.swap

/-- Rows in order; those that count as equal keep their places. -/
def sort (order : OrderBy) (rows : List Json) : List Json :=
  rows.mergeSort fun left right => order.compareRows left right != .gt

end OrderBy

/-! ## What arguments select -/

namespace ParsedArguments

/-- The rows that satisfy the filter. -/
def matching (arguments : ParsedArguments) (rows : List Json) : List Json :=
  match arguments.filter with
  | none => rows
  | some condition => rows.filter condition.isSatisfied

def ordered (arguments : ParsedArguments) (rows : List Json) : List Json :=
  match arguments.pagination.bind (·.orderBy?) with
  | none => rows
  | some order => order.sort rows

/-- The rows that satisfy the filter, in the order asked for. -/
def select (arguments : ParsedArguments) (rows : List Json) : List Json :=
  arguments.ordered (arguments.matching rows)

/-- The stretch of rows that the offset and the limit leave. -/
def stretch (arguments : ParsedArguments) (rows : List Json) : List Json :=
  let rest := rows.drop ((arguments.pagination.bind (·.offset?)).getD 0)
  match arguments.pagination.bind (·.limit?) with
  | none => rest
  | some limit => rest.take limit

end ParsedArguments

end TableGateway

import TableGateway.Filter.Condition
import TableGateway.Json.Members
import TableGateway.Pagination

/-!
# Arguments of a field

The arguments of a field are a JSON object. Two of them, `filter` and
`pagination`, are expressions and are read when the arguments are; the rest is
passed on as it is.
-/

namespace TableGateway

/-- The arguments of a field by name. -/
abbrev Arguments := Members

/-- Arguments after their expressions have been read. -/
structure ParsedArguments where
  table : String
  filter : Option FilterCondition
  pagination : Option Pagination
  rest : Arguments

namespace ParsedArguments

def empty (table : String) : ParsedArguments :=
  ⟨table, none, none, []⟩

/-- A filter and nothing else. -/
def ofFilter (table : String) (filter : FilterCondition) :
    ParsedArguments :=
  { empty table with filter := some filter }

/-! ## Reading -/

/-- The text of an expression argument; null counts as absent. -/
def expressionText (name : String) :
    Json → Except ExpressionError (Option String)
  | .null => .ok none
  | .string text => .ok (some text)
  | _ => .error (.notAString name)

/-- Take one more argument into account. -/
def accept (parsed : ParsedArguments) (name : String) (value : Json) :
    Except ExpressionError ParsedArguments :=
  if name = "filter" then
    match expressionText name value with
    | .error fault => .error fault
    | .ok none => .ok parsed
    | .ok (some expression) =>
        (FilterCondition.parse expression parsed.table).map
          fun condition => { parsed with filter := some condition }
  else if name = "pagination" then
    (expressionText name value).map fun
      | none => parsed
      | some expression =>
          { parsed with
            pagination := some (Pagination.parse expression parsed.table) }
  else
    .ok { parsed with rest := Members.insert name value parsed.rest }

/-- Take several arguments into account, up to the first faulty one. -/
def acceptAll (parsed : ParsedArguments) :
    Arguments → Except ExpressionError ParsedArguments
  | [] => .ok parsed
  | (name, value) :: others =>
      match parsed.accept name value with
      | .error fault => .error fault
      | .ok next => next.acceptAll others

/-- Read the arguments of a field on a table. -/
def parse (table : String) (arguments : Arguments) :
    Except ExpressionError ParsedArguments :=
  (empty table).acceptAll arguments

/-! ## The other arguments -/

/-- An argument that is not an expression. -/
def get? (parsed : ParsedArguments) (name : String) : Option Json :=
  parsed.rest.get? name

/-- The record to write. -/
def input? (parsed : ParsedArguments) : Option Members :=
  (parsed.get? "input").bind (·.asObject?)

/-- A condition in SQL. -/
def whereCondition? (parsed : ParsedArguments) : Option Json :=
  parsed.rest.present? "where"

/-- A truth value that is false unless given. -/
def flag (parsed : ParsedArguments) (name : String) : Bool :=
  ((parsed.get? name).bind (·.asBool?)).getD false

/-- Whether debugging is asked for. -/
def debug (parsed : ParsedArguments) : Bool :=
  parsed.flag "_debug"

/-- Whether caching is asked for. -/
def cache (parsed : ParsedArguments) : Bool :=
  parsed.flag "_cache"

/-- Parsed arguments as a JSON value. The other arguments are written over the
table, the filter and the pagination. -/
def toJson (parsed : ParsedArguments) : Json :=
  let filter :=
    parsed.filter.toList.map fun condition => ("filter", condition.toJson)
  let pagination :=
    parsed.pagination.toList.map fun pages => ("pagination", pages.toJson)
  Json.ofMembers
    (("table", .string parsed.table) :: filter ++ pagination ++ parsed.rest)

end ParsedArguments

end TableGateway

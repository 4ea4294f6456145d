/-!
# Errors of filter and pagination expressions
-/

namespace TableGateway

/-- Why the text of an expression, or the argument that should hold it, is
refused. -/
inductive ExpressionError where
  | missingOperator (table clause : String)
  | emptyField (table clause : String)
  | notAString (argument : String)
  deriving DecidableEq

namespace ExpressionError

/-- The code that clients test for. -/
def code : ExpressionError → String
  | missingOperator _ _ => "RELGRAPH_FILTER_MISSING_OPERATOR"
  | emptyField _ _ => "RELGRAPH_FILTER_EMPTY_FIELD"
  | notAString _ => "RELGRAPH_ARGUMENT_NOT_A_STRING"

/-- The text for people. -/
def message : ExpressionError → String
  | missingOperator table clause =>
      "Filter clause '" ++ clause ++ "' on '" ++ table ++
        "' has no recognized operator"
  | emptyField table clause =>
      "Filter clause '" ++ clause ++ "' on '" ++ table ++
        "' has an empty field"
  | notAString argument =>
      "Argument '" ++ argument ++ "' must be a string expression"

end ExpressionError

end TableGateway

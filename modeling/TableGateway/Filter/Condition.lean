import TableGateway.Filter.Clause

/-!
# Filter conditions

A condition is a list of clauses on one table, all of which a record has to
satisfy. Its text joins the clauses by semicolons; reading skips blank segments
and stops at the first faulty one.
-/

namespace TableGateway

/-- The clauses that select records of a table. -/
structure FilterCondition where
  table : String
  clauses : List FilterClause
  deriving DecidableEq

namespace FilterCondition

/-- The condition that every record satisfies. -/
def empty (table : String) : FilterCondition :=
  ⟨table, []⟩

/-- Add a clause behind the others. -/
def add (condition : FilterCondition) (clause : FilterClause) :
    FilterCondition :=
  { condition with clauses := condition.clauses ++ [clause] }

/-- Whether a record satisfies every clause. -/
def isSatisfied (condition : FilterCondition) (record : Json) : Bool :=
  condition.clauses.all (·.isSatisfied record)

/-! ## Text -/

/-- The clauses as written, with semicolons between them. -/
def expression (condition : FilterCondition) : String :=
  String.ofList <|
    [';'].intercalate (condition.clauses.map (·.text.toList))

/-- Read the segments that are not blank, in order. -/
def parseSegments (table : String) :
    List (List Char) → Except ExpressionError (List FilterClause)
  | [] => .ok []
  | segment :: rest =>
      if isBlankText segment then parseSegments table rest
      else
        match FilterClause.parse table segment with
        | .error fault => .error fault
        | .ok clause =>
            match parseSegments table rest with
            | .error fault => .error fault
            | .ok clauses => .ok (clause :: clauses)

def parse (expression table : String) :
    Except ExpressionError FilterCondition :=
  (parseSegments table (segments ';' expression.toList)).map
    (FilterCondition.mk table)

/-- A condition as a JSON value: the clauses under the name of the table. -/
def toJson (condition : FilterCondition) : Json :=
  .object
    [(condition.table, .array (condition.clauses.map (·.toJson)))]

end FilterCondition

end TableGateway

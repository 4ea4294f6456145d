import TableGateway.ExpressionError
import TableGateway.Filter.Operator
import TableGateway.Filter.Literal
import TableGateway.Text.Blank
import TableGateway.Text.Casing

/-!
# Filter clauses

A clause names a field, an operator and a value as text. It is written without
separators, read back with the white space around both sides removed, and
tested against the records of a table.
-/

namespace TableGateway

/-- One comparison of a filter. -/
structure FilterClause where
  field : String
  operator : FilterOperator
  value : String
  deriving DecidableEq

namespace FilterClause

def equal (field value : String) : FilterClause :=
  ⟨field, .equal, value⟩

/-- The clause that demands one of several values, separated by commas. -/
def oneOf (field value : String) : FilterClause :=
  ⟨field, .oneOf, value⟩

/-! ## Text -/

/-- A clause as it is written. -/
def text (clause : FilterClause) : String :=
  clause.field ++ clause.operator.symbol ++ clause.value

/-- Read a clause: the text before the first operator is the field, the text
after it the value. -/
def parse (table : String) (segment : List Char) :
    Except ExpressionError FilterClause :=
  match OperatorCut.of? segment with
  | none => .error (.missingOperator table (String.ofList segment))
  | some cut =>
      let field := trim cut.before
      if field.isEmpty then
        .error (.emptyField table (String.ofList segment))
      else
        .ok ⟨String.ofList field, cut.operator,
          String.ofList (trim cut.after)⟩

/-! ## Meaning -/

/-- The values that a clause compares with: several for membership, else
one. -/
def values (clause : FilterClause) : List String :=
  match clause.operator with
  | .oneOf =>
      (segments ',' clause.value.toList).map fun part =>
        String.ofList (trim part)
  | _ => [clause.value]

/-- Whether a comparison has one of the given results. -/
def comparesAs (results : List Ordering) (value : Option Json)
    (literal : String) : Bool :=
  match value.bind (·.compareLiteral? literal) with
  | some result => results.contains result
  | none => false

/-- Whether the text of a value contains a part, in any letter case. -/
def containsCaseless (value : Option Json) (part : String) : Bool :=
  match value.bind (·.literal?) with
  | some text => occursIn (lowercase part.toList) (lowercase text.toList)
  | none => false

/-- Whether a record satisfies a clause. A field that is absent or null
satisfies none but `<=> null`. -/
def isSatisfied (clause : FilterClause) (record : Json) : Bool :=
  let value := record.present? clause.field
  match clause.operator with
  | .nullSafeEqual =>
      match value with
      | none => sameAsciiCaseless clause.value "null"
      | some found => comparesAs [.eq] (some found) clause.value
  | .equal => comparesAs [.eq] value clause.value
  | .greater => comparesAs [.gt] value clause.value
  | .atLeast => comparesAs [.gt, .eq] value clause.value
  | .less => comparesAs [.lt] value clause.value
  | .atMost => comparesAs [.lt, .eq] value clause.value
  | .like => containsCaseless value clause.value
  | .oneOf => clause.values.any (comparesAs [.eq] value)

/-- A clause as a JSON value: operator, field, value. -/
def toJson (clause : FilterClause) : Json :=
  Json.ofStrings [clause.operator.symbol, clause.field, clause.value]

end FilterClause

end TableGateway

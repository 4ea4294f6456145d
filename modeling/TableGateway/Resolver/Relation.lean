import TableGateway.Resolver.Crud

/-!
# Relations between tables

A relation leads from a parent record to the records of another table that hold
the same value in the joined column. The value is added to the caller's filter
as a clause of its own and never read as filter text.
-/

namespace TableGateway

/-- A column of the parent and the column of a table that it is compared
with. -/
structure Relation where
  parentColumn : String
  table : String
  column : String
  deriving DecidableEq

namespace Relation

/-- The value of a parent as a literal, unless it is absent or null. -/
def key? (relation : Relation) (parent : Json) : Option String :=
  (parent.get? relation.parentColumn).bind (·.literal?)

/-- Arguments narrowed to a value: the clauses of the caller come first. -/
def narrowed (relation : Relation) (key : String) (parsed : ParsedArguments) :
    ParsedArguments :=
  let condition := parsed.filter.getD (.empty relation.table)
  { parsed with
    filter := some (condition.add (.equal relation.column key)) }

/-- The record that a parent refers to, or null. -/
def followOne (relation : Relation) : Handler := fun invocation =>
  match relation.key? invocation.call.parent with
  | none => .answer .null
  | some key =>
      .withArguments relation.table invocation.call.arguments fun parsed =>
        Crud.fetchFirst relation.table (relation.narrowed key parsed)

/-- The page of records that refer to a parent. -/
def followPage (relation : Relation) : Handler := fun invocation =>
  match relation.key? invocation.call.parent with
  | none => .answer (Crud.emptyPage relation.table)
  | some key =>
      .withArguments relation.table invocation.call.arguments fun parsed =>
        Crud.fetchPage invocation.defaultLimit relation.table
          (relation.narrowed key parsed)

end Relation

end TableGateway

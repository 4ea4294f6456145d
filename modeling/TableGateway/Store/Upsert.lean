import TableGateway.Driver.Metadata
import TableGateway.Json.Members

/-!
# Writing a row

A row that carries a key is written over the first row with the same key, or
added behind the others when there is none. A row without a key is always added
and gets the number after the greatest number in use.
-/

namespace TableGateway

structure StoredTable where
  metadata : TableMetadata
  primaryKey : String
  deriving DecidableEq

def holdsValue (column : String) (value row : Json) : Bool :=
  match row.get? column with
  | some found => found.same value
  | none => false

/-- A row with some of its members written over. -/
def overwriteRow (input : Members) : Json → Json
  | .object members => .object (Members.insertAll members input)
  | other => other

/-- Write over the first row that satisfies a test, if there is one. -/
def overwriteFirst? (test : Json → Bool) (input : Members) :
    List Json → Option (List Json)
  | [] => none
  | row :: rest =>
      if test row then some (overwriteRow input row :: rest)
      else (overwriteFirst? test input rest).map (row :: ·)

namespace StoredTable

/-- The members of a new row: every column with its input, or null. -/
def newMembers (table : StoredTable) (input : Members) : Members :=
  Members.ofList <| table.metadata.columns.map fun column =>
    (column.name, (input.get? column.name).getD .null)

/-- The number after the greatest number among the keys, or one. -/
def nextKey (table : StoredTable) (rows : List Json) : Int :=
  let used := rows.filterMap fun row =>
    (row.get? table.primaryKey).bind (·.signedWord?)
  used.max?.getD 0 + 1

/-- Write a row. The result is the rows afterwards, and the key of the new row
if it was not in the input. -/
def upsert (table : StoredTable) (input : Members) (rows : List Json) :
    List Json × List Json :=
  match input.present? table.primaryKey with
  | some key =>
      match overwriteFirst? (holdsValue table.primaryKey key) input rows with
      | some changed => (changed, [])
      | none => (rows ++ [.object (table.newMembers input)], [])
  | none =>
      let key := Json.ofInt (table.nextKey rows)
      let row := (table.newMembers input).insert table.primaryKey key
      (rows ++ [.object row], [key])

/-- The first name in the input that is no column. -/
def unknownColumn? (table : StoredTable) (input : Members) :
    Option String :=
  (input.map Prod.fst).find? fun name =>
    (table.metadata.column? name).isNone

end StoredTable

end TableGateway

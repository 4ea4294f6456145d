import TableGateway.Driver.Metadata
import TableGateway.Json.Printer
import TableGateway.Json.Record

/-!
# Table metadata in JSON

Writing leaves out the target of a column that has none; reading takes an
absent target and an absent list of child tables as empty.
-/

namespace TableGateway

/-! ## Writing -/

/-- The target of a foreign key as an object. -/
def ForeignTarget.toJson (target : ForeignTarget) : Json :=
  .object [("tablename", .string target.table),
    ("columnname", .string target.column)]

/-- A column as an object. -/
def Column.toJson (column : Column) : Json :=
  let foreign :=
    column.foreign.toList.map fun target => ("foreign", target.toJson)
  .object (("name", .string column.name) ::
    ("type", .string column.nativeType) :: foreign)

/-- A child table as an object. -/
def ReverseRelation.toJson (relation : ReverseRelation) : Json :=
  .object [("ftablename", .string relation.childTable),
    ("fcolumnname", .string relation.childColumn),
    ("columnname", .string relation.column)]

/-- The structure of a table as an object. -/
def TableMetadata.toJson (metadata : TableMetadata) : Json :=
  .object [("name", .string metadata.name),
    ("columns", .array (metadata.columns.map (·.toJson))),
    ("reverse", .array (metadata.reverse.map (·.toJson)))]

/-! ## Reading -/

open Document (fields? required? optional? readString? readNullable?
  readList?)

def ForeignTarget.read? (document : Document) : Option ForeignTarget := do
  let [table, column] ← fields? ["tablename", "columnname"] document
    | none
  return ⟨← required? readString? table, ← required? readString? column⟩

def Column.read? (document : Document) : Option Column := do
  let [name, nativeType, foreign] ←
    fields? ["name", "type", "foreign"] document | none
  return ⟨← required? readString? name,
    ← required? readString? nativeType,
    ← optional? none (readNullable? ForeignTarget.read?) foreign⟩

def ReverseRelation.read? (document : Document) :
    Option ReverseRelation := do
  let [childTable, childColumn, column] ←
    fields? ["ftablename", "fcolumnname", "columnname"] document | none
  return ⟨← required? readString? childTable,
    ← required? readString? childColumn, ← required? readString? column⟩

def TableMetadata.read? (document : Document) : Option TableMetadata := do
  let [name, columns, reverse] ←
    fields? ["name", "columns", "reverse"] document | none
  return ⟨← required? readString? name,
    ← required? (readList? Column.read?) columns,
    ← optional? [] (readList? ReverseRelation.read?) reverse⟩

/-- Read the structure of a table from JSON text. -/
def TableMetadata.parse? (text : String) : Option TableMetadata := do
  TableMetadata.read? (← Document.parse? text)

end TableGateway

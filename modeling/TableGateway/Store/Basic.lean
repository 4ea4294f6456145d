import TableGateway.Driver.Basic
import TableGateway.Store.Selection
import TableGateway.Store.Upsert
import TableGateway.Text.Casing

/-!
# Stores

A store holds tables and their rows in memory and answers as a driver does.
Conditions in SQL are passed over. Every request for records is noted.
-/

namespace TableGateway

/-- The kinds of requests that a store notes. -/
inductive StoreOperation where
  | page
  | pageTotal
  | firstOf
  | putItem
  deriving DecidableEq

/-- A request that a store has answered, and the text of its filter. -/
structure StoreCall where
  operation : StoreOperation
  table : String
  filter : Option String
  deriving DecidableEq

/-- Tables in memory. -/
structure Store where
  tables : List StoredTable
  scalars : OrderedMap String
  records : OrderedMap (List Json)
  calls : List StoreCall

namespace Store

/-! ## Setting up -/

/-- The native types that every store knows, by the scalar they map to. -/
def knownTypes : List (String × List String) :=
  [("Int", ["serial", "bigserial", "integer", "int", "int4", "int8",
      "bigint", "smallint"]),
    ("Boolean", ["boolean", "bool"]),
    ("String", ["text", "varchar", "character varying", "char", "uuid",
      "date", "timestamp"]),
    ("Float", ["real", "float", "float4", "float8", "double precision",
      "numeric"])]

/-- A store without tables. -/
def empty : Store where
  tables := []
  scalars := .ofList <| knownTypes.flatMap fun (scalar, natives) =>
    natives.map fun native => (native, scalar)
  records := .empty
  calls := []

/-- Add a table behind the others, in place of one with the same name. -/
def withTable (store : Store) (metadata : TableMetadata)
    (primaryKey : String) : Store :=
  { store with
    tables :=
      store.tables.filter (fun table => table.metadata.name != metadata.name)
        ++ [⟨metadata, primaryKey⟩] }

def withTypeMapping (store : Store) (native scalar : String) : Store :=
  { store with scalars := store.scalars.insert (lowercased native) scalar }

def rows (store : Store) (table : String) : List Json :=
  store.records.getD table []

def setRows (store : Store) (table : String) (rows : List Json) : Store :=
  { store with records := store.records.insert table rows }

/-- Add rows behind those of a table. -/
def withRows (store : Store) (table : String) (added : List Json) : Store :=
  store.setRows table (store.rows table ++ added)

/-- Forget the requests noted so far. -/
def clearCalls (store : Store) : Store :=
  { store with calls := [] }

/-! ## Structure -/

def table? (store : Store) (name : String) : Option StoredTable :=
  store.tables.find? (·.metadata.name == name)

/-- The table with a name, or the error that there is none. -/
def knownTable (store : Store) (name : String) :
    Except DriverError StoredTable :=
  match store.table? name with
  | none => .error (.unknownTable name)
  | some table => .ok table

/-- A native type without what follows it in parentheses, in small letters
and without white space around it. -/
def baseType (native : String) : String :=
  String.ofList <| trim <|
    (lowercased native).toList.takeWhile (· != '(')

def scalarOf (store : Store) (column : Column) :
    Except DriverError String :=
  match store.scalars.get? (baseType column.nativeType) with
  | none => .error (.unsupportedType column.name column.nativeType)
  | some scalar => .ok scalar

/-- The structure of the tables. -/
def catalog (store : Store) : Catalog where
  tables := store.tables.map (·.metadata.name)
  tableMetadata name := (store.knownTable name).map (·.metadata)
  mapColumnType := store.scalarOf

def primaryKey (store : Store) (table : String) :
    Except DriverError String :=
  (store.knownTable table).map (·.primaryKey)

/-! ## Records -/

/-- Note a request. -/
def record (store : Store) (operation : StoreOperation) (table : String)
    (filter : Option FilterCondition) : Store :=
  { store with
    calls := store.calls ++
      [⟨operation, table, filter.map (·.expression)⟩] }

def select (store : Store) (table : String) (arguments : ParsedArguments) :
    Except DriverError (List Json) :=
  (store.knownTable table).map fun _ => arguments.select (store.rows table)

/-- The page of rows that arguments select. -/
def page (table : String) (arguments : ParsedArguments) (store : Store) :
    Except DriverError (List Json) × Store :=
  ((store.select table arguments).map arguments.stretch,
    store.record .page table arguments.filter)

/-- The number of rows that arguments select on all pages. -/
def pageTotal (table : String) (arguments : ParsedArguments)
    (store : Store) : Except DriverError Nat × Store :=
  ((store.select table arguments).map List.length,
    store.record .pageTotal table arguments.filter)

/-- The first row that arguments select. -/
def firstOf (table : String) (arguments : ParsedArguments)
    (store : Store) : Except DriverError (Option Json) × Store :=
  ((store.select table arguments).map List.head?,
    store.record .firstOf table arguments.filter)

/-- Write a row, unless the table or one of the columns is unknown. -/
def putItem (table : String) (input : Members) (store : Store) :
    Except DriverError (List Json) × Store :=
  let noted := store.record .putItem table none
  match store.knownTable table with
  | .error fault => (.error fault, noted)
  | .ok stored =>
      match stored.unknownColumn? input with
      | some column => (.error (.unknownColumn table column), noted)
      | none =>
          let (rows, keys) := stored.upsert input (store.rows table)
          (.ok keys, noted.setRows table rows)

def driver : Driver Store where
  catalog := catalog
  primaryKey table store := store.primaryKey table
  pageTotal := pageTotal
  page := page
  firstOf := firstOf
  putItem := putItem

end Store

end TableGateway

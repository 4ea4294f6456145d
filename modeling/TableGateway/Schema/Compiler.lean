import TableGateway.Driver.Metadata
import TableGateway.Schema.Sdl

/-!
# Compiling a schema

The compiler builds a model from the metadata of tables. For each table it
makes an object type, a page type, two queries, an input type and a mutation.
It never takes anything away. Columns whose type cannot be mapped are left out
and listed with the reason of the latest attempt. The text of the model is kept
from the first rendering to the next refresh.
-/

namespace TableGateway

/-- A column that was left out of a type. -/
structure SkippedColumn where
  table : String
  column : String
  target : String
  reason : DriverError
  deriving DecidableEq

/-- The state of a compiler. -/
structure Compiler where
  model : SchemaModel
  skipped : List SkippedColumn
  rendered : Option String
  deriving DecidableEq

namespace Compiler

/-- The model of a compiler that has seen no table: the input type of a
condition in SQL. -/
def initialModel : SchemaModel :=
  (SchemaModel.empty.setInputField Naming.condition "sql"
      (.nonNull .string)).setInputField Naming.condition "val"
    (.nonNull (.list (.nonNull .string)))

def fresh : Compiler :=
  ⟨initialModel, [], none⟩

/-- Write a field of an object type. -/
def addField (compiler : Compiler) (typeName : String)
    (field : FieldDefinition) : Compiler :=
  { compiler with model := compiler.model.setField typeName field }

def addInputField (compiler : Compiler) (input name : String)
    (type : TypeRef) : Compiler :=
  { compiler with model := compiler.model.setInputField input name type }

/-! ## Columns -/

/-- Strike the record of a column of a target type. -/
def withoutSkipped (target column : String) (skipped : List SkippedColumn) :
    List SkippedColumn :=
  skipped.filter fun record =>
    !(record.target == target && record.column == column)

/-- Map the type of a column. Failure is recorded in place of an earlier
record of the same column and target, success strikes that record. -/
def mapColumn (catalog : Catalog) (table target : String) (column : Column)
    (compiler : Compiler) : Option TypeRef × Compiler :=
  let others := withoutSkipped target column.name compiler.skipped
  match catalog.mapColumnType column with
  | .ok scalar => (some (.named scalar), { compiler with skipped := others })
  | .error reason =>
      (none, { compiler with
        skipped := others ++ [⟨table, column.name, target, reason⟩] })

/-- Write the field of a column, if its type can be mapped. -/
def mapTypeColumn (catalog : Catalog) (table target : String)
    (compiler : Compiler) (column : Column) : Compiler :=
  match mapColumn catalog table target column compiler with
  | (some type, next) => next.addField target (.plain column.name type)
  | (none, next) => next

/-- Write the input field of a column, if its type can be mapped. -/
def mapInputColumn (catalog : Catalog) (table target : String)
    (compiler : Compiler) (column : Column) : Compiler :=
  match mapColumn catalog table target column compiler with
  | (some type, next) => next.addInputField target column.name type
  | (none, next) => next

/-! ## The parts of a table -/

def foreignFieldOf (key : Column × ForeignTarget) : FieldDefinition :=
  (FieldDefinition.plain (Naming.foreignField key.1.name key.2.table)
    (.named (Naming.typeName key.2.table))).withQueryParams

/-- The field that lists the records of a child table. -/
def reverseFieldOf (relation : ReverseRelation) : FieldDefinition :=
  (FieldDefinition.plain (Naming.reverseField relation.childTable)
    (.named (Naming.pageTypeName relation.childTable))).withQueryParams

/-- The object type of a table: its columns, then its foreign keys, then its
child tables. -/
def mapType (catalog : Catalog) (metadata : TableMetadata)
    (compiler : Compiler) : Compiler :=
  let target := Naming.typeName metadata.name
  let started :=
    { compiler with model := compiler.model.ensureType target }
  let withColumns :=
    metadata.columns.foldl (mapTypeColumn catalog metadata.name target)
      started
  let withForeign :=
    metadata.foreignKeys.foldl
      (fun current key => current.addField target (foreignFieldOf key))
      withColumns
  metadata.reverse.foldl
    (fun current relation =>
      current.addField target (reverseFieldOf relation))
    withForeign

def mapPage (table : String) (compiler : Compiler) : Compiler :=
  let page := Naming.pageTypeName table
  (compiler.addField page (.plain "total" .int)).addField page
    (.plain "items" (.list (.named (Naming.typeName table))))

def getPageDefinition (table : String) : FieldDefinition :=
  (FieldDefinition.plain (Naming.getPageField table)
    (.named (Naming.pageTypeName table))).withQueryParams

/-- The query for the first record of a table. -/
def getFirstDefinition (table : String) : FieldDefinition :=
  (FieldDefinition.plain (Naming.getFirstField table)
    (.named (Naming.typeName table))).withQueryParams

/-- The mutation that writes a record of a table. -/
def putItemDefinition (table : String) : FieldDefinition :=
  ((FieldDefinition.plain (Naming.putItemField table)
      (.named (Naming.typeName table))).param "input"
    (.nonNull (.named (Naming.inputTypeName table)))).param "_debug" .boolean

def mapQuery (table : String) (compiler : Compiler) : Compiler :=
  (compiler.addField Naming.query (getPageDefinition table)).addField
    Naming.query (getFirstDefinition table)

/-- The input type of a table: its columns. -/
def mapInput (catalog : Catalog) (metadata : TableMetadata)
    (compiler : Compiler) : Compiler :=
  let target := Naming.inputTypeName metadata.name
  let started :=
    { compiler with model := compiler.model.ensureInput target }
  metadata.columns.foldl (mapInputColumn catalog metadata.name target)
    started

def mapMutation (table : String) (compiler : Compiler) : Compiler :=
  compiler.addField Naming.mutation (putItemDefinition table)

/-! ## Building -/

/-- Run one pass over several tables. -/
def overTables {table : Type} (pass : table → Compiler → Compiler)
    (tables : List table) (compiler : Compiler) : Compiler :=
  tables.foldl (fun current item => pass item current) compiler

/-- Run every pass over every table: first all object types, then all page
types, and so on. -/
def mapAll (catalog : Catalog) (tables : List TableMetadata)
    (compiler : Compiler) : Compiler :=
  let withTypes := overTables (mapType catalog) tables compiler
  let withPages := overTables (mapPage ·.name) tables withTypes
  let withQueries := overTables (mapQuery ·.name) tables withPages
  let withInputs := overTables (mapInput catalog) tables withQueries
  overTables (mapMutation ·.name) tables withInputs

/-- Compile every table of a catalog. Nothing is changed when the structure of
a table is not to be had. -/
def build (catalog : Catalog) (compiler : Compiler) :
    Except DriverError Compiler :=
  catalog.allMetadata.map fun tables => compiler.mapAll catalog tables

def buildTable (catalog : Catalog) (table : String) (compiler : Compiler) :
    Except DriverError Compiler :=
  (catalog.tableMetadata table).map fun metadata =>
    mapMutation table <| mapInput catalog metadata <| mapQuery table <|
      mapPage table <| mapType catalog metadata compiler

/-! ## Text -/

/-- The text of the model, as it was when it was last rendered anew. -/
def render (compiler : Compiler) : String × Compiler :=
  match compiler.rendered with
  | some text => (text, compiler)
  | none =>
      let text := compiler.model.sdl
      (text, { compiler with rendered := some text })

/-- The text of the model, rendered anew and kept. -/
def refresh (compiler : Compiler) : String × Compiler :=
  { compiler with rendered := none }.render

/-- The text of the model, rendered anew and not kept. -/
def renderFresh (compiler : Compiler) : String :=
  compiler.model.sdl

end Compiler

end TableGateway

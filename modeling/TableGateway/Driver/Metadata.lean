import TableGateway.Driver.Error

/-!
# Table metadata

What a driver tells about a table: its columns with their native types, the
tables that its foreign keys lead to, and the child tables that refer to it.
-/

namespace TableGateway

/-- The table and the column that a foreign key refers to. -/
structure ForeignTarget where
  table : String
  column : String
  deriving DecidableEq

structure Column where
  name : String
  nativeType : String
  foreign : Option ForeignTarget
  deriving DecidableEq

/-- A child table whose column `childColumn` refers to the column `column` of
this table. -/
structure ReverseRelation where
  childTable : String
  childColumn : String
  column : String
  deriving DecidableEq

structure TableMetadata where
  name : String
  columns : List Column
  reverse : List ReverseRelation
  deriving DecidableEq

namespace TableMetadata

/-- The columns that refer to another table, with their targets. -/
def foreignKeys (metadata : TableMetadata) :
    List (Column × ForeignTarget) :=
  metadata.columns.filterMap fun column =>
    column.foreign.map fun target => (column, target)

def column? (metadata : TableMetadata) (name : String) : Option Column :=
  metadata.columns.find? (·.name == name)

def columnNames (metadata : TableMetadata) : List String :=
  metadata.columns.map (·.name)

end TableMetadata

/-- What can be asked about a database without touching its records: the
tables in the driver's own order, the structure of each, and the scalar type
of a column. -/
structure Catalog where
  tables : List String
  tableMetadata : String → Except DriverError TableMetadata
  mapColumnType : Column → Except DriverError String

namespace Catalog

def tableColumns (catalog : Catalog) (table : String) :
    Except DriverError (List String) :=
  (catalog.tableMetadata table).map (·.columnNames)

/-- The structure of every table of a list, or the error of the first table
that has none to give. -/
def metadataOf (catalog : Catalog) :
    List String → Except DriverError (List TableMetadata)
  | [] => .ok []
  | table :: others =>
      match catalog.tableMetadata table with
      | .error fault => .error fault
      | .ok metadata =>
          match catalog.metadataOf others with
          | .error fault => .error fault
          | .ok rest => .ok (metadata :: rest)

/-- The structure of every table that the driver reports. -/
def allMetadata (catalog : Catalog) :
    Except DriverError (List TableMetadata) :=
  catalog.metadataOf catalog.tables

end Catalog

end TableGateway

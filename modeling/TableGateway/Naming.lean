import TableGateway.Text.Camel

/-!
# Names in the schema

All names of the schema are derived from the names of tables and columns. The
compiler of the schema and the registry of resolvers take them from here, so
that a field and its resolver meet under one name.
-/

namespace TableGateway

namespace Naming

/-- The root type of queries. -/
def query : String := "Query"

/-- The root type of mutations. -/
def mutation : String := "Mutation"

/-- The input type of a condition in SQL. -/
def condition : String := "Condition"

def typeName (table : String) : String :=
  upperCamel table

/-- What the root fields of a table begin with. -/
def fieldStem (table : String) : String :=
  lowerCamel table

def pageTypeName (table : String) : String :=
  typeName table ++ "Page"

def inputTypeName (table : String) : String :=
  typeName table ++ "Input"

def getPageField (table : String) : String :=
  fieldStem table ++ "GetPage"

/-- The query for the first record of a table. -/
def getFirstField (table : String) : String :=
  fieldStem table ++ "GetFirst"

/-- The mutation that writes a record of a table. -/
def putItemField (table : String) : String :=
  fieldStem table ++ "PutItem"

/-- The field that follows a foreign key. -/
def foreignField (column foreignTable : String) : String :=
  column ++ "_" ++ foreignTable

/-- The field that lists the records of a child table. -/
def reverseField (childTable : String) : String :=
  childTable

end Naming

end TableGateway

/-!
# Errors of a database driver
-/

namespace TableGateway

/-- Why a driver refuses an operation. -/
inductive DriverError where
  | unknownTable (table : String)
  | unknownColumn (table column : String)
  | unsupportedType (column nativeType : String)
  | missingPrimaryKey (table : String)
  | constraint (detail : String)
  | connection (detail : String)
  | internal (detail : String)
  deriving DecidableEq

namespace DriverError

/-- The code that clients test for. -/
def code : DriverError → String
  | unknownTable _ => "RELGRAPH_DRIVER_UNKNOWN_TABLE"
  | unknownColumn _ _ => "RELGRAPH_DRIVER_UNKNOWN_COLUMN"
  | unsupportedType _ _ => "RELGRAPH_DRIVER_UNSUPPORTED_TYPE"
  | missingPrimaryKey _ => "RELGRAPH_DRIVER_MISSING_PRIMARY_KEY"
  | constraint _ => "RELGRAPH_DRIVER_CONSTRAINT"
  | connection _ => "RELGRAPH_DRIVER_CONNECTION"
  | internal _ => "RELGRAPH_DRIVER_INTERNAL"

/-- The text for people. -/
def message : DriverError → String
  | unknownTable table => "Unknown table: " ++ table
  | unknownColumn table column =>
      "Unknown column '" ++ column ++ "' on table '" ++ table ++ "'"
  | unsupportedType column nativeType =>
      "Column '" ++ column ++ "' has unsupported type '" ++ nativeType ++
        "'"
  | missingPrimaryKey table =>
      "Table '" ++ table ++ "' has no primary key"
  | constraint detail => "Constraint violation: " ++ detail
  | connection detail => "Connection error: " ++ detail
  | internal detail => "Internal error: " ++ detail

end DriverError

end TableGateway

import TableGateway.Driver.Error
import TableGateway.ExpressionError
import TableGateway.Resolver.Key

/-!
# Errors of resolvers
-/

namespace TableGateway

/-- Why a resolver is refused or fails. -/
inductive ResolverError where
  | expression (fault : ExpressionError)
  | driver (fault : DriverError)
  | duplicateResolver (key : ResolverKey)
  | unknownField (key : ResolverKey)
  | notFound (key : ResolverKey)
  | invalidArgument (detail : String)
  | rejected (detail : String)
  deriving DecidableEq

namespace ResolverError

/-- The code that clients test for. Faults of expressions and drivers keep
their own. -/
def code : ResolverError → String
  | expression fault => fault.code
  | driver fault => fault.code
  | duplicateResolver _ => "RELGRAPH_DUPLICATE_RESOLVER"
  | unknownField _ => "RELGRAPH_UNKNOWN_FIELD"
  | notFound _ => "RELGRAPH_RESOLVER_NOT_FOUND"
  | invalidArgument _ => "RELGRAPH_INVALID_ARGUMENT"
  | rejected _ => "RELGRAPH_REJECTED"

/-- The text for people. Faults of expressions and drivers keep their own. -/
def message : ResolverError → String
  | expression fault => fault.message
  | driver fault => fault.message
  | duplicateResolver key =>
      "Resolver already registered for " ++ key.text
  | unknownField key =>
      "Resolver " ++ key.text ++ " does not match any schema field"
  | notFound key => "No resolver registered for " ++ key.text
  | invalidArgument detail => "Invalid argument: " ++ detail
  | rejected detail => "Access denied: " ++ detail

end ResolverError

end TableGateway

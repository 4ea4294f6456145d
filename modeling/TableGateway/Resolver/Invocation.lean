import TableGateway.Arguments
import TableGateway.Resolver.Error

/-!
# Invocations

What a handler and an authorizer get to see: the field that is called for, with
its parent, arguments and request, and what the resolver map adds.
-/

namespace TableGateway

/-- What the caller tells about itself. -/
structure RequestContext where
  claims : Members
  metadata : Members

/-- A field to be resolved. The parent is null at the root. -/
structure FieldCall where
  key : ResolverKey
  parent : Json
  arguments : Arguments
  request : RequestContext

/-- A call together with what the resolver map adds to it: the keys that it
holds, and the page size when the caller names none. -/
structure Invocation where
  call : FieldCall
  keys : List ResolverKey
  defaultLimit : Option Nat

/-- The result of resolving a field. -/
abbrev Outcome := Except ResolverError Json

end TableGateway

/-!
# Keys of resolvers
-/

namespace TableGateway

/-- The key of a resolver: the type that owns a field, and the field. -/
structure ResolverKey where
  owner : String
  field : String
  deriving DecidableEq

/-- A key as it is written. -/
def ResolverKey.text (key : ResolverKey) : String :=
  key.owner ++ "." ++ key.field

end TableGateway

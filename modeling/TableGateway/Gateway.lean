import TableGateway.Config
import TableGateway.Resolver.Session
import TableGateway.Resolver.Synthesis
import TableGateway.Schema.Compiler

/-!
# Gateways

A gateway joins a compiled schema and the resolvers of its fields. It is put
together by a builder, which starts from what the database determines, takes
fields and resolvers made by hand, and at last checks that every resolver
belongs to a field.
-/

namespace TableGateway

/-- Why no gateway comes about. -/
inductive GatewayError where
  | driver (fault : DriverError)
  | resolver (fault : ResolverError)
  | config (fault : ConfigError)
  deriving DecidableEq

namespace GatewayError

/-- The code that clients test for. -/
def code : GatewayError → String
  | driver fault => fault.code
  | resolver fault => fault.code
  | config fault => fault.code

/-- The text for people, where it does not come from elsewhere. -/
def message? : GatewayError → Option String
  | driver fault => some fault.message
  | resolver fault => some fault.message
  | config fault => fault.message?

end GatewayError

/-- A schema and resolvers that can be called. -/
structure Gateway where
  sdl : String
  model : SchemaModel
  skipped : List SkippedColumn
  resolvers : ResolverMap
  /-- The authorizer in charge when a session begins. -/
  authorizer : Authorizer

/-- A gateway in the making. -/
structure GatewayBuilder where
  config : GatewayConfig
  compiler : Compiler
  registry : Registry
  authorizer : Authorizer

namespace GatewayBuilder

/-- Compile the schema of a database and register its resolvers. -/
def ofCatalog (catalog : Catalog) (config : GatewayConfig) :
    Except GatewayError GatewayBuilder :=
  match Compiler.fresh.build catalog with
  | .error fault => .error (.driver fault)
  | .ok compiler =>
      match (Registry.empty config.defaultPageLimit).synthesize catalog with
      | (.error fault, _) => .error (.driver fault)
      | (.ok (), registry) => .ok ⟨config, compiler, registry, .allowAll⟩

/-- Begin with the settings in a file, if there is one. -/
def ofFile (catalog : Catalog) (content : Option ByteArray) :
    Except GatewayError GatewayBuilder :=
  match GatewayConfig.load content with
  | .error fault => .error (.config fault)
  | .ok config => ofCatalog catalog config

/-! ## Additions by hand -/

/-- Write a field of an object type. -/
def field (builder : GatewayBuilder) (typeName : String)
    (definition : FieldDefinition) : GatewayBuilder :=
  { builder with compiler := builder.compiler.addField typeName definition }

def inputField (builder : GatewayBuilder) (input name : String)
    (type : TypeRef) : GatewayBuilder :=
  { builder with compiler := builder.compiler.addInputField input name type }

/-- Give a key a handler. Under strict registration the key must be free. -/
def resolver (builder : GatewayBuilder) (key : ResolverKey)
    (handler : Handler) : Except GatewayError GatewayBuilder :=
  if builder.config.strictRegistration then
    match builder.registry.tryAdd key handler with
    | .error fault => .error (.resolver fault)
    | .ok registry => .ok { builder with registry := registry }
  else
    .ok { builder with registry := builder.registry.put key handler }

/-- Put an authorizer in charge. -/
def withAuthorizer (builder : GatewayBuilder) (authorizer : Authorizer) :
    GatewayBuilder :=
  { builder with authorizer := authorizer }

/-! ## Completion -/

/-- Whether every resolver belongs to a field, if that is to be checked. -/
def validate (builder : GatewayBuilder) : Except ResolverError Unit :=
  if builder.config.validateResolvers then
    builder.registry.resolvers.validateAgainst builder.compiler.model
  else .ok ()

/-- Render the schema and close the registry. -/
def finish (builder : GatewayBuilder) : Except GatewayError Gateway :=
  match builder.validate with
  | .error fault => .error (.resolver fault)
  | .ok () =>
      .ok ⟨builder.compiler.render.1, builder.compiler.model,
        builder.compiler.skipped, builder.registry.resolvers,
        builder.authorizer⟩

end GatewayBuilder

namespace Gateway

/-- The gateway that a database determines. -/
def build (catalog : Catalog) (config : GatewayConfig) :
    Except GatewayError Gateway :=
  match GatewayBuilder.ofCatalog catalog config with
  | .error fault => .error fault
  | .ok builder => builder.finish

def openSession {State : Type} (gateway : Gateway) (database : State) :
    Session State :=
  .start database gateway.authorizer

def resolve {State : Type} (driver : Driver State) (gateway : Gateway)
    (depth : Nat) (call : FieldCall) (session : Session State) :
    Option Outcome × Session State :=
  gateway.resolvers.resolve driver depth call session

end Gateway

end TableGateway

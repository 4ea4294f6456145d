import TableGateway.Json.Record

/-!
# Configuration

Three settings, read from a JSON file or given by the program. A page limit of
zero is refused in a file.
-/

namespace TableGateway

/-- Why a configuration is refused. -/
inductive ConfigError where
  | unreadable
  | malformed
  | invalid (detail : String)
  deriving DecidableEq

namespace ConfigError

/-- The code that clients test for. -/
def code : ConfigError → String
  | unreadable => "RELGRAPH_CONFIG_IO"
  | malformed => "RELGRAPH_CONFIG_PARSE"
  | invalid _ => "RELGRAPH_CONFIG_INVALID"

/-- The text for people, where it does not come from elsewhere. -/
def message? : ConfigError → Option String
  | invalid detail => some ("Invalid config value: " ++ detail)
  | _ => none

end ConfigError

/-- The settings of a gateway. -/
structure GatewayConfig where
  /-- A second resolver for one field is an error. -/
  strictRegistration : Bool
  /-- Every resolver has to belong to a field of the schema. -/
  validateResolvers : Bool
  /-- The page size when the caller names none. -/
  defaultPageLimit : Option Nat
  deriving DecidableEq

namespace GatewayConfig

/-- The settings when nothing is said. -/
def standard : GatewayConfig :=
  ⟨false, true, none⟩

/-- The standard settings with strict registration. -/
def strict : GatewayConfig :=
  { standard with strictRegistration := true }

/-- Set the page size. -/
def withDefaultPageLimit (config : GatewayConfig) (limit : Nat) :
    GatewayConfig :=
  { config with defaultPageLimit := some limit }

/-- Read settings; those that are not given are the standard ones. -/
def read? (document : Document) : Option GatewayConfig := do
  let [strictRegistration, validateResolvers, defaultPageLimit] ←
    Document.fields? ["strict_registration", "validate_resolvers",
      "default_page_limit"] document | none
  return ⟨
    ← Document.optional? standard.strictRegistration
        Document.readBool? strictRegistration,
    ← Document.optional? standard.validateResolvers
        Document.readBool? validateResolvers,
    ← Document.optional? standard.defaultPageLimit
        (Document.readNullable? Document.readWord?) defaultPageLimit⟩

/-- Refuse settings that no gateway can work with. -/
def validate (config : GatewayConfig) : Except ConfigError GatewayConfig :=
  if config.defaultPageLimit = some 0 then
    .error (.invalid "default_page_limit must be greater than 0")
  else .ok config

/-- Read settings from the bytes of a file, if there is one. -/
def load (content : Option ByteArray) : Except ConfigError GatewayConfig :=
  match content.bind String.fromUTF8? with
  | none => .error .unreadable
  | some text =>
      match (Document.parse? text).bind read? with
      | none => .error .malformed
      | some config => config.validate

/-- Settings as a JSON value. -/
def toJson (config : GatewayConfig) : Json :=
  let limit :=
    match config.defaultPageLimit with
    | none => Json.null
    | some size => Json.ofInt size
  Json.ofMembers
    [("strict_registration", .bool config.strictRegistration),
      ("validate_resolvers", .bool config.validateResolvers),
      ("default_page_limit", limit)]

end GatewayConfig

end TableGateway

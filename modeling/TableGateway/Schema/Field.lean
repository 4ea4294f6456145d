import TableGateway.Naming
import TableGateway.Schema.TypeRef

/-!
# Fields of object types
-/

namespace TableGateway

/-- A field: its name, its type, and its parameters in order. -/
structure FieldDefinition where
  name : String
  type : TypeRef
  params : OrderedMap TypeRef
  deriving DecidableEq

/-- The parameters of every field that reads records. -/
def standardQueryParams : List (String × TypeRef) :=
  [("filter", .string), ("pagination", .string),
    ("where", .named Naming.condition), ("_debug", .boolean),
    ("_cache", .boolean)]

namespace FieldDefinition

/-- A field without parameters. -/
def plain (name : String) (type : TypeRef) : FieldDefinition :=
  ⟨name, type, .empty⟩

/-- Give a field a parameter. -/
def param (field : FieldDefinition) (name : String) (type : TypeRef) :
    FieldDefinition :=
  { field with params := field.params.insert name type }

def withQueryParams (field : FieldDefinition) : FieldDefinition :=
  { field with params := field.params.insertAll standardQueryParams }

def toJson (field : FieldDefinition) : Json :=
  .object [("name", .string field.name), ("type", field.type.toJson),
    ("params", .object (field.params.entries.map
      fun (name, type) => (name, type.toJson)))]

end FieldDefinition

end TableGateway

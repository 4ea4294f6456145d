import TableGateway.Json.Basic

/-!
# References to types
-/

namespace TableGateway

/-- A type as a field refers to it. -/
inductive TypeRef where
  | named (name : String)
  | list (inner : TypeRef)
  | nonNull (inner : TypeRef)
  deriving DecidableEq

namespace TypeRef

/-- The scalar type of whole numbers. -/
def int : TypeRef := named "Int"

/-- The scalar type of texts. -/
def string : TypeRef := named "String"

/-- The scalar type of truth values. -/
def boolean : TypeRef := named "Boolean"

/-- A reference as it is written: lists in brackets, types without null with
an exclamation mark. -/
def text : TypeRef → String
  | named name => name
  | list inner => "[" ++ inner.text ++ "]"
  | nonNull inner => inner.text ++ "!"

/-- The name inside all lists and exclamation marks. -/
def baseName : TypeRef → String
  | named name => name
  | list inner => inner.baseName
  | nonNull inner => inner.baseName

/-- A reference as a JSON value. -/
def toJson : TypeRef → Json
  | named name => .object [("Named", .string name)]
  | list inner => .object [("List", inner.toJson)]
  | nonNull inner => .object [("NonNull", inner.toJson)]

end TypeRef

end TableGateway

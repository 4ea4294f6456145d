import TableGateway.Schema.Field

/-!
# Schema models

A model holds object types and input types in the order of their first
mention, each with its fields in the order of theirs. A field written again
keeps its place.
-/

namespace TableGateway

abbrev TypeFields := OrderedMap FieldDefinition

abbrev InputFields := OrderedMap TypeRef

/-- The object types and input types of a schema. -/
structure SchemaModel where
  types : OrderedMap TypeFields
  inputs : OrderedMap InputFields
  deriving DecidableEq

namespace SchemaModel

/-- The model without types. -/
def empty : SchemaModel :=
  ⟨.empty, .empty⟩

/-! ## Looking up -/

def typeFields? (model : SchemaModel) (typeName : String) :
    Option TypeFields :=
  model.types.get? typeName

def field? (model : SchemaModel) (typeName field : String) :
    Option FieldDefinition :=
  (model.typeFields? typeName).bind (·.get? field)

def hasField (model : SchemaModel) (typeName field : String) : Bool :=
  (model.field? typeName field).isSome

def inputFields? (model : SchemaModel) (input : String) :
    Option InputFields :=
  model.inputs.get? input

/-! ## Writing -/

/-- Make sure that an object type exists. -/
def ensureType (model : SchemaModel) (typeName : String) : SchemaModel :=
  { model with types := model.types.ensure typeName .empty }

/-- Make sure that an input type exists. -/
def ensureInput (model : SchemaModel) (input : String) : SchemaModel :=
  { model with inputs := model.inputs.ensure input .empty }

/-- Write a field of an object type under its own name. -/
def setField (model : SchemaModel) (typeName : String)
    (field : FieldDefinition) : SchemaModel :=
  let fields := model.types.getD typeName .empty
  { model with
    types := model.types.insert typeName
      (fields.insert field.name field) }

def setInputField (model : SchemaModel) (input name : String)
    (type : TypeRef) : SchemaModel :=
  let fields := model.inputs.getD input .empty
  { model with
    inputs := model.inputs.insert input (fields.insert name type) }

/-- A written field is found under its own name, and all others are as they
were. -/
theorem field?_setField (model : SchemaModel)
    (typeName otherType otherField : String) (field : FieldDefinition) :
    (model.setField typeName field).field? otherType otherField =
      if otherType = typeName ∧ otherField = field.name then some field
      else model.field? otherType otherField := by
  unfold setField field? typeFields?
  rw [OrderedMap.get?_insert]
  by_cases sameType : otherType = typeName
  · subst sameType
    simp only [if_pos, Option.bind_some, OrderedMap.get?_insert, true_and]
    by_cases sameField : otherField = field.name
    · simp [sameField]
    · simp only [if_neg sameField]
      unfold OrderedMap.getD
      cases model.types.get? otherType with
      | none => rfl
      | some fields => rfl
  · simp [sameType]

/-! ## JSON -/

/-- A model as a JSON value, members in the order of the model. -/
def toJson (model : SchemaModel) : Json :=
  .object
    [("types", .object (model.types.entries.map fun (name, fields) =>
        (name, .object (fields.entries.map fun (field, definition) =>
          (field, definition.toJson))))),
      ("inputs", .object (model.inputs.entries.map fun (name, fields) =>
        (name, .object (fields.entries.map fun (field, type) =>
          (field, type.toJson)))))]

end SchemaModel

end TableGateway

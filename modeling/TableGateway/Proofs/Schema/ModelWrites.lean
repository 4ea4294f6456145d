import TableGateway.Proofs.OrderedMap
import TableGateway.Resolver.Key
import TableGateway.Schema.Model

/-!
# Writes to a model

Whatever is done to a model comes down to four kinds of writes. After a list of
them, a field or an input field is the last one written under its key
(`SchemaModel.fieldAt?_writeAll`, `SchemaModel.inputFieldAt?_writeAll`), and the
types of either kind are those that were there and those that are mentioned
(`SchemaModel.mem_types_writeAll`, `SchemaModel.mem_inputs_writeAll`). With the
order of all these, writes to a model are writes to its two maps of maps
(`SchemaModel.types_writeAll`, `SchemaModel.inputs_writeAll`).
-/

namespace TableGateway

attribute [ext] SchemaModel

/-! ## Fields and input fields -/

/-- A write of a field, which is stored under its own name. -/
def fieldWrite (typeName : String) (field : FieldDefinition) :
    ResolverKey × FieldDefinition :=
  (⟨typeName, field.name⟩, field)

namespace SchemaModel

/-- The fields of a model, by the type that owns them. -/
def fieldAt? (model : SchemaModel) (key : ResolverKey) :
    Option FieldDefinition :=
  model.field? key.owner key.field

/-- The input fields of a model, by input type and name. -/
def inputFieldAt? (model : SchemaModel)
    (place : String × String) : Option TypeRef :=
  (model.inputFields? place.1).bind (·.get? place.2)

theorem fieldAt?_setField (model : SchemaModel)
    (typeName : String) (field : FieldDefinition) (key : ResolverKey) :
    (model.setField typeName field).fieldAt? key =
      (lastWrite key [fieldWrite typeName field]).or (model.fieldAt? key) := by
  unfold fieldAt?
  rw [field?_setField, fieldWrite, lastWrite_cons, lastWrite_nil,
    Option.none_or]
  by_cases same : key = ⟨typeName, field.name⟩
  · subst same
    simp
  · have different : ¬(key.owner = typeName ∧ key.field = field.name) := by
      rintro ⟨ownerEq, fieldEq⟩
      exact same (by rw [← ownerEq, ← fieldEq])
    rw [if_neg same, if_neg different, Option.none_or]

theorem fieldAt?_ensureType (model : SchemaModel)
    (typeName : String) (key : ResolverKey) :
    (model.ensureType typeName).fieldAt? key = model.fieldAt? key := by
  unfold fieldAt? field? typeFields? ensureType OrderedMap.ensure
  rw [OrderedMap.get?_insert]
  by_cases same : key.owner = typeName
  · rw [if_pos same, same]
    unfold OrderedMap.getD
    cases model.types.get? typeName with
    | none => rfl
    | some fields => rfl
  · rw [if_neg same]

theorem inputFieldAt?_setInputField (model : SchemaModel)
    (input name : String) (type : TypeRef) (place : String × String) :
    (model.setInputField input name type).inputFieldAt? place =
      if place = (input, name) then some type
      else model.inputFieldAt? place := by
  obtain ⟨otherInput, otherName⟩ := place
  unfold setInputField inputFieldAt? inputFields?
  rw [OrderedMap.get?_insert]
  by_cases sameInput : otherInput = input
  · subst sameInput
    simp only [if_pos, Option.bind_some, OrderedMap.get?_insert,
      Prod.mk.injEq, true_and]
    by_cases sameName : otherName = name
    · simp [sameName]
    · simp only [if_neg sameName]
      unfold OrderedMap.getD
      cases model.inputs.get? otherInput with
      | none => rfl
      | some fields => rfl
  · simp [sameInput]

theorem inputFieldAt?_ensureInput (model : SchemaModel)
    (input : String) (place : String × String) :
    (model.ensureInput input).inputFieldAt? place =
      model.inputFieldAt? place := by
  unfold inputFieldAt? inputFields? ensureInput OrderedMap.ensure
  rw [OrderedMap.get?_insert]
  by_cases same : place.1 = input
  · rw [if_pos same, same]
    unfold OrderedMap.getD
    cases model.inputs.get? input with
    | none => rfl
    | some fields => rfl
  · rw [if_neg same]

end SchemaModel

/-! ## Fields under their own names -/

namespace SchemaModel

/-- Every field is stored under its own name. -/
def FieldsNamed (model : SchemaModel) : Prop :=
  ∀ owned ∈ model.types.entries, ∀ stored ∈ owned.2.entries,
    stored.2.name = stored.1

instance (model : SchemaModel) : Decidable model.FieldsNamed :=
  inferInstanceAs (Decidable (∀ owned ∈ model.types.entries,
    ∀ stored ∈ owned.2.entries, stored.2.name = stored.1))

theorem fieldsNamed_iff (model : SchemaModel) :
    model.FieldsNamed ↔ ∀ key field,
      model.fieldAt? key = some field → field.name = key.field := by
  constructor
  · rintro named ⟨owner, name⟩ field found
    obtain ⟨fields, fieldsFound, stored⟩ := Option.bind_eq_some_iff.mp found
    exact named _ (model.types.mem_entries_of_get? fieldsFound) _
      (fields.mem_entries_of_get? stored)
  · rintro named ⟨owner, fields⟩ owned ⟨name, field⟩ stored
    apply named ⟨owner, name⟩ field
    exact Option.bind_eq_some_iff.mpr ⟨fields,
      model.types.get?_of_mem_entries owned, fields.get?_of_mem_entries stored⟩

end SchemaModel

/-! ## Writes of all kinds -/

/-- What can be written to a model. -/
inductive ModelWrite where
  | type (name : String)
  | field (typeName : String) (definition : FieldDefinition)
  | input (name : String)
  | inputField (input name : String) (type : TypeRef)

namespace ModelWrite

/-- The object type that a write mentions. -/
def typeName? : ModelWrite → Option String
  | type name | field name _ => some name
  | input _ | inputField _ _ _ => none

/-- The input type that a write mentions. -/
def inputName? : ModelWrite → Option String
  | type _ | field _ _ => none
  | input name | inputField name _ _ => some name

def fieldWrite? : ModelWrite → Option (ResolverKey × FieldDefinition)
  | field typeName definition => some (fieldWrite typeName definition)
  | type _ | input _ | inputField _ _ _ => none

def inputFieldWrite? : ModelWrite → Option ((String × String) × TypeRef)
  | inputField owner name reference => some ((owner, name), reference)
  | type _ | field _ _ | input _ => none

end ModelWrite

namespace SchemaModel

def write (model : SchemaModel) : ModelWrite → SchemaModel
  | .type name => model.ensureType name
  | .field typeName definition => model.setField typeName definition
  | .input name => model.ensureInput name
  | .inputField input name type => model.setInputField input name type

/-- Make several writes, one after the other. -/
def writeAll (model : SchemaModel) (writes : List ModelWrite) :
    SchemaModel :=
  writes.foldl write model

theorem writeAll_append (model : SchemaModel)
    (first second : List ModelWrite) :
    model.writeAll (first ++ second) =
      (model.writeAll first).writeAll second :=
  List.foldl_append

/-! ### One write -/

theorem fieldAt?_write (model : SchemaModel) (change : ModelWrite)
    (key : ResolverKey) :
    (model.write change).fieldAt? key =
      (lastWrite key change.fieldWrite?.toList).or (model.fieldAt? key) := by
  cases change with
  | type name => exact model.fieldAt?_ensureType name key
  | field typeName definition =>
      exact model.fieldAt?_setField typeName definition key
  | input name => rfl
  | inputField input name type => rfl

theorem inputFieldAt?_write (model : SchemaModel) (change : ModelWrite)
    (place : String × String) :
    (model.write change).inputFieldAt? place =
      (lastWrite place change.inputFieldWrite?.toList).or
        (model.inputFieldAt? place) := by
  cases change with
  | type name => rfl
  | field typeName definition => rfl
  | input name => exact model.inputFieldAt?_ensureInput name place
  | inputField input name type =>
      refine (model.inputFieldAt?_setInputField _ _ _ _).trans ?_
      by_cases same : place = (input, name)
      · simp [ModelWrite.inputFieldWrite?, lastWrite_cons, same]
      · simp [ModelWrite.inputFieldWrite?, lastWrite_cons, same]

theorem mem_types_write (model : SchemaModel) (change : ModelWrite)
    (name : String) :
    name ∈ (model.write change).types.keys ↔
      name ∈ change.typeName?.toList ∨ name ∈ model.types.keys := by
  cases change with
  | type written =>
      simp [write, ensureType, OrderedMap.ensure, OrderedMap.mem_keys_insert,
        ModelWrite.typeName?]
  | field typeName definition =>
      simp [write, setField, OrderedMap.mem_keys_insert,
        ModelWrite.typeName?]
  | input written => simp [write, ensureInput, ModelWrite.typeName?]
  | inputField input field type =>
      simp [write, setInputField, ModelWrite.typeName?]

theorem mem_inputs_write (model : SchemaModel) (change : ModelWrite)
    (name : String) :
    name ∈ (model.write change).inputs.keys ↔
      name ∈ change.inputName?.toList ∨ name ∈ model.inputs.keys := by
  cases change with
  | type written => simp [write, ensureType, ModelWrite.inputName?]
  | field typeName definition =>
      simp [write, setField, ModelWrite.inputName?]
  | input written =>
      simp [write, ensureInput, OrderedMap.ensure,
        OrderedMap.mem_keys_insert, ModelWrite.inputName?]
  | inputField input field type =>
      simp [write, setInputField, OrderedMap.mem_keys_insert,
        ModelWrite.inputName?]

/-! ### All writes -/

theorem fieldAt?_writeAll (model : SchemaModel) (writes : List ModelWrite)
    (key : ResolverKey) :
    (model.writeAll writes).fieldAt? key =
      (lastWrite key (writes.filterMap (·.fieldWrite?))).or
        (model.fieldAt? key) :=
  lookup_foldl fieldAt? fieldAt?_write model writes key

theorem inputFieldAt?_writeAll (model : SchemaModel)
    (writes : List ModelWrite) (place : String × String) :
    (model.writeAll writes).inputFieldAt? place =
      (lastWrite place (writes.filterMap (·.inputFieldWrite?))).or
        (model.inputFieldAt? place) :=
  lookup_foldl inputFieldAt? inputFieldAt?_write model writes place

theorem mem_types_writeAll (model : SchemaModel) (writes : List ModelWrite)
    (name : String) :
    name ∈ (model.writeAll writes).types.keys ↔
      name ∈ writes.filterMap (·.typeName?) ∨ name ∈ model.types.keys :=
  mem_foldl_iff (·.types.keys) mem_types_write model writes name

theorem mem_inputs_writeAll (model : SchemaModel)
    (writes : List ModelWrite) (name : String) :
    name ∈ (model.writeAll writes).inputs.keys ↔
      name ∈ writes.filterMap (·.inputName?) ∨ name ∈ model.inputs.keys :=
  mem_foldl_iff (·.inputs.keys) mem_inputs_write model writes name

end SchemaModel

/-! ## Writes to maps of maps -/

namespace ModelWrite

/-- What is written to the object types of a model. -/
def typeWrite? : ModelWrite → Option (SectionWrite FieldDefinition)
  | type name => some ⟨name, none⟩
  | field typeName definition =>
      some ⟨typeName, some (definition.name, definition)⟩
  | input _ | inputField _ _ _ => none

/-- What is written to the input types of a model. -/
def inputWrite? : ModelWrite → Option (SectionWrite TypeRef)
  | type _ | field _ _ => none
  | input name => some ⟨name, none⟩
  | inputField owner name reference => some ⟨owner, some (name, reference)⟩

theorem owners_typeWrites (writes : List ModelWrite) :
    (writes.filterMap (·.typeWrite?)).map (·.owner) =
      writes.filterMap (·.typeName?) := by
  rw [List.map_filterMap]
  apply List.filterMap_congr
  intro change _
  cases change with
  | type name => rfl
  | field typeName definition => rfl
  | input name => rfl
  | inputField input name reference => rfl

theorem owners_inputWrites (writes : List ModelWrite) :
    (writes.filterMap (·.inputWrite?)).map (·.owner) =
      writes.filterMap (·.inputName?) := by
  rw [List.map_filterMap]
  apply List.filterMap_congr
  intro change _
  cases change with
  | type name => rfl
  | field typeName definition => rfl
  | input name => rfl
  | inputField input name reference => rfl

end ModelWrite

namespace SchemaModel

theorem types_writeAll (model : SchemaModel) (writes : List ModelWrite) :
    (model.writeAll writes).types =
      model.types.writeSections (writes.filterMap (·.typeWrite?)) := by
  rw [OrderedMap.writeSections, List.foldl_filterMap]
  apply (List.foldl_hom types _).symm
  intro current change
  cases change with
  | type name => rfl
  | field typeName definition => rfl
  | input name => rfl
  | inputField input name reference => rfl

theorem inputs_writeAll (model : SchemaModel) (writes : List ModelWrite) :
    (model.writeAll writes).inputs =
      model.inputs.writeSections (writes.filterMap (·.inputWrite?)) := by
  rw [OrderedMap.writeSections, List.foldl_filterMap]
  apply (List.foldl_hom inputs _).symm
  intro current change
  cases change with
  | type name => rfl
  | field typeName definition => rfl
  | input name => rfl
  | inputField input name reference => rfl

/-- The same writes once more change nothing. -/
theorem writeAll_writeAll (model : SchemaModel) (writes : List ModelWrite) :
    (model.writeAll writes).writeAll writes = model.writeAll writes := by
  apply SchemaModel.ext
  · rw [types_writeAll, types_writeAll,
      OrderedMap.writeSections_writeSections]
  · rw [inputs_writeAll, inputs_writeAll,
      OrderedMap.writeSections_writeSections]

/-- The fields of an object type, none if it is not there. -/
def fieldsOf (model : SchemaModel) (typeName : String) : TypeFields :=
  model.types.getD typeName .empty

theorem get?_fieldsOf (model : SchemaModel) (typeName field : String) :
    (model.fieldsOf typeName).get? field =
      model.fieldAt? ⟨typeName, field⟩ := by
  unfold fieldsOf fieldAt? field? typeFields? OrderedMap.getD
  cases model.types.get? typeName with
  | none => rfl
  | some fields => rfl

/-- The fields of an input type, none if it is not there. -/
def inputFieldsOf (model : SchemaModel) (input : String) : InputFields :=
  model.inputs.getD input .empty

theorem fieldsOf_writeAll (model : SchemaModel) (writes : List ModelWrite)
    (typeName : String) :
    (model.writeAll writes).fieldsOf typeName =
      (model.fieldsOf typeName).insertAll
        (SectionWrite.entriesOf typeName
          (writes.filterMap (·.typeWrite?))) := by
  unfold fieldsOf
  rw [types_writeAll, OrderedMap.getD_writeSections]

theorem inputFieldsOf_writeAll (model : SchemaModel)
    (writes : List ModelWrite) (input : String) :
    (model.writeAll writes).inputFieldsOf input =
      (model.inputFieldsOf input).insertAll
        (SectionWrite.entriesOf input
          (writes.filterMap (·.inputWrite?))) := by
  unfold inputFieldsOf
  rw [inputs_writeAll, OrderedMap.getD_writeSections]

end SchemaModel

end TableGateway

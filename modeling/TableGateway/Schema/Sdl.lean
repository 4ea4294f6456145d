import TableGateway.Schema.Model
import TableGateway.Text.Blank

/-!
# The text of a schema

Types are written as blocks, one field a line, and separated by blank lines.
The text begins with a block, without white space before it, and ends with one
line break.
-/

namespace TableGateway

namespace Sdl

def typed (name : String) (type : TypeRef) : List Char :=
  name.toList ++ ':' :: ' ' :: type.text.toList

/-- The parameters of a field. -/
def renderParams (params : OrderedMap TypeRef) : List Char :=
  [',', ' '].intercalate
    (params.entries.map fun (name, type) => typed name type)

/-- A field with its parameters, if there are any, and its type. -/
def fieldLine (field : FieldDefinition) : List Char :=
  if field.params.entries.isEmpty then typed field.name field.type
  else
    field.name.toList ++ '(' :: renderParams field.params ++
      ')' :: ':' :: ' ' :: field.type.text.toList

/-- A field of an object type as it is written. -/
def renderField (field : FieldDefinition) : String :=
  String.ofList (fieldLine field)

def renderBlock (keyword name : String) (lines : List (List Char)) :
    List Char :=
  keyword.toList ++ ' ' :: name.toList ++ [' ', '\x7b', '\n'] ++
    lines.flatMap (fun line => ' ' :: ' ' :: line ++ ['\n']) ++ ['\x7d']

def typeBlock (name : String) (fields : TypeFields) : List Char :=
  renderBlock "type" name (fields.values.map fieldLine)

def inputBlock (name : String) (fields : InputFields) : List Char :=
  renderBlock "input" name
    (fields.entries.map fun (field, type) => typed field type)

/-- The blocks of a model: object types, then input types. -/
def blocks (model : SchemaModel) : List (List Char) :=
  (model.types.entries.map fun (name, fields) => typeBlock name fields) ++
    model.inputs.entries.map fun (name, fields) => inputBlock name fields

end Sdl

/-- The text of a model. -/
def SchemaModel.sdl (model : SchemaModel) : String :=
  String.ofList
    (trim (['\n', '\n'].intercalate (Sdl.blocks model)) ++ ['\n'])

end TableGateway

import TableGateway.Json.Parser

/-!
# Records in JSON

A record is read from an object, or from an array of its fields in order.
Members of other names are passed over whatever they hold, a name given twice
is an error, and so are more items than fields.
-/

namespace TableGateway

namespace Document

/-! ## Simple values -/

def readString? : Document → Option String
  | string text => text
  | _ => none

/-- A truth value. -/
def readBool? : Document → Option Bool
  | bool value => some value
  | _ => none

/-- A whole number of 64 bits without a sign. -/
def readWord? : Document → Option Nat
  | number token =>
      match token.value? with
      | some (.integer value) =>
          if 0 ≤ value then some value.toNat else none
      | _ => none
  | _ => none

def readNullable? {value : Type} (read : Document → Option value) :
    Document → Option (Option value)
  | null => some none
  | other => (read other).map some

/-- An array of values. -/
def readList? {value : Type} (read : Document → Option value) :
    Document → Option (List value)
  | array items => items.mapM read
  | _ => none

/-! ## Records -/

/-- The documents given for a field among the members of an object. -/
def membersNamed (name : String)
    (members : List (Option String × Document)) : List Document :=
  members.filterMap fun (key, item) =>
    if key = some name then some item else none

/-- What an object or an array says about each of the named fields: nothing,
or one document. -/
def fields? (names : List String) :
    Document → Option (List (Option Document))
  | object members =>
      if members.all (·.1.isSome) then
        names.mapM fun name =>
          match membersNamed name members with
          | [] => some none
          | [item] => some (some item)
          | _ => none
      else none
  | array items =>
      if items.length ≤ names.length then
        some ((items.map some) ++
          List.replicate (names.length - items.length) none)
      else none
  | _ => none

/-- A field that must be given. -/
def required? {value : Type} (read : Document → Option value)
    (field : Option Document) : Option value :=
  field.bind read

/-- A field that has a default when it is not given. -/
def optional? {value : Type} (fallback : value)
    (read : Document → Option value) : Option Document → Option value
  | none => some fallback
  | some item => read item

end Document

end TableGateway

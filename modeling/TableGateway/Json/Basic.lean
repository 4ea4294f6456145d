import TableGateway.Json.Number
import TableGateway.OrderedMap

/-!
# JSON values

Values of JSON, how they are compared, and how parts of them are looked up.
-/

namespace TableGateway

/-- A JSON value. -/
inductive Json where
  | null
  | bool (value : Bool)
  | number (value : Number)
  | string (text : String)
  | array (items : List Json)
  | object (members : List (String × Json))

instance : Inhabited Json := ⟨.null⟩

/-- The members of an object, in ascending order of their keys. -/
abbrev Members := List (String × Json)

namespace Json

/-- A whole number as a JSON value. -/
def ofInt (value : Int) : Json :=
  .number (.integer value)

def ofStrings (texts : List String) : Json :=
  .array (texts.map .string)

mutual

/-- Equality of values: member by member, numbers by `Number.same`. -/
def same : Json → Json → Bool
  | null, null => true
  | bool left, bool right => left == right
  | number left, number right => left.same right
  | string left, string right => left == right
  | array left, array right => sameItems left right
  | object left, object right => sameMembers left right
  | _, _ => false

/-- Equality of lists of values. -/
def sameItems : List Json → List Json → Bool
  | [], [] => true
  | left :: leftRest, right :: rightRest =>
      same left right && sameItems leftRest rightRest
  | _, _ => false

def sameMembers :
    List (String × Json) → List (String × Json) → Bool
  | [], [] => true
  | (leftKey, left) :: leftRest, (rightKey, right) :: rightRest =>
      leftKey == rightKey && same left right &&
        sameMembers leftRest rightRest
  | _, _ => false

end

/-- Whether a value is null. -/
def isNull : Json → Bool
  | null => true
  | _ => false

/-- The truth value, if it is one. -/
def asBool? : Json → Option Bool
  | bool value => some value
  | _ => none

/-- The members, if the value is an object. -/
def asObject? : Json → Option Members
  | object members => some members
  | _ => none

/-- The whole number of 64 bits with a sign, if the value is one. -/
def signedWord? : Json → Option Int
  | number value => value.signedWord?
  | _ => none

/-- The value of a member; only objects have members. -/
def get? (value : Json) (key : String) : Option Json :=
  match value with
  | object members => OrderedMap.findEntry key members
  | _ => none

/-- The value of a member unless it is absent or null. -/
def present? (value : Json) (key : String) : Option Json :=
  (value.get? key).filter (!·.isNull)

end Json

end TableGateway

import TableGateway.Json.Members
import TableGateway.Json.Token

/-!
# Parsed JSON text

A `Document` is JSON text after its grammar has been checked and before its
tokens have been given values: numbers that no double can hold and strings with
half a surrogate pair are still in it, members stand as written and may repeat
a key. `toJson?` gives it a value if every token has one and the nesting is not
too deep.
-/

namespace TableGateway

/-- JSON text whose grammar has been checked. A string without a value is
`none`. -/
inductive Document where
  | null
  | bool (value : Bool)
  | number (token : NumberToken)
  | string (text : Option String)
  | array (items : List Document)
  | object (members : List (Option String × Document))

namespace Document

/-- How deeply arrays and objects of a value may be nested. -/
def nestingLimit : Nat := 127

mutual

/-- The value of a document with at most `depth` levels of nesting. -/
def toJson? (depth : Nat) : Document → Option Json
  | null => some .null
  | bool value => some (.bool value)
  | number token => token.value?.map .number
  | string text => text.map .string
  | array items =>
      match depth with
      | 0 => none
      | inner + 1 => (itemsToJson? inner items).map .array
  | object members =>
      match depth with
      | 0 => none
      | inner + 1 => (membersToJson? inner members).map Json.ofMembers

def itemsToJson? (depth : Nat) : List Document → Option (List Json)
  | [] => some []
  | item :: rest => do
      let value ← toJson? depth item
      let values ← itemsToJson? depth rest
      return value :: values

/-- The keys and values of a list of members, as written. -/
def membersToJson? (depth : Nat) :
    List (Option String × Document) → Option Members
  | [] => some []
  | (key, item) :: rest => do
      let name ← key
      let value ← toJson? depth item
      let values ← membersToJson? depth rest
      return (name, value) :: values

end

end Document

end TableGateway

import TableGateway.Json.Basic

/-!
# JSON text

The compact text of a value: no spaces, members as they stand, and only those
characters escaped that must be.
-/

namespace TableGateway

/-- A digit in base sixteen, with small letters. -/
def hexDigit (value : Nat) : Char :=
  Nat.digitChar value

/-- The escape of a code unit by its four digits in base sixteen. -/
def unitEscape (unit : Nat) : List Char :=
  ['\\', 'u', hexDigit (unit / 4096 % 16), hexDigit (unit / 256 % 16),
    hexDigit (unit / 16 % 16), hexDigit (unit % 16)]

/-- A character as it stands inside a JSON string. -/
def jsonForm (letter : Char) : List Char :=
  if letter = '"' ∨ letter = '\\' then ['\\', letter]
  else if letter = '\x08' then ['\\', 'b']
  else if letter = '\t' then ['\\', 't']
  else if letter = '\n' then ['\\', 'n']
  else if letter = '\x0c' then ['\\', 'f']
  else if letter = '\r' then ['\\', 'r']
  else if letter.toNat < 32 then unitEscape letter.toNat
  else [letter]

/-- A string between double quotes. -/
def jsonString (text : String) : List Char :=
  '"' :: text.toList.flatMap jsonForm ++ ['"']

namespace Json

mutual

/-- The compact text of a value. -/
def write : Json → List Char
  | null => ['n', 'u', 'l', 'l']
  | bool true => ['t', 'r', 'u', 'e']
  | bool false => ['f', 'a', 'l', 's', 'e']
  | number value => value.text
  | string text => jsonString text
  | array items => '[' :: writeItems items ++ [']']
  | object members => '\x7b' :: writeMembers members ++ ['\x7d']

/-- The items of an array, a comma between neighbours. -/
def writeItems : List Json → List Char
  | [] => []
  | [item] => write item
  | item :: next :: rest => write item ++ ',' :: writeItems (next :: rest)

/-- The members of an object, a comma between neighbours. -/
def writeMembers : List (String × Json) → List Char
  | [] => []
  | [(key, value)] => jsonString key ++ ':' :: write value
  | (key, value) :: next :: rest =>
      jsonString key ++ ':' :: write value ++
        ',' :: writeMembers (next :: rest)

end

def text (value : Json) : String :=
  String.ofList value.write

end Json

end TableGateway

import TableGateway.Text.HiddenTable

/-!
# Quoted text

A text between double quotes, readable for people: quotes, backslashes and the
common control characters are escaped by a letter, characters without a shape
of their own by their number.
-/

namespace TableGateway

/-- The number of a character in braces. -/
def numberEscape (letter : Char) : List Char :=
  '\\' :: 'u' :: '\x7b' :: Nat.toDigits 16 letter.toNat ++ ['\x7d']

/-- A character as it stands inside quotes. -/
def quotedForm (letter : Char) : List Char :=
  if letter = '\x00' then ['\\', '0']
  else if letter = '\t' then ['\\', 't']
  else if letter = '\r' then ['\\', 'r']
  else if letter = '\n' then ['\\', 'n']
  else if letter = '\\' ∨ letter = '"' then ['\\', letter]
  else if inTable hiddenTable letter.toNat then numberEscape letter
  else [letter]

/-- A string between double quotes. -/
def quoted (text : String) : String :=
  String.ofList ('"' :: text.toList.flatMap quotedForm ++ ['"'])

end TableGateway

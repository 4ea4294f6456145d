import TableGateway.Text.LetterTable
import TableGateway.Text.CaseTable

/-!
# Upper and lower case

Case mappings of single characters and of whole texts. The Greek capital sigma
has two small forms. `lowercase` chooses the final one at the end of a word,
where the word's extent is judged by its cased letters alone.
-/

namespace TableGateway

/-! ## Character classes -/

/-- A letter or a number. -/
def isAlphanumeric (letter : Char) : Bool :=
  inTable alphanumericTable letter.toNat

/-- A small letter. -/
def isLowercase (letter : Char) : Bool :=
  inTable lowercaseTable letter.toNat

/-- A capital letter. -/
def isUppercase (letter : Char) : Bool :=
  inTable uppercaseTable letter.toNat

/-- A letter that has a case. -/
def isCased (letter : Char) : Bool :=
  inTable casedTable letter.toNat

/-- A character that is passed over when the end of a word is judged. -/
def isCaseIgnorable (letter : Char) : Bool :=
  inTable caseIgnorableTable letter.toNat

/-! ## Mappings of one character -/

/-- The image of a character under a table of expansions and one of shifts. -/
def mapCase
    (expansions : List (Nat × List Nat)) (shifts : List Shift)
    (letter : Char) : List Char :=
  match expansionIn? expansions letter.toNat with
  | some codes => codes.map Char.ofNat
  | none =>
      match shiftIn? shifts letter.toNat with
      | some code => [Char.ofNat code]
      | none => [letter]

/-- The small form of a character, without regard to its neighbours. -/
def lowerForm (letter : Char) : List Char :=
  if letter.toNat < 128 then [letter.toLower]
  else mapCase toLowerExpansions toLowerTable letter

/-- The capital form of a character. -/
def upperForm (letter : Char) : List Char :=
  if letter.toNat < 128 then [letter.toUpper]
  else mapCase toUpperExpansions toUpperTable letter

/-! ## Mapping a text -/

/-- Whether the first character that counts for case has one. -/
def casedFollows : List Char → Bool
  | [] => false
  | letter :: rest =>
      if isCaseIgnorable letter then casedFollows rest else isCased letter

/-- Lower case of the rest of a text; `afterCased` tells whether the last
character that counts for case had one. -/
def lowercaseFrom (afterCased : Bool) : List Char → List Char
  | [] => []
  | letter :: rest =>
      let here :=
        if letter = 'Σ' then
          if afterCased && !casedFollows rest then ['ς'] else ['σ']
        else lowerForm letter
      let next :=
        if isCaseIgnorable letter then afterCased else isCased letter
      here ++ lowercaseFrom next rest

/-- A text in lower case, with a final sigma at the end of a word. -/
def lowercase (text : List Char) : List Char :=
  lowercaseFrom false text

/-- A string in lower case. -/
def lowercased (text : String) : String :=
  String.ofList (lowercase text.toList)

end TableGateway

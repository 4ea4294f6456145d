import TableGateway.Text.Casing
import TableGateway.Text.Segments

/-!
# Camel case

A name is cut into words at every character that is neither letter nor number,
between a small letter and a capital, and before the last capital of a run that
a small letter follows. Camel case joins the words again, each with a capital
first letter.
-/

namespace TableGateway

/-! ## The words of a name -/

/-- The case of the word being read, as far as it is known. -/
inductive WordCase where
  | undecided
  | lower
  | upper
  deriving DecidableEq

/-- The case of a word after one more letter. -/
def WordCase.after (state : WordCase) (letter : Char) : WordCase :=
  if isLowercase letter then .lower
  else if isUppercase letter then .upper
  else state

/-- The words of a piece without separators; `current` holds the letters of
the word being read, last one first. -/
def pieceWords (state : WordCase) (current : List Char) :
    List Char → List (List Char)
  | [] => []
  | [letter] => [(letter :: current).reverse]
  | letter :: next :: rest =>
      if state.after letter = .lower ∧ isUppercase next then
        (letter :: current).reverse :: pieceWords .undecided [] (next :: rest)
      else if state = .upper ∧ isUppercase letter ∧ isLowercase next then
        current.reverse :: pieceWords .undecided [letter] (next :: rest)
      else pieceWords (state.after letter) (letter :: current) (next :: rest)

def nameWords (name : List Char) : List (List Char) :=
  (segmentsBy (fun letter => !isAlphanumeric letter) name).flatMap
    (pieceWords .undecided [])

/-! ## Writing the words -/

/-- A word in lower case; a capital sigma at its end becomes the final form. -/
def lowerWord : List Char → List Char
  | [] => []
  | [letter] => if letter = 'Σ' then ['ς'] else lowerForm letter
  | letter :: next :: rest => lowerForm letter ++ lowerWord (next :: rest)

/-- A word with a capital first letter. -/
def capitalWord : List Char → List Char
  | [] => []
  | letter :: rest => upperForm letter ++ lowerWord rest

/-- A name in camel case with a capital first letter. -/
def upperCamel (name : String) : String :=
  String.ofList ((nameWords name.toList).flatMap capitalWord)

/-- A name in camel case with a small first word. -/
def lowerCamel (name : String) : String :=
  match nameWords name.toList with
  | [] => ""
  | first :: others =>
      String.ofList (lowerWord first ++ others.flatMap capitalWord)

end TableGateway

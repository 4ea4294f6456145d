import TableGateway.Json.Document

/-!
# Reading JSON text

The grammar of strict JSON: four characters of white space, no leading zeros,
no trailing commas, nothing after the value. Every level of nesting takes at
least one character, which bounds the recursion by the length of the text.
-/

namespace TableGateway

namespace JsonText

/-- White space between tokens. -/
def isSpace (letter : Char) : Bool :=
  letter == ' ' || letter == '\t' || letter == '\n' || letter == '\r'

/-- A text without its leading white space. -/
def skipSpace (text : List Char) : List Char :=
  text.dropWhile isSpace

/-! ## Numbers -/

/-- One or more digits, and the rest of the text. -/
def digits? (text : List Char) : Option (List Char × List Char) :=
  match spanDigits text with
  | ([], _) => none
  | found => some found

/-- The digits before the point: a lone zero, or no zero in front. -/
def whole? : List Char → Option (List Char × List Char)
  | '0' :: rest =>
      if (rest.takeWhile Char.isDigit).isEmpty then some (['0'], rest)
      else none
  | text => digits? text

/-- An optional point with the digits after it. -/
def fraction? :
    List Char → Option (Option (List Char) × List Char)
  | '.' :: rest => (digits? rest).map fun (digits, after) =>
      (some digits, after)
  | text => some (none, text)

/-- An optional exponent. -/
def exponent? :
    List Char → Option (Option (Bool × List Char) × List Char)
  | [] => some (none, [])
  | mark :: rest =>
      if mark = 'e' ∨ mark = 'E' then
        let (negative, body) := spanSign rest
        (digits? body).map fun (digits, after) =>
          (some (negative, digits), after)
      else some (none, mark :: rest)

/-- An optional minus sign. -/
def minus : List Char → Bool × List Char
  | '-' :: rest => (true, rest)
  | text => (false, text)

/-- A number, and the rest of the text. -/
def number? (text : List Char) : Option (NumberToken × List Char) := do
  let (negative, body) := minus text
  let (whole, afterWhole) ← whole? body
  let (fraction, afterFraction) ← fraction? afterWhole
  let (exponent, rest) ← exponent? afterFraction
  return (⟨negative, whole, fraction, exponent⟩, rest)

/-! ## Strings -/

/-- The value of a digit in base sixteen. -/
def hexValue? (letter : Char) : Option Nat :=
  let code := letter.toNat
  if '0'.toNat ≤ code ∧ code ≤ '9'.toNat then some (code - '0'.toNat)
  else if 'a'.toNat ≤ code ∧ code ≤ 'f'.toNat then
    some (code - 'a'.toNat + 10)
  else if 'A'.toNat ≤ code ∧ code ≤ 'F'.toNat then
    some (code - 'A'.toNat + 10)
  else none

/-- The code unit of four digits in base sixteen. -/
def unit? (first second third fourth : Char) : Option Nat := do
  let thousands ← hexValue? first
  let hundreds ← hexValue? second
  let tens ← hexValue? third
  let ones ← hexValue? fourth
  return thousands * 4096 + hundreds * 256 + tens * 16 + ones

/-- The character that a letter after a backslash stands for. -/
def escaped? (letter : Char) : Option Char :=
  if letter = '"' ∨ letter = '\\' ∨ letter = '/' then some letter
  else if letter = 'b' then some '\x08'
  else if letter = 'f' then some '\x0c'
  else if letter = 'n' then some '\n'
  else if letter = 'r' then some '\r'
  else if letter = 't' then some '\t'
  else none

/-- The parts of a string up to its closing quote, and the rest of the
text. -/
def parts? : List Char → Option (List StringPart × List Char)
  | [] => none
  | '"' :: rest => some ([], rest)
  | '\\' :: 'u' :: first :: second :: third :: fourth :: rest => do
      let unit ← unit? first second third fourth
      let (parts, after) ← parts? rest
      return (.unit unit :: parts, after)
  | '\\' :: letter :: rest => do
      let value ← escaped? letter
      let (parts, after) ← parts? rest
      return (.letter value :: parts, after)
  | letter :: rest =>
      if letter.toNat < 32 ∨ letter = '\\' then none
      else do
        let (parts, after) ← parts? rest
        return (.letter letter :: parts, after)

/-- A string after its opening quote, and the rest of the text. The string has
no value when a surrogate stands alone in it. -/
def string? (text : List Char) : Option (Option String × List Char) :=
  (parts? text).map fun (parts, rest) =>
    ((joinParts? parts).map String.ofList, rest)

/-! ## Values -/

mutual

/-- A value, and the rest of the text. -/
def value? : Nat → List Char → Option (Document × List Char)
  | 0, _ => none
  | fuel + 1, text =>
      match skipSpace text with
      | 'n' :: 'u' :: 'l' :: 'l' :: rest => some (.null, rest)
      | 't' :: 'r' :: 'u' :: 'e' :: rest => some (.bool true, rest)
      | 'f' :: 'a' :: 'l' :: 's' :: 'e' :: rest =>
          some (.bool false, rest)
      | '"' :: rest => do
          let (found, after) ← string? rest
          return (.string found, after)
      | '[' :: rest =>
          match skipSpace rest with
          | ']' :: after => some (.array [], after)
          | body => do
              let (items, after) ← items? fuel body
              return (.array items, after)
      | '\x7b' :: rest =>
          match skipSpace rest with
          | '\x7d' :: after => some (.object [], after)
          | body => do
              let (members, after) ← members? fuel body
              return (.object members, after)
      | body => do
          let (token, after) ← number? body
          return (.number token, after)

/-- The items of an array up to its closing bracket. -/
def items? : Nat → List Char → Option (List Document × List Char)
  | 0, _ => none
  | fuel + 1, text => do
      let (item, after) ← value? fuel text
      match skipSpace after with
      | ']' :: rest => return ([item], rest)
      | ',' :: rest =>
          let (items, final) ← items? fuel rest
          return (item :: items, final)
      | _ => none

/-- The members of an object up to its closing brace. -/
def members? :
    Nat → List Char → Option (List (Option String × Document) × List Char)
  | 0, _ => none
  | fuel + 1, text =>
      match skipSpace text with
      | '"' :: body => do
          let (key, afterKey) ← string? body
          match skipSpace afterKey with
          | ':' :: valueText =>
              let (item, after) ← value? fuel valueText
              match skipSpace after with
              | '\x7d' :: rest => return ([(key, item)], rest)
              | ',' :: rest =>
                  let (members, final) ← members? fuel rest
                  return ((key, item) :: members, final)
              | _ => none
          | _ => none
      | _ => none

end

end JsonText

/-- The document that a text is, if it is JSON and nothing else. -/
def Document.parse? (text : String) : Option Document := do
  let letters := text.toList
  let (document, rest) ← JsonText.value? (2 * letters.length + 2) letters
  if (JsonText.skipSpace rest).isEmpty then some document else none

/-- The value that a text denotes, if it is JSON with a value. -/
def Json.parse? (text : String) : Option Json := do
  (← Document.parse? text).toJson? Document.nestingLimit

end TableGateway

import TableGateway.Json.Parser
import TableGateway.Json.Printer
import TableGateway.Proofs.Json.NumberText

/-!
# Written values are read

The text of every value is strict JSON and is read as the document of the value
(`Document.parse?_text`). Strings are read with all their characters, whichever of
them are written as escapes (`JsonText.string?_written`).
-/

namespace TableGateway

namespace JsonText

/-! ## Strings -/

theorem hexValue?_hexDigit {value : Nat} (small : value < 16) :
    hexValue? (hexDigit value) = some value := by
  have each : ∀ digit < 16, hexValue? (hexDigit digit) = some digit := by
    decide
  exact each value small

theorem parts?_unitEscape {unit : Nat} (small : unit < 65536)
    (text : List Char) :
    parts? (unitEscape unit ++ text) =
      (parts? text).map fun (parts, rest) => (.unit unit :: parts, rest) := by
  have read : unit? (hexDigit (unit / 4096 % 16)) (hexDigit (unit / 256 % 16))
      (hexDigit (unit / 16 % 16)) (hexDigit (unit % 16)) = some unit := by
    have sumEq : unit / 4096 % 16 * 4096 + unit / 256 % 16 * 256 +
        unit / 16 % 16 * 16 + unit % 16 = unit := by
      omega
    have digit (value : Nat) : hexValue? (hexDigit (value % 16)) =
        some (value % 16) :=
      hexValue?_hexDigit (Nat.mod_lt value (by decide))
    simp [unit?, digit, sumEq]
  rw [unitEscape, List.cons_append, List.cons_append, List.cons_append,
    List.cons_append, List.cons_append, List.cons_append, List.nil_append,
    parts?, read]
  cases parts? text <;> rfl

theorem joinParts?_unit {unit : Nat} (noHigh : isHighSurrogate unit = false)
    (noLow : isLowSurrogate unit = false) (parts : List StringPart) :
    joinParts? (.unit unit :: parts) =
      (joinParts? parts).map (Char.ofNat unit :: ·) := by
  cases parts with
  | nil => simp [joinParts?, noHigh, noLow]
  | cons part rest =>
      cases part <;> simp [joinParts?, noHigh, noLow]

theorem parts?_escape {mark letter : Char} (named : escaped? mark = some letter)
    (text : List Char) :
    parts? ('\\' :: mark :: text) =
      (parts? text).map fun (parts, rest) => (.letter letter :: parts, rest) := by
  rw [parts?, named]
  · cases parts? text <;> rfl
  · rintro _ _ _ _ _ rfl
    nomatch named

theorem parts?_plain {letter : Char} (visible : 32 ≤ letter.toNat)
    (noQuote : letter ≠ '"') (noBackslash : letter ≠ '\\')
    (text : List Char) :
    parts? (letter :: text) =
      (parts? text).map fun (parts, rest) => (.letter letter :: parts, rest) := by
  rw [parts?, if_neg (by simp [noBackslash, visible])]
  · cases parts? text <;> rfl
  · exact noQuote
  · exact fun _ _ _ _ _ same => absurd same noBackslash
  · exact fun _ _ same => absurd same noBackslash

/-- A form in which a letter can stand in a string. -/
def IsFormOf (form : List Char) (letter : Char) : Prop :=
  ∃ part,
    (∀ text, parts? (form ++ text) =
      (parts? text).map fun (parts, rest) => (part :: parts, rest)) ∧
    ∀ parts, joinParts? (part :: parts) =
      (joinParts? parts).map (letter :: ·)

theorem isFormOf_escape {mark letter : Char}
    (named : escaped? mark = some letter) : IsFormOf ['\\', mark] letter :=
  ⟨.letter letter, parts?_escape named, fun _ => rfl⟩

theorem isFormOf_unitEscape {letter : Char} (hidden : letter.toNat < 32) :
    IsFormOf (unitEscape letter.toNat) letter := by
  have noHigh : isHighSurrogate letter.toNat = false := by
    simp [isHighSurrogate]
    omega
  have noLow : isLowSurrogate letter.toNat = false := by
    simp [isLowSurrogate]
    omega
  refine ⟨.unit letter.toNat, parts?_unitEscape (by omega), fun parts => ?_⟩
  rw [joinParts?_unit noHigh noLow, Char.ofNat_toNat]

theorem isFormOf_jsonForm (letter : Char) :
    IsFormOf (jsonForm letter) letter := by
  unfold jsonForm
  by_cases quoted : letter = '"' ∨ letter = '\\'
  · rw [if_pos quoted]
    apply isFormOf_escape
    rcases quoted with rfl | rfl <;> rfl
  rw [if_neg quoted]
  rw [not_or] at quoted
  by_cases backspace : letter = '\x08'
  · subst backspace
    exact isFormOf_escape rfl
  rw [if_neg backspace]
  by_cases tab : letter = '\t'
  · subst tab
    exact isFormOf_escape rfl
  rw [if_neg tab]
  by_cases newLine : letter = '\n'
  · subst newLine
    exact isFormOf_escape rfl
  rw [if_neg newLine]
  by_cases formFeed : letter = '\x0c'
  · subst formFeed
    exact isFormOf_escape rfl
  rw [if_neg formFeed]
  by_cases carriageReturn : letter = '\r'
  · subst carriageReturn
    exact isFormOf_escape rfl
  rw [if_neg carriageReturn]
  by_cases hidden : letter.toNat < 32
  · rw [if_pos hidden]
    exact isFormOf_unitEscape hidden
  · rw [if_neg hidden]
    exact ⟨.letter letter,
      parts?_plain (Nat.not_lt.mp hidden) quoted.1 quoted.2, fun _ => rfl⟩

/-- The letters between two quotes are read as they were. -/
theorem exists_parts (letters rest : List Char) :
    ∃ parts,
      parts? (letters.flatMap jsonForm ++ '"' :: rest) = some (parts, rest) ∧
        joinParts? parts = some letters := by
  induction letters with
  | nil => exact ⟨[], rfl, rfl⟩
  | cons letter others inductionHypothesis =>
      obtain ⟨parts, partsRead, joined⟩ := inductionHypothesis
      obtain ⟨part, partRead, partJoined⟩ := isFormOf_jsonForm letter
      refine ⟨part :: parts, ?_, ?_⟩
      · rw [List.flatMap_cons, List.append_assoc, partRead, partsRead]
        rfl
      · rw [partJoined, joined]
        rfl

theorem string?_written (text : String) (rest : List Char) :
    string? (text.toList.flatMap jsonForm ++ '"' :: rest) =
      some (some text, rest) := by
  obtain ⟨parts, partsRead, joined⟩ := exists_parts text.toList rest
  rw [string?, partsRead, Option.map_some]
  dsimp only
  rw [joined, Option.map_some, String.ofList_toList]

end JsonText

/-! ## Documents of values -/

namespace Json

mutual

/-- The document that the text of a value is. -/
def document : Json → Document
  | null => .null
  | bool value => .bool value
  | number value => .number value.token
  | string text => .string (some text)
  | array items => .array (itemDocuments items)
  | object members => .object (memberDocuments members)

def itemDocuments : List Json → List Document
  | [] => []
  | item :: rest => document item :: itemDocuments rest

def memberDocuments :
    List (String × Json) → List (Option String × Document)
  | [] => []
  | (key, value) :: rest => (some key, document value) :: memberDocuments rest

end

theorem itemDocuments_eq_map (items : List Json) :
    itemDocuments items = items.map document := by
  induction items with
  | nil => rfl
  | cons item rest inductionHypothesis =>
      rw [itemDocuments, inductionHypothesis, List.map_cons]

theorem memberDocuments_eq_map (members : List (String × Json)) :
    memberDocuments members =
      members.map fun (key, value) => (some key, value.document) := by
  induction members with
  | nil => rfl
  | cons member rest inductionHypothesis =>
      obtain ⟨key, value⟩ := member
      rw [memberDocuments, inductionHypothesis, List.map_cons]

end Json

/-! ## Values -/

namespace JsonText

open Json (write writeItems writeMembers document itemDocuments
  memberDocuments)

/-- A letter that a number begins with. -/
def isNumberStart (letter : Char) : Bool :=
  letter.isDigit || letter == '-'

theorem exists_text_eq_cons (value : Number) :
    ∃ first tail, value.text = first :: tail ∧
      isNumberStart first = true := by
  obtain ⟨token, strict, writtenEq⟩ := value.exists_token
  rw [← writtenEq, NumberToken.written]
  cases token.negative with
  | true => exact ⟨'-', _, rfl, rfl⟩
  | false =>
      cases given : token.whole with
      | nil => exact absurd given strict.whole.nonempty
      | cons first others =>
          refine ⟨first, _, rfl, ?_⟩
          have isDigit : first.isDigit = true :=
            strict.whole.digits first (by simp [given])
          simp [isNumberStart, isDigit]

theorem skipSpace_cons {letter : Char} (visible : isSpace letter = false)
    (text : List Char) : skipSpace (letter :: text) = letter :: text := by
  simp [skipSpace, visible]

/-- A number begins with a letter that nothing else begins with. -/
theorem isSpace_of_isNumberStart {letter : Char}
    (starts : isNumberStart letter = true) : isSpace letter = false := by
  rw [Bool.eq_false_iff]
  intro space
  simp only [isSpace, Bool.or_eq_true, beq_iff_eq] at space
  rcases space with ((rfl | rfl) | rfl) | rfl <;>
    exact absurd starts (by decide)

theorem value?_number {first : Char} (starts : isNumberStart first = true)
    (fuel : Nat) (tail : List Char) :
    value? (fuel + 1) (first :: tail) =
      (number? (first :: tail)).map fun (token, rest) =>
        (.number token, rest) := by
  rw [value?, skipSpace_cons (isSpace_of_isNumberStart starts)]
  split
  case h_7 =>
    cases number? (first :: tail) <;> rfl
  all_goals
    rename_i equality
    injection equality with firstEq
    exact absurd (firstEq ▸ starts) (by decide)

theorem value?_quote (fuel : Nat) (body : List Char) :
    value? (fuel + 1) ('"' :: body) =
      (string? body).map fun (found, rest) => (.string found, rest) := by
  rw [value?, skipSpace_cons (by decide)]
  simp only
  cases string? body <;> rfl

theorem value?_bracket {first : Char} (visible : isSpace first = false)
    (inside : first ≠ ']') (fuel : Nat) (tail : List Char) :
    value? (fuel + 1) ('[' :: first :: tail) =
      (items? fuel (first :: tail)).map fun (items, rest) =>
        (.array items, rest) := by
  rw [value?, skipSpace_cons (by decide)]
  simp only
  rw [skipSpace_cons visible]
  split
  · rename_i equality
    injection equality with firstEq
    exact absurd firstEq inside
  · cases items? fuel (first :: tail) <;> rfl

theorem value?_brackets (fuel : Nat) (rest : List Char) :
    value? (fuel + 1) ('[' :: ']' :: rest) = some (.array [], rest) := by
  rw [value?, skipSpace_cons (by decide)]
  simp only
  rw [skipSpace_cons (by decide)]
  rfl

theorem value?_brace (fuel : Nat) (body : List Char) :
    value? (fuel + 1) ('\x7b' :: '"' :: body) =
      (members? fuel ('"' :: body)).map fun (members, rest) =>
        (.object members, rest) := by
  rw [value?, skipSpace_cons (by decide)]
  simp only
  rw [skipSpace_cons (by decide)]
  split
  · rename_i equality
    injection equality with firstEq
    exact absurd firstEq (by decide)
  · cases members? fuel ('"' :: body) <;> rfl

theorem value?_braces (fuel : Nat) (rest : List Char) :
    value? (fuel + 1) ('\x7b' :: '\x7d' :: rest) =
      some (.object [], rest) := by
  rw [value?, skipSpace_cons (by decide)]
  simp only
  rw [skipSpace_cons (by decide)]
  rfl

section Steps

variable {fuel : Nat} {text behind rest : List Char} {item : Document}
  {key : Option String}

theorem items?_last (read : value? fuel text = some (item, ']' :: rest)) :
    items? (fuel + 1) text = some ([item], rest) := by
  rw [items?, read]
  simp [skipSpace_cons (show isSpace ']' = false from rfl)]

theorem items?_next (read : value? fuel text = some (item, ',' :: behind)) :
    items? (fuel + 1) text =
      (items? fuel behind).map fun (items, rest) => (item :: items, rest) := by
  rw [items?, read]
  cases others : items? fuel behind <;>
    simp [skipSpace_cons (show isSpace ',' = false from rfl), others]

theorem members?_last (keyRead : string? text = some (key, ':' :: behind))
    (read : value? fuel behind = some (item, '\x7d' :: rest)) :
    members? (fuel + 1) ('"' :: text) = some ([(key, item)], rest) := by
  rw [members?, skipSpace_cons (by decide)]
  simp [keyRead, skipSpace_cons (show isSpace ':' = false from rfl), read,
    skipSpace_cons (show isSpace '\x7d' = false from rfl)]

theorem members?_next {others : List Char}
    (keyRead : string? text = some (key, ':' :: behind))
    (read : value? fuel behind = some (item, ',' :: others)) :
    members? (fuel + 1) ('"' :: text) =
      (members? fuel others).map fun (members, rest) =>
        ((key, item) :: members, rest) := by
  rw [members?, skipSpace_cons (by decide)]
  cases found : members? fuel others <;>
    simp [keyRead, skipSpace_cons (show isSpace ':' = false from rfl), read,
      skipSpace_cons (show isSpace ',' = false from rfl), found]

end Steps

/-- What a written value begins with. -/
theorem exists_write_eq_cons (value : Json) :
    ∃ first tail, write value = first :: tail ∧ isSpace first = false ∧
      first ≠ ']' := by
  cases value with
  | number value =>
      obtain ⟨first, tail, textEq, starts⟩ := exists_text_eq_cons value
      refine ⟨first, tail, textEq, isSpace_of_isNumberStart starts, ?_⟩
      rintro rfl
      cases starts
  | bool value => cases value <;> exact ⟨_, _, rfl, rfl, by decide⟩
  | _ => exact ⟨_, _, rfl, rfl, by decide⟩

theorem exists_writeItems_eq_cons (item : Json) (others : List Json) :
    ∃ first tail, writeItems (item :: others) = first :: tail ∧
      isSpace first = false ∧ first ≠ ']' := by
  obtain ⟨first, tail, writeEq, visible, inside⟩ := exists_write_eq_cons item
  cases others with
  | nil => exact ⟨first, tail, writeEq, visible, inside⟩
  | cons next rest =>
      rw [writeItems, writeEq]
      exact ⟨first, _, rfl, visible, inside⟩

theorem exists_writeMembers_eq_cons (member : String × Json)
    (others : List (String × Json)) :
    ∃ tail, writeMembers (member :: others) = '"' :: tail := by
  cases others with
  | nil => exact ⟨_, rfl⟩
  | cons next rest => exact ⟨_, rfl⟩

theorem jsonString_append (text : String) (rest : List Char) :
    jsonString text ++ rest =
      '"' :: (text.toList.flatMap jsonForm ++ '"' :: rest) := by
  simp [jsonString]

mutual

/-- A written value is read as its document, whatever follows that does not go on
with a number. -/
theorem value?_write : ∀ (value : Json) (fuel : Nat) (rest : List Char),
    2 * (write value).length ≤ fuel → Stops isNumberLetter rest →
    value? fuel (write value ++ rest) = some (document value, rest)
  | .null, fuel + 1, rest, _, _ => rfl
  | .bool true, fuel + 1, rest, _, _ => rfl
  | .bool false, fuel + 1, rest, _, _ => rfl
  | .number value, 0, rest, enough, stops => by
      obtain ⟨first, tail, textEq, _⟩ := exists_text_eq_cons value
      rw [write, textEq, List.length_cons] at enough
      omega
  | .number value, fuel + 1, rest, _, stops => by
      obtain ⟨first, tail, textEq, starts⟩ := exists_text_eq_cons value
      have read := number?_text value stops
      rw [textEq, List.cons_append] at read
      rw [write, textEq, List.cons_append, value?_number starts, read]
      rfl
  | .string text, fuel + 1, rest, _, _ => by
      rw [write, jsonString_append, value?_quote, string?_written]
      rfl
  | .array [], fuel + 1, rest, _, _ => value?_brackets fuel rest
  | .array (item :: others), fuel + 1, rest, enough, _ => by
      obtain ⟨first, tail, itemsEq, visible, inside⟩ :=
        exists_writeItems_eq_cons item others
      rw [write, List.length_append, List.length_cons, List.length_singleton]
        at enough
      have read := items?_writeItems (item :: others) fuel rest
        (List.cons_ne_nil _ _) (by omega)
      rw [itemsEq, List.cons_append] at read
      rw [write, List.append_assoc, List.cons_append, List.singleton_append,
        itemsEq, List.cons_append, value?_bracket visible inside, read]
      rfl
  | .object [], fuel + 1, rest, _, _ => value?_braces fuel rest
  | .object (member :: others), fuel + 1, rest, enough, _ => by
      obtain ⟨tail, membersEq⟩ := exists_writeMembers_eq_cons member others
      rw [write, List.length_append, List.length_cons, List.length_singleton]
        at enough
      have read := members?_writeMembers (member :: others) fuel rest
        (List.cons_ne_nil _ _) (by omega)
      rw [membersEq, List.cons_append] at read
      rw [write, List.append_assoc, List.cons_append, List.singleton_append,
        membersEq, List.cons_append, value?_brace, read]
      rfl

theorem items?_writeItems : ∀ (items : List Json) (fuel : Nat)
    (rest : List Char), items ≠ [] →
    2 * (writeItems items).length < fuel →
    items? fuel (writeItems items ++ ']' :: rest) =
      some (itemDocuments items, rest)
  | [item], fuel + 1, rest, _, enough => by
      exact items?_last (value?_write item fuel (']' :: rest)
        (Nat.le_of_lt_succ enough) (stops_cons (by decide) rest))
  | item :: next :: others, fuel + 1, rest, _, enough => by
      rw [writeItems, List.length_append, List.length_cons] at enough
      have read := value?_write item fuel
        (',' :: (writeItems (next :: others) ++ ']' :: rest))
        (by omega) (stops_cons (by decide) _)
      have othersRead := items?_writeItems (next :: others) fuel rest
        (List.cons_ne_nil _ _) (by omega)
      rw [writeItems, List.append_assoc, List.cons_append, items?_next read,
        othersRead]
      rfl

theorem members?_writeMembers : ∀ (members : List (String × Json))
    (fuel : Nat) (rest : List Char), members ≠ [] →
    2 * (writeMembers members).length < fuel →
    members? fuel (writeMembers members ++ '\x7d' :: rest) =
      some (memberDocuments members, rest)
  | [(key, value)], fuel + 1, rest, _, enough => by
      rw [writeMembers, List.length_append, List.length_cons] at enough
      have read := value?_write value fuel ('\x7d' :: rest) (by omega)
        (stops_cons (by decide) rest)
      rw [writeMembers, List.append_assoc, List.cons_append,
        jsonString_append, members?_last (string?_written key _) read]
      rfl
  | (key, value) :: next :: others, fuel + 1, rest, _, enough => by
      rw [writeMembers, List.length_append, List.length_append,
        List.length_cons, List.length_cons] at enough
      have read := value?_write value fuel
        (',' :: (writeMembers (next :: others) ++ '\x7d' :: rest))
        (by omega) (stops_cons (by decide) _)
      have othersRead := members?_writeMembers (next :: others) fuel rest
        (List.cons_ne_nil _ _) (by omega)
      rw [writeMembers, List.append_assoc, List.append_assoc,
        List.cons_append, List.cons_append, jsonString_append,
        members?_next (string?_written key _) read, othersRead]
      rfl

end

end JsonText

/-- The text of a value is read as the document of the value. -/
theorem Document.parse?_text (value : Json) :
    Document.parse? value.text = some value.document := by
  have noneBehind : Stops isNumberLetter [] := nofun
  have read := JsonText.value?_write value (2 * value.write.length + 2) []
    (Nat.le_add_right _ 2) noneBehind
  rw [List.append_nil] at read
  have lettersEq : value.text.toList = value.write := String.toList_ofList
  rw [Document.parse?, lettersEq]
  dsimp only
  rw [read]
  rfl

end TableGateway

import TableGateway.Json.Basic
import TableGateway.Text.Blank
import TableGateway.Text.Segments

/-!
# Pagination

A pagination text is a list of keys and values. Keys may repeat; the first one
counts. Three of them have a meaning here: `limit`, `offset` and `orderby`.
-/

namespace TableGateway

/-- The entries of a pagination expression, as written. -/
structure Pagination where
  table : String
  entries : List (String × String)
  deriving DecidableEq

/-- A field to sort by, and the direction. -/
structure OrderBy where
  field : String
  ascending : Bool
  deriving DecidableEq

namespace Pagination

/-- The pagination that says nothing. -/
def empty (table : String) : Pagination :=
  ⟨table, []⟩

/-- Replace the value of the first entry with a key, or append an entry. -/
def setEntry (key value : String) :
    List (String × String) → List (String × String)
  | [] => [(key, value)]
  | (head, old) :: tail =>
      if head = key then (head, value) :: tail
      else (head, old) :: setEntry key value tail

/-- The value of the first entry with a key. -/
def get? (pagination : Pagination) (key : String) : Option String :=
  (pagination.entries.find? (·.1 == key)).map Prod.snd

/-- Whether a key occurs. -/
def contains (pagination : Pagination) (key : String) : Bool :=
  (pagination.get? key).isSome

def set (pagination : Pagination) (key value : String) : Pagination :=
  { pagination with entries := setEntry key value pagination.entries }

theorem get?_set (pagination : Pagination) (key value other : String) :
    (pagination.set key value).get? other =
      if other = key then some value else pagination.get? other := by
  unfold set get?
  dsimp only
  induction pagination.entries with
  | nil =>
      by_cases same : other = key
      · simp [setEntry, same]
      · simp [setEntry, same, Ne.symm same]
  | cons entry tail inductionHypothesis =>
      obtain ⟨head, old⟩ := entry
      by_cases headEq : head = key
      · subst headEq
        by_cases same : other = head
        · simp [setEntry, same]
        · simp [setEntry, same, Ne.symm same]
      · by_cases headOther : head = other
        · subst headOther
          simp [setEntry, headEq]
        · rw [setEntry, if_neg headEq, List.find?_cons_of_neg (by simpa),
            inductionHypothesis, List.find?_cons_of_neg (by simpa)]

/-! ## The keys with a meaning -/

/-- The number of records asked for, if it is a number. -/
def limit? (pagination : Pagination) : Option Nat :=
  (pagination.get? "limit").bind fun text => readWord? text.toList

/-- The number of records to pass over, if it is a number. -/
def offset? (pagination : Pagination) : Option Nat :=
  (pagination.get? "offset").bind fun text => readWord? text.toList

/-- Read a sort order: a field, then perhaps `desc` in any letter case. -/
def readOrder? (text : String) : Option OrderBy :=
  match blankWords text.toList with
  | [] => none
  | [field] => some ⟨String.ofList field, true⟩
  | field :: direction :: _ =>
      some ⟨String.ofList field,
        !sameAsciiCaseless (String.ofList direction) "desc"⟩

/-- The sort order asked for. -/
def orderBy? (pagination : Pagination) : Option OrderBy :=
  (pagination.get? "orderby").bind readOrder?

/-! ## Text -/

/-- A segment as an entry: cut at the first equals sign, both sides without
white space around them. -/
def parseEntry (segment : List Char) : String × String :=
  match cutAt? '=' segment with
  | some (key, value) =>
      (String.ofList (trim key), String.ofList (trim value))
  | none => (String.ofList (trim segment), "")

/-- Read a pagination expression; blank segments are passed over. -/
def parse (expression table : String) : Pagination where
  table := table
  entries :=
    ((segments ';' expression.toList).filter (!isBlankText ·)).map
      parseEntry

/-- A pagination as a JSON value: the entries under the name of the table. -/
def toJson (pagination : Pagination) : Json :=
  .object [(pagination.table, .array (pagination.entries.map
    fun (key, value) => Json.ofStrings [key, value]))]

end Pagination

end TableGateway

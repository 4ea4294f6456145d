import Mathlib.Data.List.Nodup
import Mathlib.Tactic.MkIffOfInductiveProp
import TableGateway.Naming

/-!
# Names that cannot meet

Page types, input types and root fields are told apart by their last letters.
Whether the types of two tables meet depends on the names of the tables, and
`Naming.Distinct` says that they do not.
-/

namespace TableGateway

namespace Naming

/-! ## Last letters -/

def lastLetter? (name : String) : Option Char :=
  name.toList.getLast?

/-- Whatever stands before an ending, its last letter stays. -/
theorem lastLetter?_append (start : String) {ending : String} {letter : Char}
    (last : lastLetter? ending = some letter) :
    lastLetter? (start ++ ending) = some letter := by
  unfold lastLetter? at last ⊢
  rw [String.toList_append, List.getLast?_append, last, Option.some_or]

theorem ne_of_lastLetter? {first second : String} {letter other : Char}
    (last : lastLetter? first = some letter)
    (otherLast : lastLetter? second = some other)
    (different : letter ≠ other) : first ≠ second := by
  rintro rfl
  rw [last] at otherLast
  exact different (Option.some.inj otherLast)

theorem lastLetter?_pageTypeName (table : String) :
    lastLetter? (pageTypeName table) = some 'e' :=
  lastLetter?_append _ (by decide)

theorem lastLetter?_inputTypeName (table : String) :
    lastLetter? (inputTypeName table) = some 't' :=
  lastLetter?_append _ (by decide)

theorem lastLetter?_getPageField (table : String) :
    lastLetter? (getPageField table) = some 'e' :=
  lastLetter?_append _ (by decide)

theorem lastLetter?_getFirstField (table : String) :
    lastLetter? (getFirstField table) = some 't' :=
  lastLetter?_append _ (by decide)

theorem lastLetter?_query : lastLetter? query = some 'y' := by decide

theorem lastLetter?_mutation : lastLetter? mutation = some 'n' := by decide

theorem lastLetter?_condition : lastLetter? condition = some 'n' := by decide

theorem getPageField_ne_getFirstField (first second : String) :
    getPageField first ≠ getFirstField second :=
  ne_of_lastLetter? (lastLetter?_getPageField first)
    (lastLetter?_getFirstField second) (by decide)

/-- No table has a page type that is a root type. -/
theorem pageTypeName_ne_of_isRoot {root : String}
    (isRoot : root ∈ [query, mutation]) (table : String) :
    pageTypeName table ≠ root := by
  rcases List.mem_pair.mp isRoot with rfl | rfl
  · exact ne_of_lastLetter? (lastLetter?_pageTypeName table)
      lastLetter?_query (by decide)
  · exact ne_of_lastLetter? (lastLetter?_pageTypeName table)
      lastLetter?_mutation (by decide)

/-- Names with one ending are as different as what they are made of. -/
theorem nodup_map_append_iff {item : Type} (items : List item)
    (start : item → String) (ending : String) :
    (items.map fun element => start element ++ ending).Nodup ↔
      (items.map start).Nodup := by
  have injective : Function.Injective fun name : String => name ++ ending :=
    fun first second same => (String.append_left_inj ending).mp same
  have composed : (items.map fun element => start element ++ ending) =
      (items.map start).map (fun name => name ++ ending) := by
    rw [List.map_map]
    rfl
  rw [composed, List.nodup_map_iff injective]

/-! ## Names of tables -/

/-- Tables whose types and root fields differ from each other, from the root
types and from the page types. -/
@[mk_iff]
structure Distinct (names : List String) : Prop where
  typeName_inj : ∀ first ∈ names, ∀ second ∈ names,
    typeName first = typeName second → first = second
  fieldStem_inj : ∀ first ∈ names, ∀ second ∈ names,
    fieldStem first = fieldStem second → first = second
  typeName_ne_query : ∀ name ∈ names, typeName name ≠ query
  typeName_ne_mutation : ∀ name ∈ names, typeName name ≠ mutation
  typeName_ne_page : ∀ first ∈ names, ∀ second ∈ names,
    typeName first ≠ pageTypeName second

instance (names : List String) : Decidable (Distinct names) :=
  decidable_of_iff' _ (distinct_iff names)

end Naming

end TableGateway

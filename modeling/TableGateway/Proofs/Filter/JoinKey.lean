import TableGateway.Proofs.Filter.Literal
import TableGateway.Store.Upsert

/-!
# Keys of joins

A join compares a text, a truth value or an integer with a column, by way of a
literal. Texts and truth values are told apart exactly. Integers are told apart
as far as their doubles differ (`JoinKey.compareLiteral?_eq_iff`).
-/

namespace TableGateway

/-- A value that rows are joined on. -/
inductive JoinKey where
  | text (value : String)
  | truth (value : Bool)
  | integer (value : Int)
  deriving DecidableEq

namespace JoinKey

/-- A key as it stands in a row. -/
def toJson : JoinKey → Json
  | text value => .string value
  | truth value => .bool value
  | integer value => .ofInt value

/-- A key as it stands in a clause. -/
def literal : JoinKey → String
  | text value => value
  | truth true => "true"
  | truth false => "false"
  | integer value => String.ofList (integerText value)

def SameKind : JoinKey → JoinKey → Prop
  | text _, text _ => True
  | truth _, truth _ => True
  | integer _, integer _ => True
  | _, _ => False

/-- Whether a join takes two keys for the same: integers when they have the
same nearest double. -/
def Alike : JoinKey → JoinKey → Prop
  | integer left, integer right =>
      Reading.ofInt left = Reading.ofInt right
  | left, right => left = right

/-- Whether a key is exact as a double, if it is a number. -/
def IsExact : JoinKey → Prop
  | integer value => value.natAbs < 2 ^ 53
  | _ => True

theorem literal?_toJson (key : JoinKey) :
    key.toJson.literal? = some key.literal := by
  cases key with
  | text value => rfl
  | truth value =>
      cases value with
      | false => rfl
      | true => rfl
  | integer value => rfl

theorem isScalar_toJson (key : JoinKey) : key.toJson.IsScalar := by
  cases key <;> trivial

theorem toJson_injective : Function.Injective toJson := by
  intro left right same
  cases left with
  | text value =>
      cases right <;> cases same
      rfl
  | truth value =>
      cases right <;> cases same
      rfl
  | integer value =>
      cases right <;> cases same
      rfl

@[simp]
theorem alike_text_iff (left right : String) :
    (text left).Alike (text right) ↔ left = right :=
  Iff.of_eq (text.injEq left right)

@[simp]
theorem alike_truth_iff (left right : Bool) :
    (truth left).Alike (truth right) ↔ left = right :=
  Iff.of_eq (truth.injEq left right)

@[simp]
theorem alike_integer_iff (left right : Int) :
    (integer left).Alike (integer right) ↔
      Reading.ofInt left = Reading.ofInt right := Iff.rfl

theorem alike_refl (key : JoinKey) : key.Alike key := by
  cases key <;> simp

theorem alike_comm (left right : JoinKey) :
    left.Alike right ↔ right.Alike left := by
  cases left <;> cases right <;> simp [Alike, eq_comm]

theorem sameKind_refl (key : JoinKey) : key.SameKind key := by
  cases key <;> trivial

theorem SameKind.symm {left right : JoinKey}
    (sameKind : left.SameKind right) : right.SameKind left := by
  cases left <;> cases right <;> trivial

/-- An exact key is taken for no other. -/
theorem alike_iff_eq {key other : JoinKey} (exact : key.IsExact) :
    other.Alike key ↔ other = key := by
  cases key with
  | text value => cases other <;> rfl
  | truth value => cases other <;> rfl
  | integer value =>
      cases other with
      | text found => rfl
      | truth found => rfl
      | integer found =>
          rw [alike_integer_iff, integer.injEq]
          exact Reading.ofInt_eq_ofInt_iff exact

/-- A value is equal to the literal of a key of its kind when the two are
alike. -/
theorem compareLiteral?_eq_iff {key other : JoinKey}
    (sameKind : other.SameKind key) :
    other.toJson.compareLiteral? key.literal = some .eq ↔
      other.Alike key := by
  cases other with
  | text found =>
      cases key with
      | text value =>
          have compared :
              (text found).toJson.compareLiteral? (text value).literal =
                some (compare found value) := rfl
          rw [compared, Option.some.injEq, alike_text_iff,
            Std.LawfulEqOrd.compare_eq_iff_eq]
      | truth value => exact sameKind.elim
      | integer value => exact sameKind.elim
  | truth found =>
      cases key with
      | text value => exact sameKind.elim
      | truth value =>
          rw [alike_truth_iff]
          cases found <;> cases value <;> decide
      | integer value => exact sameKind.elim
  | integer found =>
      cases key with
      | text value => exact sameKind.elim
      | truth value => exact sameKind.elim
      | integer value =>
          have compared :
              (integer found).toJson.compareLiteral?
                  (integer value).literal =
                (readDouble?
                  (String.ofList (integerText value)).toList).bind
                    (Reading.ofInt found).compare? := rfl
          rw [compared, String.toList_ofList, readDouble?_integerText,
            Option.bind_some, alike_integer_iff,
            Reading.compare?_ofInt_eq_iff]

/-! ## Rows -/

theorem same_toJson_iff (found : Json) (key : JoinKey) :
    found.same key.toJson = true ↔ found = key.toJson := by
  cases key with
  | text value =>
      cases found <;> simp [toJson, Json.same]
  | truth value =>
      cases found <;> simp [toJson, Json.same]
  | integer value =>
      cases found with
      | number number =>
          cases number <;>
            simp [toJson, Json.same, Json.ofInt, Number.same]
      | _ => simp [toJson, Json.same, Json.ofInt]

theorem holdsValue_iff (column : String) (key : JoinKey) (row : Json) :
    holdsValue column key.toJson row = true ↔
      row.present? column = some key.toJson := by
  unfold holdsValue Json.present?
  cases row.get? column with
  | none => simp
  | some found =>
      simp only [Option.filter_some, same_toJson_iff]
      constructor
      · intro same
        rw [same, if_pos]
        cases key <;> rfl
      · intro present
        by_cases kept : (!found.isNull) = true
        · rw [if_pos kept, Option.some.injEq] at present
          exact present
        · rw [if_neg kept] at present
          cases present

/-- What a row has in a column, if anything, is of the kind of a key. -/
def MatchesKind (column : String) (key : JoinKey) (row : Json) : Prop :=
  ∀ found, row.present? column = some found →
    ∃ other : JoinKey, found = other.toJson ∧ other.SameKind key

theorem isSatisfied_equal_iff {column : String} {key : JoinKey} {row : Json}
    (kindMatches : MatchesKind column key row) :
    (FilterClause.equal column key.literal).isSatisfied row = true ↔
      ∃ other : JoinKey,
        row.present? column = some other.toJson ∧ other.Alike key := by
  rw [FilterClause.isSatisfied_equal_iff]
  constructor
  · rintro ⟨found, present, compared⟩
    obtain ⟨other, rfl, sameKind⟩ := kindMatches found present
    exact ⟨other, present, (compareLiteral?_eq_iff sameKind).mp compared⟩
  · rintro ⟨other, present, alike⟩
    obtain ⟨same, sameEq, sameKind⟩ := kindMatches _ present
    rw [← toJson_injective sameEq] at sameKind
    exact ⟨other.toJson, present,
      (compareLiteral?_eq_iff sameKind).mpr alike⟩

/-- A row that holds a key satisfies the clause that demands a key of that kind
when the two are alike. -/
theorem isSatisfied_equal_of_held {column : String} {key other : JoinKey}
    {row : Json} (held : row.get? column = some other.toJson)
    (sameKind : other.SameKind key) :
    (FilterClause.equal column key.literal).isSatisfied row = true ↔
      other.Alike key := by
  have present : row.present? column = some other.toJson := by
    rw [Json.present?, held]
    cases other <;> rfl
  have kindMatches : MatchesKind column key row := by
    intro found foundPresent
    rw [present, Option.some.injEq] at foundPresent
    exact ⟨other, foundPresent.symm, sameKind⟩
  rw [isSatisfied_equal_iff kindMatches, present]
  constructor
  · rintro ⟨same, sameEq, alike⟩
    rw [Option.some.injEq] at sameEq
    rw [toJson_injective sameEq]
    exact alike
  · intro alike
    exact ⟨other, rfl, alike⟩

/-- Among keys of one kind, what is taken for a key is what a join takes for
it. -/
theorem takenFor_toJson_iff {key other : JoinKey}
    (sameKind : other.SameKind key) :
    other.toJson.TakenFor key.toJson ↔ other.Alike key := by
  rw [← Json.compareLiteral?_eq_iff key.isScalar_toJson key.literal?_toJson,
    compareLiteral?_eq_iff sameKind]

end JoinKey

end TableGateway

import Mathlib.Algebra.Group.Nat.Defs
import TableGateway.Filter.Condition
import TableGateway.Proofs.Numeric.RoundTrip

/-!
# Values taken for a key

A clause demands a key by its literal, and the kind of the value found decides
how that literal is read. So a value may be taken for a key of another kind, and
a number for another one with the same double. Arrays and objects are taken for
no key (`Json.compareLiteral?_eq_iff`).
-/

namespace TableGateway

theorem Number.compare?_reading_self (number : Number) :
    number.reading.compare? number.reading = some .eq := by
  cases number with
  | integer value => exact (Reading.compare?_ofInt_eq_iff value value).mpr rfl
  | double value =>
      exact congrArg some ((Binary64.compare_eq_iff value value).mpr rfl)

namespace Json

/-- A text, a truth value or a number. -/
def IsScalar : Json → Prop
  | bool _ => True
  | number _ => True
  | string _ => True
  | _ => False

/-- Whether the clause that demands a key takes a value for it. -/
def TakenFor : Json → Json → Prop
  | string text, key => key.literal? = some text
  | bool value, bool key => value = key
  | bool value, string key => readBool? key = some value
  | number value, number key =>
      value.reading.compare? key.reading = some .eq
  | number value, string key =>
      ∃ reading, readDouble? key.toList = some reading ∧
        value.reading.compare? reading = some .eq
  | _, _ => False

theorem IsScalar.cases {value : Json} (scalar : value.IsScalar) :
    (∃ truth, value = bool truth) ∨ (∃ size, value = number size) ∨
      ∃ text, value = string text := by
  cases value with
  | bool truth => exact .inl ⟨truth, rfl⟩
  | number size => exact .inr (.inl ⟨size, rfl⟩)
  | string text => exact .inr (.inr ⟨text, rfl⟩)
  | _ => exact scalar.elim

/-! ## What literals read as -/

theorem readBool?_text_bool (value : Bool) :
    readBool? (bool value).text = some value := by
  cases value with
  | false => decide
  | true => decide

theorem readDouble?_text_bool (value : Bool) :
    readDouble? (bool value).text.toList = none := by
  cases value with
  | false => decide
  | true => decide

theorem readDouble?_text (value : Number) :
    readDouble? (number value).text.toList = some value.reading := by
  have letters : (number value).text.toList = value.text :=
    String.toList_ofList
  rw [letters, value.readDouble?_text]

theorem readBool?_text (value : Number) :
    readBool? (number value).text = none := by
  have readsBack := readDouble?_text value
  have isNot (name : String) (unread : readDouble? name.toList = none) :
      (number value).text ≠ name := by
    intro same
    rw [same, unread] at readsBack
    cases readsBack
  unfold readBool?
  rw [if_neg (isNot "true" (by decide)), if_neg (isNot "false" (by decide))]

/-! ## Values taken for a key -/

/-- A value is equal to the literal of a key when it is taken for the key. -/
theorem compareLiteral?_eq_iff {found key : Json} {literal : String}
    (scalar : key.IsScalar) (written : key.literal? = some literal) :
    found.compareLiteral? literal = some .eq ↔ found.TakenFor key := by
  cases found with
  | null => exact ⟨nofun, False.elim⟩
  | array items => exact ⟨nofun, False.elim⟩
  | object members => exact ⟨nofun, False.elim⟩
  | string text =>
      simp only [compareLiteral?, TakenFor, written, Option.some.injEq,
        Std.LawfulEqOrd.compare_eq_iff_eq]
      exact eq_comm
  | bool value =>
      rcases scalar.cases with ⟨key, rfl⟩ | ⟨key, rfl⟩ | ⟨key, rfl⟩
      · obtain rfl := Option.some.inj written
        simp only [compareLiteral?, TakenFor, readBool?_text_bool,
          Option.map_some, Option.some.injEq,
          Std.LawfulEqOrd.compare_eq_iff_eq]
      · obtain rfl := Option.some.inj written
        simp [compareLiteral?, TakenFor, readBool?_text]
      · obtain rfl := Option.some.inj written
        simp [compareLiteral?, TakenFor]
  | number value =>
      rcases scalar.cases with ⟨key, rfl⟩ | ⟨key, rfl⟩ | ⟨key, rfl⟩
      · obtain rfl := Option.some.inj written
        simp [compareLiteral?, TakenFor, readDouble?_text_bool]
      · obtain rfl := Option.some.inj written
        simp only [compareLiteral?, TakenFor, readDouble?_text,
          Option.bind_some]
      · obtain rfl := Option.some.inj written
        simp only [compareLiteral?, TakenFor, Option.bind_eq_some_iff]

theorem exists_literal {value : Json} (isNull : value.isNull = false) :
    ∃ literal, value.literal? = some literal := by
  cases value with
  | null => cases isNull
  | _ => exact ⟨_, rfl⟩

theorem isScalar_of_compareLiteral? {value : Json} {literal : String}
    {result : Ordering}
    (compared : value.compareLiteral? literal = some result) :
    value.IsScalar := by
  cases value with
  | bool _ => trivial
  | number _ => trivial
  | string _ => trivial
  | _ => cases compared

theorem takenFor_refl {key : Json} (scalar : key.IsScalar) :
    key.TakenFor key := by
  rcases scalar.cases with ⟨truth, rfl⟩ | ⟨number, rfl⟩ | ⟨text, rfl⟩
  · rfl
  · exact number.compare?_reading_self
  · rfl

theorem same_self {value : Json} (scalar : value.IsScalar) :
    value.same value = true := by
  rcases scalar.cases with ⟨truth, rfl⟩ | ⟨number, rfl⟩ | ⟨text, rfl⟩
  · simp [same]
  · cases number <;> simp [same, Number.same, Binary64.same]
  · simp [same]

end Json

/-- A record satisfies an equality when what it has in the field compares as
equal to the literal. -/
theorem FilterClause.isSatisfied_equal_iff (field literal : String)
    (record : Json) :
    (equal field literal).isSatisfied record = true ↔
      ∃ found, record.present? field = some found ∧
        found.compareLiteral? literal = some .eq := by
  have satisfiedEq :
      (equal field literal).isSatisfied record =
        comparesAs [.eq] (record.present? field) literal := rfl
  rw [satisfiedEq]
  unfold comparesAs
  cases present : record.present? field with
  | none => simp
  | some found =>
      rw [Option.bind_some]
      cases compared : found.compareLiteral? literal with
      | none => simp [compared]
      | some result => simp [compared]

theorem FilterCondition.isSatisfied_add (condition : FilterCondition)
    (clause : FilterClause) (record : Json) :
    (condition.add clause).isSatisfied record =
      (clause.isSatisfied record && condition.isSatisfied record) := by
  simp [add, isSatisfied, Bool.and_comm]

theorem FilterCondition.isSatisfied_add_empty (table : String)
    (clause : FilterClause) :
    ((empty table).add clause).isSatisfied = clause.isSatisfied := by
  funext record
  exact Bool.and_true _

end TableGateway

import Mathlib.Data.List.Nodup
import TableGateway.Json.Members

/-!
# Lookups among members

What a lookup sees in members that are put together from others. The members need
not stand in order; where it matters, their keys are distinct.
-/

namespace TableGateway

namespace Members

variable {key name : String} {value : Json} {members before behind : Members}

@[simp]
theorem get?_cons_self (key : String) (value : Json) (members : Members) :
    get? ((key, value) :: members) key = some value := by
  simp [get?, OrderedMap.findEntry]

theorem get?_cons_of_ne (different : name ≠ key) :
    get? ((name, value) :: members) key = members.get? key := by
  simp [get?, OrderedMap.findEntry, different]

theorem get?_of_notMem (absent : key ∉ members.map Prod.fst) :
    members.get? key = none :=
  (OrderedMap.findEntry_eq_none_iff key members).mpr absent

theorem get?_of_mem (distinct : (members.map Prod.fst).Nodup)
    (member : (key, value) ∈ members) : members.get? key = some value :=
  OrderedMap.findEntry_of_mem distinct member

/-- A member among others is not seen by lookups of other keys. -/
theorem get?_among_of_ne (different : name ≠ key) :
    get? (before ++ (name, value) :: behind) key =
      get? (before ++ behind) key := by
  induction before with
  | nil => exact get?_cons_of_ne different
  | cons member rest inductionHypothesis =>
      obtain ⟨head, item⟩ := member
      rw [List.cons_append, List.cons_append]
      by_cases here : head = key
      · subst here
        rw [get?_cons_self, get?_cons_self]
      · rw [get?_cons_of_ne here, get?_cons_of_ne here, inductionHypothesis]

theorem get?_among_self
    (distinct : ((before ++ (name, value) :: behind).map Prod.fst).Nodup) :
    get? (before ++ (name, value) :: behind) name = some value :=
  get?_of_mem distinct (by simp)

theorem nodup_among_iff :
    ((before ++ (name, value) :: behind).map Prod.fst).Nodup ↔
      name ∉ (before ++ behind).map Prod.fst ∧
        ((before ++ behind).map Prod.fst).Nodup := by
  simp only [List.map_append, List.map_cons, List.nodup_middle,
    List.nodup_cons]

end Members

end TableGateway

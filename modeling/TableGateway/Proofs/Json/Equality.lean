import Mathlib.Data.List.Basic
import TableGateway.Json.Basic

/-!
# Equality of JSON values

`Json.same` is coarser than equality, since the two zeros among the doubles are
the same. It is an equivalence all the same: that follows from reflexivity and
from `Json.same_of_same_left`, by which two values that are the same as a third
one are the same.
-/

namespace TableGateway

theorem Number.same_refl (value : Number) : value.same value = true := by
  cases value <;> simp [same, Binary64.same]

theorem Number.same_of_same_left {value left right : Number}
    (sameLeft : value.same left = true)
    (sameRight : value.same right = true) : left.same right = true := by
  cases value <;> cases left <;> cases right <;>
    simp_all [same, Binary64.same]

namespace Json

mutual

theorem same_refl : ∀ value : Json, value.same value = true
  | null => rfl
  | bool _ => by simp [same]
  | number value => by simp [same, value.same_refl]
  | string _ => by simp [same]
  | array items => by simp [same, sameItems_refl items]
  | object members => by simp [same, sameMembers_refl members]

theorem sameItems_refl : ∀ items : List Json, sameItems items items = true
  | [] => rfl
  | item :: rest => by
      simp [sameItems, same_refl item, sameItems_refl rest]

theorem sameMembers_refl :
    ∀ members : List (String × Json), sameMembers members members = true
  | [] => rfl
  | (_, value) :: rest => by
      simp [sameMembers, same_refl value, sameMembers_refl rest]

end

/-! ## What is the same as a given value -/

theorem exists_number_of_same {value : Number} {other : Json}
    (agree : (number value).same other = true) :
    ∃ found, other = number found ∧ value.same found = true := by
  cases other with
  | number found => exact ⟨found, rfl, agree⟩
  | _ => simp [same] at agree

theorem exists_array_of_same {items : List Json} {other : Json}
    (agree : (array items).same other = true) :
    ∃ found, other = array found ∧ sameItems items found = true := by
  cases other with
  | array found => exact ⟨found, rfl, by simpa [same] using agree⟩
  | _ => simp [same] at agree

theorem exists_object_of_same {members : List (String × Json)} {other : Json}
    (agree : (object members).same other = true) :
    ∃ found, other = object found ∧ sameMembers members found = true := by
  cases other with
  | object found => exact ⟨found, rfl, by simpa [same] using agree⟩
  | _ => simp [same] at agree

mutual

theorem same_of_same_left : ∀ {value left right : Json},
    value.same left = true → value.same right = true →
    left.same right = true
  | null, left, right, sameLeft, sameRight => by
      cases left <;> cases right <;> simp_all [same]
  | bool _, left, right, sameLeft, sameRight => by
      cases left <;> cases right <;> simp_all [same]
  | string _, left, right, sameLeft, sameRight => by
      cases left <;> cases right <;> simp_all [same]
  | number _, _, _, sameLeft, sameRight => by
      obtain ⟨left, rfl, leftAgrees⟩ := exists_number_of_same sameLeft
      obtain ⟨right, rfl, rightAgrees⟩ := exists_number_of_same sameRight
      exact Number.same_of_same_left leftAgrees rightAgrees
  | array _, _, _, sameLeft, sameRight => by
      obtain ⟨left, rfl, leftAgrees⟩ := exists_array_of_same sameLeft
      obtain ⟨right, rfl, rightAgrees⟩ := exists_array_of_same sameRight
      simpa [same] using
        sameItems_of_sameItems_left leftAgrees rightAgrees
  | object _, _, _, sameLeft, sameRight => by
      obtain ⟨left, rfl, leftAgrees⟩ := exists_object_of_same sameLeft
      obtain ⟨right, rfl, rightAgrees⟩ := exists_object_of_same sameRight
      simpa [same] using
        sameMembers_of_sameMembers_left leftAgrees rightAgrees

theorem sameItems_of_sameItems_left : ∀ {items left right : List Json},
    sameItems items left = true → sameItems items right = true →
    sameItems left right = true
  | [], [], [], _, _ => rfl
  | _ :: _, _ :: _, _ :: _, sameLeft, sameRight => by
      simp only [sameItems, Bool.and_eq_true] at sameLeft sameRight ⊢
      exact ⟨same_of_same_left sameLeft.1 sameRight.1,
        sameItems_of_sameItems_left sameLeft.2 sameRight.2⟩

theorem sameMembers_of_sameMembers_left :
    ∀ {members left right : List (String × Json)},
      sameMembers members left = true → sameMembers members right = true →
      sameMembers left right = true
  | [], [], [], _, _ => rfl
  | (_, _) :: _, (_, _) :: _, (_, _) :: _, sameLeft, sameRight => by
      simp only [sameMembers, Bool.and_eq_true, beq_iff_eq]
        at sameLeft sameRight ⊢
      obtain ⟨⟨leftKey, leftValue⟩, leftRest⟩ := sameLeft
      obtain ⟨⟨rightKey, rightValue⟩, rightRest⟩ := sameRight
      exact ⟨⟨leftKey.symm.trans rightKey,
          same_of_same_left leftValue rightValue⟩,
        sameMembers_of_sameMembers_left leftRest rightRest⟩

end

theorem same_symm {left right : Json} (agree : left.same right = true) :
    right.same left = true :=
  same_of_same_left agree (same_refl left)

theorem same_trans {left middle right : Json}
    (first : left.same middle = true) (second : middle.same right = true) :
    left.same right = true :=
  same_of_same_left (same_symm first) second

theorem same_comm (left right : Json) :
    left.same right = right.same left :=
  Bool.eq_iff_iff.mpr ⟨same_symm, same_symm⟩

end Json

end TableGateway

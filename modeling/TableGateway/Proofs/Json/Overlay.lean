import Mathlib.Data.List.Nodup
import TableGateway.Json.Members

/-!
# Members written over members

Members with ascending keys are told by what is found in them (`Ascending.ext`).
To write one list of members over an object and then another comes to the same as
to write the second over the first, and both together over the object
(`insertAll_insertAll`); the object need not be in order for that.
-/

namespace TableGateway

namespace Members

variable {key other : String} {value item : Json} {members : Members}

theorem insertAll_cons (key : String) (value : Json)
    (members rest : Members) :
    insertAll members ((key, value) :: rest) =
      insertAll (insert key value members) rest :=
  rfl

/-! ## Ascending keys -/

theorem Ascending.insertAll (ascending : members.Ascending)
    (additions : Members) : (members.insertAll additions).Ascending := by
  induction additions generalizing members with
  | nil => exact ascending
  | cons addition rest inductionHypothesis =>
      exact inductionHypothesis (ascending.insert addition.1 addition.2)

theorem mem_keys_insertAll (members additions : Members) (key : String) :
    key ∈ (insertAll members additions).map Prod.fst ↔
      key ∈ members.map Prod.fst ∨ key ∈ additions.map Prod.fst := by
  induction additions generalizing members with
  | nil => simp [insertAll]
  | cons addition rest inductionHypothesis =>
      refine (inductionHypothesis _).trans ?_
      rw [mem_keys_insert, List.map_cons, List.mem_cons, or_left_comm,
        or_assoc]

theorem ascending_ofList (additions : Members) :
    (ofList additions).Ascending := by
  have none : Ascending [] := List.Pairwise.nil
  exact none.insertAll additions

theorem Ascending.mem_iff (ascending : members.Ascending) :
    (key, value) ∈ members ↔ members.get? key = some value :=
  ⟨OrderedMap.findEntry_of_mem (ascending.imp String.ne_of_lt),
    OrderedMap.mem_of_findEntry⟩

theorem Ascending.notMem_of_lt {name : String} {others : Members}
    (ascending : Ascending ((name, value) :: others)) (before : key < name) :
    key ∉ ((name, value) :: others).map Prod.fst := by
  intro member
  rcases List.mem_cons.mp member with same | behind
  · exact String.lt_irrefl _ (same ▸ before)
  · have nameFirst := (List.pairwise_cons.mp ascending).1 key behind
    exact String.lt_irrefl _ (String.lt_trans before nameFirst)

/-- Members in ascending order are told by what is found under every key. -/
theorem Ascending.ext {left right : Members} (leftAscending : left.Ascending)
    (rightAscending : right.Ascending)
    (same : ∀ key, left.get? key = right.get? key) : left = right := by
  have distinct {members : Members} (ascending : members.Ascending) :
      members.Nodup :=
    List.Nodup.of_map Prod.fst (ascending.imp String.ne_of_lt)
  have perm : left.Perm right := by
    rw [List.perm_ext_iff_of_nodup (distinct leftAscending)
      (distinct rightAscending)]
    rintro ⟨key, value⟩
    rw [leftAscending.mem_iff, rightAscending.mem_iff, same]
  refine perm.eq_of_pairwise ?_ (List.pairwise_map.mp leftAscending)
    (List.pairwise_map.mp rightAscending)
  intro first second _ _ before behind
  exact absurd (String.lt_trans before behind) (String.lt_irrefl _)

/-! ## Writes to one object -/

/-- The second of two writes of a key counts. -/
theorem insert_insert_self (key : String) (value item : Json)
    (members : Members) :
    insert key value (insert key item members) = insert key value members := by
  induction members with
  | nil => simp [insert]
  | cons member tail inductionHypothesis =>
      obtain ⟨head, old⟩ := member
      by_cases before : key < head
      · simp [insert, before]
      · by_cases here : key = head
        · simp [insert, here]
        · simp [insert, before, here, inductionHypothesis]

theorem insert_comm_of_lt (before : key < other) (value item : Json)
    (members : Members) :
    insert key value (insert other item members) =
      insert other item (insert key value members) := by
  have notBehind : ¬other < key := String.lt_asymm before
  have different : other ≠ key := (String.ne_of_lt before).symm
  induction members with
  | nil => simp [insert, before, notBehind, different]
  | cons member tail inductionHypothesis =>
      obtain ⟨head, old⟩ := member
      rcases Std.lt_trichotomy key head with first | here | behind
      · -- The smaller key comes first, whatever the other one does to the rest.
        by_cases otherFirst : other < head
        · simp [insert, first, otherFirst, before, notBehind, different]
        · by_cases otherHere : other = head
          · simp [insert, otherHere, first, String.lt_asymm first,
              (String.ne_of_lt first).symm]
          · simp [insert, first, otherFirst, otherHere, notBehind, different]
      · subst here
        simp [insert, notBehind, different]
      · have otherBehind : head < other := String.lt_trans behind before
        simp [insert, String.lt_asymm behind, String.lt_asymm otherBehind,
          (String.ne_of_lt behind).symm, (String.ne_of_lt otherBehind).symm,
          inductionHypothesis]

/-- Writes of different keys may change places. -/
theorem insert_comm (different : key ≠ other) (value item : Json)
    (members : Members) :
    insert key value (insert other item members) =
      insert other item (insert key value members) := by
  rcases Std.lt_trichotomy key other with before | same | behind
  · exact insert_comm_of_lt before value item members
  · exact absurd same different
  · exact (insert_comm_of_lt behind item value members).symm

/-- A write of a key that no later one is for may be made last. -/
theorem insertAll_insert (key : String) (value : Json) {additions : Members}
    (absent : key ∉ additions.map Prod.fst) (members : Members) :
    insertAll (insert key value members) additions =
      insert key value (insertAll members additions) := by
  induction additions generalizing members with
  | nil => rfl
  | cons addition rest inductionHypothesis =>
      obtain ⟨written, item⟩ := addition
      rw [List.map_cons, List.mem_cons, not_or] at absent
      rw [insertAll_cons, insertAll_cons, insert_comm (Ne.symm absent.1),
        inductionHypothesis absent.2]

/-- Members in ascending order are what they describe. -/
theorem Ascending.ofList_eq (ascending : members.Ascending) :
    ofList members = members := by
  induction members with
  | nil => rfl
  | cons member rest inductionHypothesis =>
      obtain ⟨head, item⟩ := member
      have restEq : Members.insertAll [] rest = rest :=
        inductionHypothesis ascending.tail
      have step : ofList ((head, item) :: rest) =
          Members.insertAll (Members.insert head item []) rest := rfl
      rw [step, insertAll_insert head item ascending.head_notMem, restEq]
      cases rest with
      | nil => rfl
      | cons next others =>
          have headFirst : head < next.1 :=
            (List.pairwise_cons.mp ascending).1 next.1 List.mem_cons_self
          simp [Members.insert, headFirst]

/-- A write into ascending additions may be made after them. -/
theorem insertAll_insert_right {additions : Members}
    (ascending : additions.Ascending) (key : String) (value : Json)
    (members : Members) :
    insertAll members (insert key value additions) =
      insert key value (insertAll members additions) := by
  induction additions generalizing members with
  | nil => rfl
  | cons addition rest inductionHypothesis =>
      obtain ⟨head, old⟩ := addition
      have headFresh : head ∉ rest.map Prod.fst := ascending.head_notMem
      rcases Std.lt_trichotomy key head with first | here | behind
      · have keyFresh : key ∉ ((head, old) :: rest).map Prod.fst :=
          ascending.notMem_of_lt first
        have placed : insert key value ((head, old) :: rest) =
            (key, value) :: (head, old) :: rest := by
          simp [insert, first]
        rw [placed, insertAll_cons, insertAll_insert key value keyFresh]
      · subst here
        have placed : insert key value ((key, old) :: rest) =
            (key, value) :: rest := by
          simp [insert]
        rw [placed, insertAll_cons, insertAll_cons,
          insertAll_insert key value headFresh,
          insertAll_insert key old headFresh, insert_insert_self]
      · have placed : insert key value ((head, old) :: rest) =
            (head, old) :: insert key value rest := by
          simp [insert, String.lt_asymm behind, (String.ne_of_lt behind).symm]
        rw [placed, insertAll_cons, insertAll_cons,
          inductionHypothesis ascending.tail]

theorem insertAll_insertAll {first : Members} (ascending : first.Ascending)
    (members second : Members) :
    insertAll (insertAll members first) second =
      insertAll members (insertAll first second) := by
  induction second generalizing first with
  | nil => rfl
  | cons addition rest inductionHypothesis =>
      obtain ⟨key, value⟩ := addition
      rw [insertAll_cons, insertAll_cons,
        ← inductionHypothesis (ascending.insert key value),
        insertAll_insert_right ascending]

end Members

end TableGateway

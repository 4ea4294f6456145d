import TableGateway.Json.Basic

/-!
# Members of objects

The members of an object stand in ascending order of their keys.
`Members.insert` keeps that order and replaces a member of the same key. The
main statements are `Members.get?_insert`, which says what a lookup sees after a
write, and `Members.Ascending.insert`. `OrderedMembers` are members that carry
the order.
-/

namespace TableGateway

namespace Members

/-- The value stored under a key. -/
def get? (members : Members) (key : String) : Option Json :=
  OrderedMap.findEntry key members

/-- The value stored under a key unless it is absent or null. -/
def present? (members : Members) (key : String) : Option Json :=
  (members.get? key).filter (!·.isNull)

/-- Write a member at the place of its key. -/
def insert (key : String) (value : Json) : Members → Members
  | [] => [(key, value)]
  | (head, old) :: tail =>
      if key < head then (key, value) :: (head, old) :: tail
      else if key = head then (key, value) :: tail
      else (head, old) :: insert key value tail

theorem get?_insert (key other : String) (value : Json)
    (members : Members) :
    get? (insert key value members) other =
      if other = key then some value else get? members other := by
  unfold get?
  induction members with
  | nil =>
      by_cases same : key = other
      · simp [insert, OrderedMap.findEntry, same]
      · simp [insert, OrderedMap.findEntry, same, Ne.symm same]
  | cons member tail inductionHypothesis =>
      obtain ⟨head, old⟩ := member
      by_cases before : key < head
      · by_cases same : key = other
        · subst same
          simp [insert, OrderedMap.findEntry, before]
        · simp [insert, OrderedMap.findEntry, before, same, Ne.symm same]
      · by_cases here : key = head
        · subst here
          by_cases same : key = other
          · simp [insert, OrderedMap.findEntry, same]
          · simp [insert, OrderedMap.findEntry, same, Ne.symm same]
        · by_cases found : head = other
          · subst found
            simp [insert, OrderedMap.findEntry, before, here, Ne.symm here]
          · simp [insert, OrderedMap.findEntry, before, here, found,
              inductionHypothesis]

/-- Keys ascend, and no key stands twice. -/
def Ascending (members : Members) : Prop :=
  (members.map Prod.fst).Pairwise (· < ·)

instance (members : Members) : Decidable members.Ascending :=
  inferInstanceAs (Decidable ((members.map Prod.fst).Pairwise (· < ·)))

theorem mem_keys_insert (key other : String) (value : Json)
    (members : Members) :
    other ∈ (insert key value members).map Prod.fst ↔
      other = key ∨ other ∈ members.map Prod.fst := by
  induction members with
  | nil => simp [insert]
  | cons member tail inductionHypothesis =>
      obtain ⟨head, old⟩ := member
      unfold insert
      by_cases before : key < head
      · simp [before]
      · by_cases here : key = head
        · simp [here]
        · simp only [if_neg before, if_neg here, List.map_cons,
            List.mem_cons, inductionHypothesis]
          exact or_left_comm

/-- A key does not stand again behind its first place. -/
theorem Ascending.head_notMem {name : String} {value : Json}
    {others : Members} (ascending : Ascending ((name, value) :: others)) :
    name ∉ others.map Prod.fst := by
  intro member
  have headFirst := (List.pairwise_cons.mp ascending).1
  exact String.lt_irrefl _ (headFirst name member)

theorem Ascending.tail {name : String} {value : Json} {others : Members}
    (ascending : Ascending ((name, value) :: others)) :
    Ascending others :=
  (List.pairwise_cons.mp ascending).2

/-- Writing a member keeps the keys ascending. -/
theorem Ascending.insert {members : Members}
    (ascending : Ascending members) (key : String) (value : Json) :
    Ascending (Members.insert key value members) := by
  unfold Ascending at ascending ⊢
  induction members with
  | nil => simp [Members.insert]
  | cons member tail inductionHypothesis =>
      obtain ⟨head, old⟩ := member
      rw [List.map_cons, List.pairwise_cons] at ascending
      obtain ⟨headFirst, tailAscending⟩ := ascending
      unfold Members.insert
      by_cases before : key < head
      · simp only [if_pos before, List.map_cons, List.pairwise_cons,
          List.mem_cons]
        refine ⟨?_, headFirst, tailAscending⟩
        intro other member
        cases member with
        | inl equality => exact equality ▸ before
        | inr member =>
            exact String.lt_trans before (headFirst other member)
      · by_cases here : key = head
        · subst here
          simp only [if_neg before, if_true, List.map_cons,
            List.pairwise_cons]
          exact ⟨headFirst, tailAscending⟩
        · simp only [if_neg before, if_neg here, List.map_cons,
            List.pairwise_cons]
          refine ⟨?_, inductionHypothesis tailAscending⟩
          intro other member
          cases (mem_keys_insert key other value tail).mp member with
          | inl equality =>
              subst equality
              exact Std.lt_of_le_of_ne (String.not_lt.mp before)
                (Ne.symm here)
          | inr member => exact headFirst other member

/-- Write several members, one after the other. -/
def insertAll (members additions : Members) : Members :=
  additions.foldl (fun current addition =>
    insert addition.1 addition.2 current) members

/-- The members that a list describes; the last value of a key wins. -/
def ofList (additions : Members) : Members :=
  insertAll [] additions

end Members

/-- Members in the order in which an object has them. -/
structure OrderedMembers where
  members : Members
  ascending : members.Ascending

instance : CoeOut OrderedMembers Members := ⟨OrderedMembers.members⟩

/-- The object that a list of members describes. -/
def Json.ofMembers (additions : Members) : Json :=
  .object (Members.ofList additions)

end TableGateway

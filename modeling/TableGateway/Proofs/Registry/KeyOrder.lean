import Mathlib.Data.Finset.Card
import Mathlib.Data.List.Nodup
import TableGateway.Proofs.FirstMention
import TableGateway.Proofs.LastWrite
import TableGateway.Resolver.Registry

/-!
# What a table of handlers holds

A table that is filled by a list of writes gives every key its last handler, and
lists the keys by owner, both levels in the order of their first write. That is
`HandlerTable.Holds`, which every further write carries on (`Holds.put`).
-/

namespace TableGateway

/-! ## Keys by owner -/

/-- Keys by owner: the owners in the order in which they first occur, and the
fields of each in theirs. -/
def groupedKeys (keys : List ResolverKey) : List ResolverKey :=
  (keys.map (·.owner)).eraseDups.flatMap fun owner =>
    ((keys.filter (·.owner = owner)).map (·.field)).eraseDups.map
      (ResolverKey.mk owner)

namespace HandlerTable

/-! ## Keys of a table -/

def fieldsOf (table : HandlerTable) (owner : String) : List String :=
  (table.getD owner .empty).keys

theorem fieldsOf_put (table : HandlerTable) (key : ResolverKey)
    (handler : Handler) (owner : String) :
    fieldsOf (put table key handler) owner =
      if key.owner = owner ∧ key.field ∉ fieldsOf table owner then
        fieldsOf table owner ++ [key.field]
      else fieldsOf table owner := by
  unfold fieldsOf put
  by_cases same : key.owner = owner
  · subst same
    rw [OrderedMap.getD, OrderedMap.get?_insert_self, Option.getD_some,
      OrderedMap.keys_insert]
    by_cases present :
        key.field ∈ (table.getD key.owner .empty).keys
    · simp [present]
    · simp [present]
  · rw [OrderedMap.getD,
      OrderedMap.get?_insert_of_ne _ _ (Ne.symm same),
      if_neg fun both => same both.1]
    rfl

/-- The keys, read off from the owners and their fields. -/
theorem allKeys_eq_flatMap_keys (table : HandlerTable) :
    allKeys table =
      table.keys.flatMap fun owner =>
        (fieldsOf table owner).map (ResolverKey.mk owner) := by
  unfold allKeys OrderedMap.keys
  rw [List.flatMap_map]
  apply List.flatMap_congr
  rintro ⟨owner, fields⟩ member
  have fieldsEq : fieldsOf table owner = fields.keys := by
    unfold fieldsOf OrderedMap.getD
    rw [table.get?_of_mem_entries member, Option.getD_some]
  rw [fieldsEq]
  rfl

theorem nodup_allKeys (table : HandlerTable) : (allKeys table).Nodup := by
  rw [allKeys_eq_flatMap_keys, List.nodup_flatMap]
  constructor
  · intro owner _
    refine List.Nodup.map ?_ (OrderedMap.nodup_keys _)
    intro left right same
    exact (ResolverKey.mk.inj same).2
  · refine table.nodup_keys.imp ?_
    intro left right different key inLeft inRight
    obtain ⟨_, _, leftEq⟩ := List.mem_map.mp inLeft
    obtain ⟨_, _, rightEq⟩ := List.mem_map.mp inRight
    exact different
      (ResolverKey.mk.inj (leftEq.trans rightEq.symm)).1

/-! ## Tables that are filled by writes -/

/-- A table holds what a list of writes says: the last handler of every key,
and owners and fields in the order of their first write. -/
structure Holds (table : HandlerTable)
    (writes : List (ResolverKey × Handler)) : Prop where
  handler?_eq : ∀ key, handler? table key = lastWrite key writes
  owners_eq : table.keys = (writes.map (·.1.owner)).eraseDups
  fieldsOf_eq : ∀ owner,
    fieldsOf table owner =
      ((writes.filter (·.1.owner = owner)).map (·.1.field)).eraseDups

theorem holds_empty : Holds .empty [] where
  handler?_eq _ := rfl
  owners_eq := rfl
  fieldsOf_eq _ := rfl

namespace Holds

variable {table : HandlerTable} {writes : List (ResolverKey × Handler)}

theorem put (holds : Holds table writes) (key : ResolverKey)
    (handler : Handler) :
    Holds (HandlerTable.put table key handler)
      (writes ++ [(key, handler)]) where
  handler?_eq other := by
    rw [handler?_put, lastWrite_append, lastWrite_cons, lastWrite_nil,
      Option.none_or, holds.handler?_eq]
    by_cases same : other = key
    · simp [same]
    · simp [same]
  owners_eq := by
    have ownersEq := holds.owners_eq
    unfold HandlerTable.put
    rw [OrderedMap.keys_insert, List.map_append, List.map_singleton,
      eraseDups_concat, ownersEq]
    simp only [List.mem_eraseDups]
  fieldsOf_eq owner := by
    have fieldsEq := holds.fieldsOf_eq owner
    rw [fieldsOf_put, fieldsEq, List.filter_append, List.map_append]
    by_cases same : key.owner = owner
    · have kept :
          [(key, handler)].filter (·.1.owner = owner) =
            [(key, handler)] := by
        simp [same]
      rw [kept, List.map_singleton, eraseDups_concat]
      simp only [same, true_and, List.mem_eraseDups, ite_not]
    · simp [same]

theorem putAll (holds : Holds table writes)
    (further : List (ResolverKey × Handler)) :
    Holds
      (further.foldl
        (fun current write => HandlerTable.put current write.1 write.2)
        table)
      (writes ++ further) := by
  induction further generalizing table writes with
  | nil => simpa using holds
  | cons write rest inductionHypothesis =>
      obtain ⟨key, handler⟩ := write
      have step := inductionHypothesis (holds.put key handler)
      rw [List.append_assoc, List.singleton_append] at step
      exact step

theorem allKeys_eq (holds : Holds table writes) :
    allKeys table = groupedKeys (writes.map Prod.fst) := by
  unfold groupedKeys
  rw [allKeys_eq_flatMap_keys, holds.owners_eq, List.map_map]
  apply List.flatMap_congr
  intro owner _
  rw [holds.fieldsOf_eq, List.filter_map, List.map_map]
  rfl

theorem hasKey_iff (holds : Holds table writes) (key : ResolverKey) :
    hasKey table key = true ↔ key ∈ writes.map Prod.fst := by
  unfold hasKey
  rw [holds.handler?_eq, isSome_lastWrite_iff, List.mem_map]
  constructor
  · rintro ⟨handler, member⟩
    exact ⟨_, member, rfl⟩
  · rintro ⟨⟨_, handler⟩, member, rfl⟩
    exact ⟨handler, member⟩

theorem count_eq (holds : Holds table writes) :
    count table = (writes.map Prod.fst).toFinset.card := by
  have sameKeys :
      (allKeys table).toFinset = (writes.map Prod.fst).toFinset := by
    ext key
    rw [List.mem_toFinset, List.mem_toFinset, mem_allKeys_iff,
      holds.hasKey_iff]
  rw [← sameKeys, List.toFinset_card_of_nodup (nodup_allKeys table)]
  rfl

end Holds

end HandlerTable

end TableGateway

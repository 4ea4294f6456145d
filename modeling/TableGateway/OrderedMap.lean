/-!
# Maps that remember insertion order

An `OrderedMap` is a list of entries with pairwise distinct keys. Writing a key
again replaces its value and keeps its place; a new key goes to the end. The
main statements are `get?_insert`, which says what a lookup sees after a write,
and `keys_insert`, which says where the written key stands.
-/

namespace TableGateway

universe u

/-- Entries in order of first insertion, no key twice. -/
structure OrderedMap (value : Type u) where
  entries : List (String × value)
  nodup : (entries.map Prod.fst).Nodup

namespace OrderedMap

variable {value : Type u}

/-! ## Operations on entry lists -/

/-- Write one entry: in place when the key is there, at the end otherwise. -/
def insertEntry (key : String) (item : value) :
    List (String × value) → List (String × value)
  | [] => [(key, item)]
  | (head, old) :: tail =>
      if head = key then (key, item) :: tail
      else (head, old) :: insertEntry key item tail

def findEntry (key : String) : List (String × value) → Option value
  | [] => none
  | (head, item) :: tail =>
      if head = key then some item else findEntry key tail

theorem map_fst_insertEntry
    (key : String) (item : value) (entries : List (String × value)) :
    (insertEntry key item entries).map Prod.fst =
      if key ∈ entries.map Prod.fst then entries.map Prod.fst
      else entries.map Prod.fst ++ [key] := by
  induction entries with
  | nil => simp [insertEntry]
  | cons entry tail inductionHypothesis =>
      obtain ⟨head, old⟩ := entry
      by_cases headEq : head = key
      · simp [insertEntry, headEq]
      · have keyNe : key ≠ head := fun equality => headEq equality.symm
        by_cases member : key ∈ tail.map Prod.fst
        · simp only [insertEntry, if_neg headEq, List.map_cons,
            inductionHypothesis, List.mem_cons, if_pos member,
            if_pos (Or.inr member : key = head ∨ _)]
        · simp only [insertEntry, if_neg headEq, List.map_cons,
            inductionHypothesis, List.mem_cons, if_neg member,
            if_neg (not_or.mpr ⟨keyNe, member⟩), List.cons_append]

theorem findEntry_insertEntry
    (key other : String) (item : value) (entries : List (String × value)) :
    findEntry other (insertEntry key item entries) =
      if other = key then some item else findEntry other entries := by
  induction entries with
  | nil =>
      by_cases same : key = other
      · simp [insertEntry, findEntry, same]
      · simp [insertEntry, findEntry, same, Ne.symm same]
  | cons entry tail inductionHypothesis =>
      obtain ⟨head, old⟩ := entry
      by_cases headEq : head = key
      · subst headEq
        by_cases same : head = other
        · simp [insertEntry, findEntry, same]
        · simp [insertEntry, findEntry, same, Ne.symm same]
      · by_cases headOther : head = other
        · subst headOther
          simp [insertEntry, findEntry, headEq]
        · simp [insertEntry, findEntry, headEq, headOther,
            inductionHypothesis]

theorem findEntry_eq_none_iff
    (key : String) (entries : List (String × value)) :
    findEntry key entries = none ↔ key ∉ entries.map Prod.fst := by
  induction entries with
  | nil => simp [findEntry]
  | cons entry tail inductionHypothesis =>
      obtain ⟨head, item⟩ := entry
      by_cases headEq : head = key
      · simp [findEntry, headEq]
      · have keyNe : key ≠ head := fun equality => headEq equality.symm
        simp only [findEntry, if_neg headEq, inductionHypothesis,
          List.map_cons, List.mem_cons, not_or]
        exact ⟨fun absent => ⟨keyNe, absent⟩, fun both => both.2⟩

theorem mem_of_findEntry {key : String} {item : value}
    {entries : List (String × value)}
    (found : findEntry key entries = some item) :
    (key, item) ∈ entries := by
  induction entries with
  | nil => cases found
  | cons entry tail inductionHypothesis =>
      obtain ⟨head, old⟩ := entry
      unfold findEntry at found
      by_cases headEq : head = key
      · rw [if_pos headEq, Option.some.injEq] at found
        simp [headEq, found]
      · rw [if_neg headEq] at found
        exact List.mem_cons_of_mem _ (inductionHypothesis found)

theorem findEntry_of_mem {key : String} {item : value}
    {entries : List (String × value)}
    (nodup : (entries.map Prod.fst).Nodup)
    (member : (key, item) ∈ entries) :
    findEntry key entries = some item := by
  induction entries with
  | nil => cases member
  | cons entry tail inductionHypothesis =>
      obtain ⟨head, old⟩ := entry
      rw [List.map_cons, List.nodup_cons] at nodup
      cases List.mem_cons.mp member with
      | inl equality =>
          obtain ⟨rfl, rfl⟩ := Prod.mk.inj equality
          simp [findEntry]
      | inr tailMember =>
          have headNe : head ≠ key := by
            intro equality
            exact nodup.1 (equality ▸ List.mem_map.mpr
              ⟨(key, item), tailMember, rfl⟩)
          rw [findEntry, if_neg headNe]
          exact inductionHypothesis nodup.2 tailMember

/-! ## Operations on maps -/

/-- The map without entries. -/
def empty : OrderedMap value := ⟨[], List.nodup_nil⟩

instance : EmptyCollection (OrderedMap value) := ⟨empty⟩
instance : Inhabited (OrderedMap value) := ⟨empty⟩

/-- Write a key: replace its value in place, or append a new entry. -/
def insert (map : OrderedMap value) (key : String) (item : value) :
    OrderedMap value where
  entries := insertEntry key item map.entries
  nodup := by
    rw [map_fst_insertEntry]
    by_cases member : key ∈ map.entries.map Prod.fst
    · rw [if_pos member]
      exact map.nodup
    · rw [if_neg member]
      exact List.nodup_append.mpr ⟨map.nodup, by simp, by
        intro left leftMember right rightMember equality
        rw [List.mem_singleton] at rightMember
        exact member (rightMember ▸ equality ▸ leftMember)⟩

/-- The value stored under a key, if any. -/
def get? (map : OrderedMap value) (key : String) : Option value :=
  findEntry key map.entries

/-- Whether a key is stored. -/
def contains (map : OrderedMap value) (key : String) : Bool :=
  (map.get? key).isSome

def keys (map : OrderedMap value) : List String :=
  map.entries.map Prod.fst

/-- The values in insertion order of their keys. -/
def values (map : OrderedMap value) : List value :=
  map.entries.map Prod.snd

/-- The number of keys. -/
def size (map : OrderedMap value) : Nat :=
  map.entries.length

/-- The value of a key, or a default that is not stored. -/
def getD (map : OrderedMap value) (key : String) (fallback : value) : value :=
  (map.get? key).getD fallback

/-- Make sure that a key is stored, with `fallback` when it is new. -/
def ensure (map : OrderedMap value) (key : String) (fallback : value) :
    OrderedMap value :=
  map.insert key (map.getD key fallback)

/-- Write several entries, one after the other. -/
def insertAll (map : OrderedMap value) (entries : List (String × value)) :
    OrderedMap value :=
  entries.foldl (fun current entry => current.insert entry.1 entry.2) map

/-- The map that a list of entries describes; the last write of a key wins. -/
def ofList (entries : List (String × value)) : OrderedMap value :=
  empty.insertAll entries

instance [DecidableEq value] : DecidableEq (OrderedMap value) :=
  fun left right =>
    decidable_of_iff (left.entries = right.entries)
      ⟨fun equality => by cases left; cases right; simp_all,
        fun equality => by rw [equality]⟩

/-! ## What lookups and keys say after a write -/

@[ext]
theorem ext {left right : OrderedMap value}
    (entriesEq : left.entries = right.entries) :
    left = right := by
  cases left
  cases right
  simp_all

@[simp]
theorem get?_empty (key : String) :
    (empty : OrderedMap value).get? key = none := rfl

@[simp]
theorem keys_empty : (empty : OrderedMap value).keys = [] := rfl

theorem nodup_keys (map : OrderedMap value) : map.keys.Nodup :=
  map.nodup

theorem mem_entries_of_get? (map : OrderedMap value) {key : String}
    {item : value} (found : map.get? key = some item) :
    (key, item) ∈ map.entries :=
  mem_of_findEntry found

theorem get?_of_mem_entries (map : OrderedMap value) {key : String}
    {item : value} (member : (key, item) ∈ map.entries) :
    map.get? key = some item :=
  findEntry_of_mem map.nodup member

theorem mem_values_iff (map : OrderedMap value) (item : value) :
    item ∈ map.values ↔ ∃ key, map.get? key = some item := by
  unfold values
  rw [List.mem_map]
  constructor
  · rintro ⟨⟨key, _⟩, member, rfl⟩
    exact ⟨key, map.get?_of_mem_entries member⟩
  · rintro ⟨key, found⟩
    exact ⟨(key, item), map.mem_entries_of_get? found, rfl⟩

theorem get?_insert
    (map : OrderedMap value) (key other : String) (item : value) :
    (map.insert key item).get? other =
      if other = key then some item else map.get? other :=
  findEntry_insertEntry key other item map.entries

@[simp]
theorem get?_insert_self
    (map : OrderedMap value) (key : String) (item : value) :
    (map.insert key item).get? key = some item := by
  rw [get?_insert, if_pos rfl]

theorem get?_insert_of_ne
    (map : OrderedMap value) {key other : String} (item : value)
    (different : other ≠ key) :
    (map.insert key item).get? other = map.get? other := by
  rw [get?_insert, if_neg different]

theorem contains_iff_mem_keys (map : OrderedMap value) (key : String) :
    map.contains key = true ↔ key ∈ map.keys := by
  have absent := findEntry_eq_none_iff key map.entries
  unfold contains get? keys
  cases found : findEntry key map.entries with
  | none => simpa [found] using absent.mp found
  | some item =>
      rw [found] at absent
      simpa using absent

theorem keys_insert
    (map : OrderedMap value) (key : String) (item : value) :
    (map.insert key item).keys =
      if key ∈ map.keys then map.keys else map.keys ++ [key] :=
  map_fst_insertEntry key item map.entries

theorem mem_keys_insert
    (map : OrderedMap value) (key other : String) (item : value) :
    other ∈ (map.insert key item).keys ↔ other = key ∨ other ∈ map.keys := by
  rw [keys_insert]
  by_cases present : key ∈ map.keys
  · have absorbed : other = key → other ∈ map.keys :=
      fun equality => equality ▸ present
    rw [if_pos present, or_iff_right_of_imp absorbed]
  · rw [if_neg present, List.mem_append, List.mem_singleton, or_comm]

theorem mem_keys_insertAll (map : OrderedMap value)
    (entries : List (String × value)) (key : String) :
    key ∈ (map.insertAll entries).keys ↔
      key ∈ map.keys ∨ key ∈ entries.map Prod.fst := by
  unfold insertAll
  induction entries generalizing map with
  | nil => simp
  | cons entry rest inductionHypothesis =>
      rw [List.foldl_cons, inductionHypothesis, mem_keys_insert,
        List.map_cons, List.mem_cons, or_comm (a := key = entry.1),
        or_assoc]

@[simp]
theorem length_keys (map : OrderedMap value) :
    map.keys.length = map.size := by
  simp [keys, size]

end OrderedMap

end TableGateway

import Mathlib.Data.List.Nodup

/-!
# The last write of a key

Schemas and registries are filled by lists of writes, of which the last one of
a key counts. `lastWrite` is that value; a schema and a registry are compared
by comparing the lists that fill them.
-/

namespace TableGateway

universe u v

variable {key : Type u} {value : Type v} [DecidableEq key]

/-- The last value that a list of writes gives to a key. -/
def lastWrite (wanted : key) : List (key × value) → Option value
  | [] => none
  | (written, item) :: rest =>
      (lastWrite wanted rest).or
        (if wanted = written then some item else none)

@[simp]
theorem lastWrite_nil (wanted : key) :
    lastWrite wanted ([] : List (key × value)) = none := rfl

theorem lastWrite_cons (wanted written : key) (item : value)
    (rest : List (key × value)) :
    lastWrite wanted ((written, item) :: rest) =
      (lastWrite wanted rest).or
        (if wanted = written then some item else none) := rfl

theorem lastWrite_append (wanted : key) (first second : List (key × value)) :
    lastWrite wanted (first ++ second) =
      (lastWrite wanted second).or (lastWrite wanted first) := by
  induction first with
  | nil => simp
  | cons write rest inductionHypothesis =>
      obtain ⟨written, item⟩ := write
      rw [List.cons_append, lastWrite_cons, inductionHypothesis,
        lastWrite_cons, Option.or_assoc]

theorem mem_of_lastWrite {wanted : key} {item : value}
    {writes : List (key × value)}
    (found : lastWrite wanted writes = some item) :
    (wanted, item) ∈ writes := by
  induction writes with
  | nil => cases found
  | cons write rest inductionHypothesis =>
      obtain ⟨written, other⟩ := write
      rw [lastWrite_cons, Option.or_eq_some_iff] at found
      rcases found with inRest | ⟨_, atHead⟩
      · exact List.mem_cons_of_mem _ (inductionHypothesis inRest)
      · by_cases same : wanted = written
        · rw [if_pos same, Option.some.injEq] at atHead
          rw [same, atHead]
          exact List.mem_cons_self
        · rw [if_neg same] at atHead
          cases atHead

theorem isSome_lastWrite_iff (wanted : key) (writes : List (key × value)) :
    (lastWrite wanted writes).isSome = true ↔
      ∃ item, (wanted, item) ∈ writes := by
  constructor
  · intro present
    obtain ⟨item, found⟩ := Option.isSome_iff_exists.mp present
    exact ⟨item, mem_of_lastWrite found⟩
  · rintro ⟨item, member⟩
    obtain ⟨before, after, writesEq⟩ := List.append_of_mem member
    rw [writesEq, lastWrite_append, lastWrite_cons, if_pos rfl]
    cases lastWrite wanted after with
    | none => rfl
    | some last => rfl

/-- Where no key is written twice, every write is the last one of its key. -/
theorem lastWrite_eq_some_of_nodup {wanted : key} {item : value}
    {writes : List (key × value)}
    (nodup : (writes.map Prod.fst).Nodup)
    (member : (wanted, item) ∈ writes) :
    lastWrite wanted writes = some item := by
  have present := (isSome_lastWrite_iff wanted writes).mpr ⟨item, member⟩
  obtain ⟨last, found⟩ := Option.isSome_iff_exists.mp present
  have same : (wanted, last) = (wanted, item) :=
    List.inj_on_of_nodup_map nodup (mem_of_lastWrite found) member rfl
  rw [found, (Prod.mk.inj same).2]

theorem lastWrite_eq_none_iff (wanted : key) (writes : List (key × value)) :
    lastWrite wanted writes = none ↔ ∀ item, (wanted, item) ∉ writes := by
  rw [← Option.not_isSome_iff_eq_none, isSome_lastWrite_iff, not_exists]

/-- Where all writes of a key agree, their order does not matter, nor how often
each is made. -/
theorem lastWrite_congr {wanted : key} {first second : List (key × value)}
    (members : ∀ item, (wanted, item) ∈ first ↔ (wanted, item) ∈ second)
    (agree : ∀ item other, (wanted, item) ∈ first → (wanted, other) ∈ first →
      item = other) :
    lastWrite wanted first = lastWrite wanted second := by
  cases found : lastWrite wanted first with
  | none =>
      rw [lastWrite_eq_none_iff] at found
      refine ((lastWrite_eq_none_iff _ _).mpr fun item member => ?_).symm
      exact found item ((members item).mpr member)
  | some item =>
      have member := mem_of_lastWrite found
      have present := (isSome_lastWrite_iff wanted second).mpr
        ⟨item, (members item).mp member⟩
      obtain ⟨other, otherFound⟩ := Option.isSome_iff_exists.mp present
      have otherMember := (members other).mpr (mem_of_lastWrite otherFound)
      rw [otherFound, agree item other member otherMember]

/-- Values that are made of other values, and of the keys they are written
under, have their last write where those have it. -/
theorem lastWrite_map_value {other : Type v} (make : key → value → other)
    (wanted : key) (writes : List (key × value)) :
    lastWrite wanted
        (writes.map fun write => (write.1, make write.1 write.2)) =
      (lastWrite wanted writes).map (make wanted) := by
  induction writes with
  | nil => rfl
  | cons write rest inductionHypothesis =>
      obtain ⟨written, item⟩ := write
      rw [List.map_cons, lastWrite_cons, lastWrite_cons,
        inductionHypothesis, Option.map_or]
      by_cases same : wanted = written
      · simp [same]
      · simp [same]

/-- A fold leaves alone what every step leaves alone. -/
theorem foldl_unchanged {State Change Value : Type*} (read : State → Value)
    {step : State → Change → State}
    (unchanged : ∀ state change, read (step state change) = read state)
    (state : State) (changes : List Change) :
    read (changes.foldl step state) = read state := by
  induction changes generalizing state with
  | nil => rfl
  | cons change rest inductionHypothesis =>
      exact (inductionHypothesis _).trans (unchanged state change)

/-- What a fold leaves to be found, if every step leaves what it writes and
otherwise what was there. -/
theorem lookup_foldl {State Change : Type*}
    (look : State → key → Option value) {step : State → Change → State}
    {write? : Change → Option (key × value)}
    (law : ∀ state change wanted,
      look (step state change) wanted =
        (lastWrite wanted (write? change).toList).or (look state wanted))
    (state : State) (changes : List Change) (wanted : key) :
    look (changes.foldl step state) wanted =
      (lastWrite wanted (changes.filterMap write?)).or
        (look state wanted) := by
  induction changes generalizing state with
  | nil => rfl
  | cons change rest inductionHypothesis =>
      have consEq : (change :: rest).filterMap write? =
          (write? change).toList ++ rest.filterMap write? := by
        cases written : write? change <;> simp [written]
      rw [List.foldl_cons, inductionHypothesis, law, consEq,
        lastWrite_append, Option.or_assoc]

/-- What a fold mentions, if every step mentions one thing at most. -/
theorem mem_foldl_iff {State Change : Type*} {Name : Type u}
    (names : State → List Name) {step : State → Change → State}
    {name? : Change → Option Name}
    (law : ∀ state change name,
      name ∈ names (step state change) ↔
        name ∈ (name? change).toList ∨ name ∈ names state)
    (state : State) (changes : List Change) (name : Name) :
    name ∈ names (changes.foldl step state) ↔
      name ∈ changes.filterMap name? ∨ name ∈ names state := by
  induction changes generalizing state with
  | nil => simp
  | cons change rest inductionHypothesis =>
      rw [List.foldl_cons, inductionHypothesis, law, List.mem_filterMap,
        List.mem_filterMap, ← or_assoc]
      simp [or_comm]

/-- Where only one of several sources writes a key, its last write counts. -/
theorem lastWrite_flatMap_of_unique {source : Type u}
    {writes : source → List (key × value)} {wanted : key}
    {sources : List source} {only : source} (member : only ∈ sources)
    (unique : ∀ other ∈ sources, ∀ item,
      (wanted, item) ∈ writes other → other = only) :
    lastWrite wanted (sources.flatMap writes) =
      lastWrite wanted (writes only) := by
  have fromOthers : ∀ rest ⊆ sources,
      lastWrite wanted (rest.flatMap writes) = none ∨
        lastWrite wanted (rest.flatMap writes) =
          lastWrite wanted (writes only) := by
    intro rest inSources
    induction rest with
    | nil => exact Or.inl rfl
    | cons head tail inductionHypothesis =>
        rw [List.cons_subset] at inSources
        rw [List.flatMap_cons, lastWrite_append]
        cases fromHead : lastWrite wanted (writes head) with
        | none =>
            rw [Option.or_none]
            exact inductionHypothesis inSources.2
        | some item =>
            have isOnly :=
              unique head inSources.1 item (mem_of_lastWrite fromHead)
            rw [isOnly] at fromHead
            rcases inductionHypothesis inSources.2 with absent | fromTail
            · rw [absent, fromHead]
              exact Or.inr rfl
            · rw [fromTail, fromHead]
              exact Or.inr rfl
  rcases fromOthers sources (List.Subset.refl _) with absent | found
  · rw [absent]
    rw [lastWrite_eq_none_iff] at absent
    refine ((lastWrite_eq_none_iff _ _).mpr fun item itemMember => ?_).symm
    exact absent item (List.mem_flatMap.mpr ⟨only, member, itemMember⟩)
  · exact found

end TableGateway

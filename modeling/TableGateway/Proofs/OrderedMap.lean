import TableGateway.OrderedMap
import TableGateway.Proofs.FirstMention
import TableGateway.Proofs.LastWrite

/-!
# Maps after many writes

After many writes a map has the keys that it had, and behind them the new ones
in the order of their first mention (`keys_insertAll`), and every key has the
last value that was written (`get?_insertAll`). So the same writes once more
change nothing (`insertAll_insertAll`). A map that was empty is told by the list
that fills it (`FilledBy`). The same is said of maps of maps, in which a write
mentions an inner map and perhaps an entry of it (`keys_writeSections`,
`getD_writeSections`, `writeSections_writeSections`).
-/

namespace TableGateway

namespace OrderedMap

universe u

variable {value : Type u}

/-! ## What a map is made of -/

theorem mem_entries_iff (map : OrderedMap value) (key : String)
    (item : value) :
    (key, item) ∈ map.entries ↔ map.get? key = some item :=
  ⟨map.get?_of_mem_entries, map.mem_entries_of_get?⟩

theorem entries_eq_filterMap (map : OrderedMap value) :
    map.entries =
      map.keys.filterMap fun key =>
        (map.get? key).map fun item => (key, item) := by
  have fromEntry : ∀ entry ∈ map.entries,
      ((map.get? entry.1).map fun item => (entry.1, item)) = some entry := by
    intro entry member
    rw [map.get?_of_mem_entries member]
    rfl
  unfold keys
  rw [List.filterMap_map]
  exact (List.filterMap_some.symm.trans
    (List.filterMap_congr fromEntry).symm)

/-- Maps with the same keys in the same order, and with the same values. -/
theorem ext_get? {left right : OrderedMap value}
    (keysEq : left.keys = right.keys)
    (valuesEq : ∀ key, left.get? key = right.get? key) : left = right := by
  apply ext
  rw [left.entries_eq_filterMap, right.entries_eq_filterMap, keysEq]
  simp only [valuesEq]

/-- Maps with the same values have the same entries, up to order. -/
theorem entries_perm {left right : OrderedMap value}
    (valuesEq : ∀ key, left.get? key = right.get? key) :
    left.entries.Perm right.entries := by
  have distinct (map : OrderedMap value) : map.entries.Nodup :=
    List.Nodup.of_map Prod.fst map.nodup
  rw [List.perm_ext_iff_of_nodup (distinct left) (distinct right)]
  rintro ⟨key, item⟩
  rw [mem_entries_iff, mem_entries_iff, valuesEq]

theorem get?_eq_some_getD {map : OrderedMap value} {key : String}
    (known : key ∈ map.keys) (fallback : value) :
    map.get? key = some (map.getD key fallback) := by
  rw [← contains_iff_mem_keys] at known
  obtain ⟨item, found⟩ := Option.isSome_iff_exists.mp known
  rw [getD, show map.get? key = some item from found, Option.getD_some]

theorem get?_eq_none {map : OrderedMap value} {key : String}
    (absent : key ∉ map.keys) : map.get? key = none :=
  (findEntry_eq_none_iff key map.entries).mpr absent

/-- A value is told by whether its key is there and by the value that stands for
it otherwise. -/
theorem get?_eq_get? {left right : OrderedMap value} {key : String}
    (fallback : value) (keysIff : key ∈ left.keys ↔ key ∈ right.keys)
    (valueEq : left.getD key fallback = right.getD key fallback) :
    left.get? key = right.get? key := by
  by_cases known : key ∈ left.keys
  · rw [get?_eq_some_getD known fallback,
      get?_eq_some_getD (keysIff.mp known) fallback, valueEq]
  · rw [get?_eq_none known,
      get?_eq_none fun present => known (keysIff.mpr present)]

/-! ## Writing several entries -/

/-- Names that are mentioned one after the other, when each goes to the end
unless it is there. -/
theorem names_foldl {State Change : Type*} (names : State → List String)
    {step : State → Change → State} {name : Change → String}
    (law : ∀ state change, names (step state change) =
      if name change ∈ names state then names state
      else names state ++ [name change])
    (state : State) (changes : List Change) :
    names (changes.foldl step state) =
      names state ++
        ((changes.map name).removeAll (names state)).eraseDups := by
  induction changes generalizing state with
  | nil => simp [List.removeAll]
  | cons change rest inductionHypothesis =>
      rw [List.foldl_cons, inductionHypothesis, law, List.map_cons]
      by_cases known : name change ∈ names state
      · rw [if_pos known]
        simp [List.removeAll, known]
      · have headNew :
            (name change :: rest.map name).removeAll (names state) =
              name change :: (rest.map name).removeAll (names state) :=
          List.filter_cons_of_pos (by simp [known])
        have restNew :
            (rest.map name).removeAll (names state ++ [name change]) =
              ((rest.map name).removeAll (names state)).filter
                (!· == name change) := by
          unfold List.removeAll
          rw [List.filter_filter]
          apply List.filter_congr
          intro other _
          simp [Bool.and_comm, Bool.beq_eq_decide_eq]
        rw [if_neg known, headNew, restNew, List.eraseDups_cons,
          List.append_assoc, List.singleton_append]

theorem keys_insertAll (map : OrderedMap value)
    (entries : List (String × value)) :
    (map.insertAll entries).keys =
      map.keys ++ ((entries.map Prod.fst).removeAll map.keys).eraseDups :=
  names_foldl keys (fun current entry => keys_insert current entry.1 entry.2)
    map entries

theorem get?_insertAll (map : OrderedMap value)
    (entries : List (String × value)) (key : String) :
    (map.insertAll entries).get? key =
      (lastWrite key entries).or (map.get? key) := by
  have law (current : OrderedMap value) (entry : String × value)
      (wanted : String) :
      (current.insert entry.1 entry.2).get? wanted =
        (lastWrite wanted (some entry).toList).or (current.get? wanted) := by
    rw [get?_insert, Option.toList_some, lastWrite_cons, lastWrite_nil,
      Option.none_or]
    by_cases same : wanted = entry.1
    · rw [if_pos same, if_pos same, Option.some_or]
    · rw [if_neg same, if_neg same, Option.none_or]
  have looked := lookup_foldl get? law map entries key
  rw [List.filterMap_some] at looked
  exact looked

theorem insertAll_append (map : OrderedMap value)
    (first second : List (String × value)) :
    map.insertAll (first ++ second) =
      (map.insertAll first).insertAll second :=
  List.foldl_append

theorem insertAll_insertAll (map : OrderedMap value)
    (entries : List (String × value)) :
    (map.insertAll entries).insertAll entries = map.insertAll entries := by
  apply ext_get?
  · rw [keys_insertAll, removeAll_eq_nil, List.eraseDups_nil,
      List.append_nil]
    intro name member
    exact (mem_keys_insertAll _ _ _).mpr (Or.inr member)
  · intro key
    rw [get?_insertAll, get?_insertAll, ← Option.or_assoc, Option.or_self]

/-! ### Maps that are filled by a list -/

/-- A map that is filled by a list of entries: every key stands where it is first
mentioned, and has the value that is written last. -/
structure FilledBy (map : OrderedMap value)
    (entries : List (String × value)) : Prop where
  keys : map.keys = (entries.map Prod.fst).eraseDups
  values : ∀ key, map.get? key = lastWrite key entries

theorem filledBy_insertAll_empty (entries : List (String × value)) :
    (insertAll empty entries).FilledBy entries := by
  refine ⟨?_, fun key => ?_⟩
  · rw [keys_insertAll, keys_empty, List.nil_append, List.removeAll_nil]
  · rw [get?_insertAll, get?_empty, Option.or_none]

/-- A map that is filled by a list has no other entries than a list of the same
entries in which no key is twice. -/
theorem FilledBy.entries_eq {map : OrderedMap value}
    {entries others : List (String × value)} (filled : map.FilledBy entries)
    (members : ∀ entry, entry ∈ entries ↔ entry ∈ others)
    (order : (entries.map Prod.fst).eraseDups = others.map Prod.fst) :
    map.entries = others := by
  have nodup : (others.map Prod.fst).Nodup := order ▸ nodup_eraseDups _
  have found : ∀ entry ∈ others, map.get? entry.1 = some entry.2 := by
    intro entry member
    rw [filled.values, lastWrite_congr fun item => members (entry.1, item)]
    · exact lastWrite_eq_some_of_nodup nodup member
    · intro item other itemMember otherMember
      have same : (entry.1, item) = (entry.1, other) :=
        List.inj_on_of_nodup_map nodup ((members _).mp itemMember)
          ((members _).mp otherMember) rfl
      exact (Prod.mk.inj same).2
  have fromEntry : ∀ entry ∈ others,
      ((map.get? entry.1).map fun item => (entry.1, item)) =
        some entry := by
    intro entry member
    rw [found entry member]
    rfl
  rw [entries_eq_filterMap, filled.keys, order, List.filterMap_map]
  exact (List.filterMap_congr fromEntry).trans List.filterMap_some

/-- Where every source writes keys of its own, the entries stand source by
source. -/
theorem FilledBy.entries_eq_flatMap {source : Type*} [DecidableEq source]
    {map : OrderedMap value} {sources : List source}
    {entries : source → List (String × value)}
    (filled : map.FilledBy (sources.flatMap entries))
    (nodup : ((sources.eraseDups.flatMap entries).map Prod.fst).Nodup) :
    map.entries = sources.eraseDups.flatMap entries := by
  apply filled.entries_eq
  · intro entry
    simp only [List.mem_flatMap, List.mem_eraseDups]
  · rw [List.map_flatMap, ← eraseDups_flatMap_eraseDups,
      ← List.map_flatMap, eraseDups_of_nodup nodup]

/-! ### Entries from several sources -/

section Sources

variable {source : Type*} {entries : source → List (String × value)}

/-- What is written already is not changed by sources that write the same or
nothing. -/
theorem insertAll_insertAll_flatMap {same : List (String × value)}
    {sources : List source}
    (each : ∀ element ∈ sources,
      entries element = [] ∨ entries element = same)
    (map : OrderedMap value) :
    (map.insertAll same).insertAll (sources.flatMap entries) =
      map.insertAll same := by
  induction sources with
  | nil => rfl
  | cons head tail inductionHypothesis =>
      obtain ⟨headEach, tailEach⟩ := List.forall_mem_cons.mp each
      rw [List.flatMap_cons, insertAll_append]
      rcases headEach with headEmpty | headSame
      · rw [headEmpty]
        exact inductionHypothesis tailEach
      · rw [headSame, insertAll_insertAll]
        exact inductionHypothesis tailEach

/-- Sources that write the same or nothing write as one that writes does. -/
theorem insertAll_flatMap_of_same {same : List (String × value)}
    {sources : List source}
    (each : ∀ element ∈ sources,
      entries element = [] ∨ entries element = same)
    (writes : ∃ element ∈ sources, entries element = same)
    (map : OrderedMap value) :
    map.insertAll (sources.flatMap entries) = map.insertAll same := by
  induction sources with
  | nil => simp at writes
  | cons head tail inductionHypothesis =>
      obtain ⟨headEach, tailEach⟩ := List.forall_mem_cons.mp each
      rw [List.flatMap_cons, insertAll_append]
      by_cases headSame : entries head = same
      · rw [headSame]
        exact insertAll_insertAll_flatMap tailEach map
      · obtain ⟨element, member, elementSame⟩ := writes
        have inTail : element ∈ tail :=
          (List.mem_cons.mp member).resolve_left fun isHead =>
            headSame (isHead ▸ elementSame)
        rw [headEach.resolve_right headSame]
        exact inductionHypothesis tailEach ⟨element, inTail, elementSame⟩

/-- Where all sources that write anything write the same, their order does not
matter, nor how often each is there. -/
theorem insertAll_flatMap_congr {first second : List source}
    (members : ∀ element, element ∈ first ↔ element ∈ second)
    (agree : ∀ element ∈ first, ∀ other ∈ first, entries element ≠ [] →
      entries other ≠ [] → entries element = entries other)
    (map : OrderedMap value) :
    map.insertAll (first.flatMap entries) =
      map.insertAll (second.flatMap entries) := by
  by_cases empty : ∀ element ∈ first, entries element = []
  · have otherEmpty : ∀ element ∈ second, entries element = [] :=
      fun element member => empty element ((members element).mpr member)
    rw [List.flatMap_eq_nil_iff.mpr empty,
      List.flatMap_eq_nil_iff.mpr otherEmpty]
  · push Not at empty
    obtain ⟨only, member, nonempty⟩ := empty
    have each : ∀ element ∈ first,
        entries element = [] ∨ entries element = entries only := by
      intro element elementMember
      by_cases none : entries element = []
      · exact Or.inl none
      · exact Or.inr (agree element elementMember only member none nonempty)
    rw [insertAll_flatMap_of_same each ⟨only, member, rfl⟩,
      insertAll_flatMap_of_same
        (fun element elementMember =>
          each element ((members element).mpr elementMember))
        ⟨only, (members only).mp member, rfl⟩]

end Sources

end OrderedMap

/-! ## Maps of maps -/

/-- A write to a map of maps: the inner map that it mentions, and the entry that
it writes there unless it only makes sure of the inner map. -/
structure SectionWrite (value : Type*) where
  owner : String
  content? : Option (String × value)

namespace SectionWrite

variable {value : Type*}

/-- The entries that are written to one of the inner maps. -/
def entriesOf (owner : String) (changes : List (SectionWrite value)) :
    List (String × value) :=
  (changes.filter (·.owner = owner)).filterMap (·.content?)

theorem entriesOf_append (owner : String)
    (first second : List (SectionWrite value)) :
    entriesOf owner (first ++ second) =
      entriesOf owner first ++ entriesOf owner second := by
  unfold entriesOf
  rw [List.filter_append, List.filterMap_append]

theorem entriesOf_flatMap {source : Type*} (owner : String)
    (sources : List source) (changes : source → List (SectionWrite value)) :
    entriesOf owner (sources.flatMap changes) =
      sources.flatMap fun element => entriesOf owner (changes element) := by
  unfold entriesOf
  rw [List.filter_flatMap, List.filterMap_flatMap]

theorem mem_owners_of_entriesOf_ne_nil {owner : String}
    {changes : List (SectionWrite value)}
    (nonempty : entriesOf owner changes ≠ []) :
    owner ∈ changes.map (·.owner) := by
  obtain ⟨entry, member⟩ := List.exists_mem_of_ne_nil _ nonempty
  obtain ⟨change, changeMember, _⟩ := List.mem_filterMap.mp member
  obtain ⟨listed, owned⟩ := List.mem_filter.mp changeMember
  exact List.mem_map.mpr ⟨change, listed, of_decide_eq_true owned⟩

theorem entriesOf_of_owners {owner : String}
    {changes : List (SectionWrite value)}
    (owned : ∀ change ∈ changes, change.owner = owner) :
    entriesOf owner changes = changes.filterMap (·.content?) := by
  unfold entriesOf
  rw [List.filter_eq_self.mpr]
  intro change member
  exact decide_eq_true (owned change member)

/-- An inner map that only one of several sources writes has the entries of that
one. -/
theorem insertAll_entriesOf_flatMap {source : Type*} {owner : String}
    {writes : source → List (SectionWrite value)} {sources : List source}
    {only : source} (member : only ∈ sources)
    (unique : ∀ other ∈ sources,
      owner ∈ (writes other).map (·.owner) → other = only)
    (map : OrderedMap value) :
    map.insertAll (entriesOf owner (sources.flatMap writes)) =
      map.insertAll (entriesOf owner (writes only)) := by
  rw [entriesOf_flatMap]
  apply OrderedMap.insertAll_flatMap_of_same _ ⟨only, member, rfl⟩
  intro other otherMember
  rw [or_iff_not_imp_left]
  intro nonempty
  rw [unique other otherMember (mem_owners_of_entriesOf_ne_nil nonempty)]

end SectionWrite

namespace OrderedMap

universe u

variable {value : Type u}

def writeSection (map : OrderedMap (OrderedMap value))
    (change : SectionWrite value) : OrderedMap (OrderedMap value) :=
  map.insert change.owner
    ((map.getD change.owner .empty).insertAll change.content?.toList)

/-- Make several writes to a map of maps, one after the other. -/
def writeSections (map : OrderedMap (OrderedMap value))
    (changes : List (SectionWrite value)) : OrderedMap (OrderedMap value) :=
  changes.foldl writeSection map

theorem keys_writeSections (map : OrderedMap (OrderedMap value))
    (changes : List (SectionWrite value)) :
    (map.writeSections changes).keys =
      map.keys ++
        ((changes.map (·.owner)).removeAll map.keys).eraseDups :=
  names_foldl keys (fun current change => keys_insert current change.owner _)
    map changes

/-- The maps that are mentioned first stand first. -/
theorem keys_writeSections_eq_eraseDups (map : OrderedMap (OrderedMap value))
    (changes : List (SectionWrite value)) :
    (map.writeSections changes).keys =
      (map.keys ++ changes.map (·.owner)).eraseDups := by
  rw [keys_writeSections, List.eraseDups_append,
    eraseDups_of_nodup map.nodup_keys]

theorem mem_keys_writeSections (map : OrderedMap (OrderedMap value))
    (changes : List (SectionWrite value)) (owner : String) :
    owner ∈ (map.writeSections changes).keys ↔
      owner ∈ map.keys ∨ owner ∈ changes.map (·.owner) := by
  rw [keys_writeSections, List.mem_append, List.mem_eraseDups,
    List.removeAll, List.mem_filter]
  by_cases known : owner ∈ map.keys <;> simp [known]

theorem getD_writeSection (map : OrderedMap (OrderedMap value))
    (change : SectionWrite value) (owner : String) :
    (map.writeSection change).getD owner .empty =
      (map.getD owner .empty).insertAll
        (SectionWrite.entriesOf owner [change]) := by
  unfold writeSection SectionWrite.entriesOf
  by_cases same : change.owner = owner
  · subst same
    rw [getD, get?_insert_self, Option.getD_some]
    cases written : change.content? <;> simp [written]
  · rw [getD, get?_insert_of_ne _ _ (Ne.symm same), ← getD]
    simp [same, insertAll]

/-- Every inner map takes the entries that are written to it, in order. -/
theorem getD_writeSections (map : OrderedMap (OrderedMap value))
    (changes : List (SectionWrite value)) (owner : String) :
    (map.writeSections changes).getD owner .empty =
      (map.getD owner .empty).insertAll
        (SectionWrite.entriesOf owner changes) := by
  induction changes generalizing map with
  | nil => rfl
  | cons change rest inductionHypothesis =>
      rw [← List.singleton_append, SectionWrite.entriesOf_append,
        insertAll_append, ← getD_writeSection]
      exact inductionHypothesis _

theorem writeSections_writeSections (map : OrderedMap (OrderedMap value))
    (changes : List (SectionWrite value)) :
    (map.writeSections changes).writeSections changes =
      map.writeSections changes := by
  have keysEq : ((map.writeSections changes).writeSections changes).keys =
      (map.writeSections changes).keys := by
    rw [keys_writeSections, removeAll_eq_nil, List.eraseDups_nil,
      List.append_nil]
    intro owner member
    exact (mem_keys_writeSections _ _ _).mpr (Or.inr member)
  apply ext_get? keysEq
  intro owner
  apply get?_eq_get? .empty (by rw [keysEq])
  rw [getD_writeSections, getD_writeSections, insertAll_insertAll]

/-! ### Writes from several sources -/

section Sources

variable {source : Type*} {changes : source → List (SectionWrite value)}
  {first second : List source}
  (members : ∀ element, element ∈ first ↔ element ∈ second)
  (map : OrderedMap (OrderedMap value))

include members

theorem mem_keys_writeSections_flatMap_congr (owner : String) :
    owner ∈ (map.writeSections (first.flatMap changes)).keys ↔
      owner ∈ (map.writeSections (second.flatMap changes)).keys := by
  simp only [mem_keys_writeSections, List.map_flatMap, List.mem_flatMap,
    members]

theorem keys_writeSections_flatMap_perm :
    (map.writeSections (first.flatMap changes)).keys.Perm
      (map.writeSections (second.flatMap changes)).keys :=
  (List.perm_ext_iff_of_nodup (nodup_keys _) (nodup_keys _)).mpr
    (mem_keys_writeSections_flatMap_congr members map)

/-- An inner map that one source writes is the same in whatever order the
sources come, and however often. -/
theorem get?_writeSections_flatMap_congr {owner : String}
    (unique : ∀ element ∈ first, ∀ other ∈ first,
      owner ∈ (changes element).map (·.owner) →
      owner ∈ (changes other).map (·.owner) → element = other) :
    (map.writeSections (first.flatMap changes)).get? owner =
      (map.writeSections (second.flatMap changes)).get? owner := by
  refine get?_eq_get? .empty
    (mem_keys_writeSections_flatMap_congr members map owner) ?_
  rw [getD_writeSections, getD_writeSections,
    SectionWrite.entriesOf_flatMap, SectionWrite.entriesOf_flatMap]
  apply insertAll_flatMap_congr members
  intro element member other otherMember writes otherWrites
  rw [unique element member other otherMember
    (SectionWrite.mem_owners_of_entriesOf_ne_nil writes)
    (SectionWrite.mem_owners_of_entriesOf_ne_nil otherWrites)]

end Sources

end OrderedMap

end TableGateway

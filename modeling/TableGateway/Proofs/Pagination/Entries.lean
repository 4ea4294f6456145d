import TableGateway.OrderedMap
import TableGateway.Pagination

/-!
# Entries of a pagination

Entries have a text, and it is read as these entries exactly if every one of them
is writable: both sides without white space around them, no semicolon, and no
equals sign in the key (`Pagination.parse_entriesText_iff`). Keys may repeat.
Setting an entry concerns the first one of its key and leaves the others where
they are (`Pagination.setsEntry_set`). The main statement,
`Pagination.keepsEntries`, has both.
-/

namespace TableGateway

namespace Pagination

/-- The text of entries: each as key, equals sign and value, with semicolons
between them. -/
def entriesText (entries : List (String × String)) : String :=
  ";".intercalate (entries.map fun (key, value) => key ++ "=" ++ value)

/-- What an entry needs for its text to be read as the entry. -/
structure IsWritable (entry : String × String) : Prop where
  key_trimmed : trimmed entry.1 = entry.1
  key_clean : '=' ∉ entry.1.toList ∧ ';' ∉ entry.1.toList
  value_trimmed : trimmed entry.2 = entry.2
  value_clean : ';' ∉ entry.2.toList

/-! ## One entry -/

section Entry

variable {key value segment : List Char}

theorem parseEntry_append (keyTrimmed : trim key = key) (clean : '=' ∉ key)
    (valueTrimmed : trim value = value) :
    parseEntry (key ++ '=' :: value) =
      (String.ofList key, String.ofList value) := by
  have cut : cutAt? '=' (key ++ '=' :: value) = some (key, value) :=
    cutAt?_eq_some_iff.mpr ⟨rfl, clean⟩
  rw [parseEntry, cut]
  dsimp only
  rw [keyTrimmed, valueTrimmed]

theorem isBlankText_entry : isBlankText (key ++ '=' :: value) = false := by
  rw [Bool.eq_false_iff, ne_eq, isBlankText_iff]
  intro allBlank
  have blank := allBlank '=' (by simp)
  exact absurd blank (by decide)

theorem isWritable_pair (keyClean : '=' ∉ key ∧ ';' ∉ key)
    (valueClean : ';' ∉ value) :
    IsWritable (String.ofList (trim key), String.ofList (trim value)) where
  key_trimmed := by simp [trimmed_eq_self_iff, trim_trim]
  key_clean := by
    rw [String.toList_ofList]
    exact ⟨fun member => keyClean.1 (mem_of_mem_trim member),
      fun member => keyClean.2 (mem_of_mem_trim member)⟩
  value_trimmed := by simp [trimmed_eq_self_iff, trim_trim]
  value_clean := by
    rw [String.toList_ofList]
    exact fun member => valueClean (mem_of_mem_trim member)

/-- An entry that has been read is writable. -/
theorem isWritable_parseEntry (single : ';' ∉ segment) :
    IsWritable (parseEntry segment) := by
  unfold parseEntry
  cases cut : cutAt? '=' segment with
  | some sides =>
      obtain ⟨before, after⟩ := sides
      obtain ⟨segmentEq, clean⟩ := cutAt?_eq_some_iff.mp cut
      simp only [segmentEq, List.mem_append, List.mem_cons, not_or] at single
      obtain ⟨notBefore, _, notAfter⟩ := single
      exact isWritable_pair ⟨clean, notBefore⟩ notAfter
  | none =>
      have clean := cutAt?_eq_none_iff.mp cut
      have noValue : trim [] = [] := rfl
      have written := isWritable_pair ⟨clean, single⟩ List.not_mem_nil
      rwa [noValue, String.ofList_nil] at written

end Entry

/-! ## Texts of entries -/

section Texts

variable {entries : List (String × String)} (table : String)

theorem toList_entriesText (entries : List (String × String)) :
    (entriesText entries).toList =
      [';'].intercalate (entries.map fun (key, value) =>
        key.toList ++ '=' :: value.toList) := by
  simp [entriesText, String.toList_intercalate, Function.comp_def]

/-- Cutting at semicolons undoes joining, and no piece is blank. -/
theorem segments_entriesText
    (writable : ∀ entry ∈ entries, IsWritable entry) :
    (segments ';' (entriesText entries).toList).filter (!isBlankText ·) =
      entries.map fun (key, value) => key.toList ++ '=' :: value.toList := by
  have allClean : ∀ part ∈ entries.map (fun (key, value) =>
      key.toList ++ '=' :: value.toList), ';' ∉ part := by
    intro part member
    obtain ⟨entry, inEntries, rfl⟩ := List.mem_map.mp member
    have written := writable entry inEntries
    simp [written.key_clean.2, written.value_clean]
  have noneBlank : ∀ part ∈ entries.map (fun (key, value) =>
      key.toList ++ '=' :: value.toList), (!isBlankText part) = true := by
    intro part member
    obtain ⟨entry, _, rfl⟩ := List.mem_map.mp member
    rw [isBlankText_entry]
    rfl
  rw [toList_entriesText]
  cases entries with
  | nil => rfl
  | cons head tail =>
      rw [segments_intercalate (by simp) allClean,
        List.filter_eq_self.mpr noneBlank]

theorem parse_entriesText (writable : ∀ entry ∈ entries, IsWritable entry) :
    parse (entriesText entries) table = ⟨table, entries⟩ := by
  have readBack : ∀ entry ∈ entries,
      parseEntry (entry.1.toList ++ '=' :: entry.2.toList) = entry := by
    intro entry member
    have written := writable entry member
    rw [parseEntry_append ((trimmed_eq_self_iff _).mp written.key_trimmed)
      written.key_clean.1 ((trimmed_eq_self_iff _).mp written.value_trimmed),
      String.ofList_toList, String.ofList_toList]
  rw [parse, segments_entriesText writable, List.map_map]
  exact congrArg (Pagination.mk table)
    ((List.map_congr_left readBack).trans (List.map_id entries))

/-- A pagination text holds writable entries only. -/
theorem isWritable_of_mem_parse {expression : String}
    {entry : String × String}
    (member : entry ∈ (parse expression table).entries) :
    IsWritable entry := by
  obtain ⟨segment, kept, rfl⟩ := List.mem_map.mp member
  have found := (List.mem_filter.mp kept).1
  refine isWritable_parseEntry fun held => ?_
  have notCut := not_cut_of_mem_segmentsBy found held
  simp at notCut

theorem parse_entriesText_iff :
    parse (entriesText entries) table = ⟨table, entries⟩ ↔
      ∀ entry ∈ entries, IsWritable entry := by
  refine ⟨fun read entry member => ?_, parse_entriesText table⟩
  apply isWritable_of_mem_parse table
  rw [read]
  exact member

end Texts

/-! ## Setting an entry -/

section Setting

variable (key value : String) (entries : List (String × String))

theorem setEntry_eq_insertEntry :
    setEntry key value entries =
      OrderedMap.insertEntry key value entries := by
  induction entries with
  | nil => rfl
  | cons entry rest inductionHypothesis =>
      obtain ⟨head, old⟩ := entry
      by_cases here : head = key
      · simp [setEntry, OrderedMap.insertEntry, here]
      · simp [setEntry, OrderedMap.insertEntry, here, inductionHypothesis]

/-- Only the place of the first entry with the key is written to, or the place
behind all entries if none has it. -/
theorem getElem?_setEntry (place : Nat) :
    (setEntry key value entries)[place]? =
      if place = entries.findIdx (·.1 == key) then some (key, value)
      else entries[place]? := by
  induction entries generalizing place with
  | nil => cases place <;> simp [setEntry]
  | cons entry rest inductionHypothesis =>
      obtain ⟨head, old⟩ := entry
      by_cases here : head = key
      · subst here
        cases place <;> simp [setEntry, List.findIdx_cons]
      · have passed : (head == key) = false := beq_eq_false_iff_ne.mpr here
        cases place with
        | zero => simp [setEntry, List.findIdx_cons, here, passed]
        | succ behind =>
            simp [setEntry, List.findIdx_cons, here, passed,
              inductionHypothesis]

theorem length_setEntry :
    (setEntry key value entries).length =
      if key ∈ entries.map Prod.fst then entries.length
      else entries.length + 1 := by
  have keysEq := congrArg List.length
    (OrderedMap.map_fst_insertEntry key value entries)
  rw [← setEntry_eq_insertEntry, List.length_map] at keysEq
  rw [keysEq]
  by_cases present : key ∈ entries.map Prod.fst
  · rw [if_pos present, if_pos present, List.length_map]
  · rw [if_neg present, if_neg present, List.length_append, List.length_map]
    rfl

end Setting

/-- One pagination comes from another by setting an entry. -/
structure SetsEntry (key value : String) (before after : Pagination) :
    Prop where
  table_eq : after.table = before.table
  get?_key : after.get? key = some value
  get?_other : ∀ other, other ≠ key → after.get? other = before.get? other
  length_eq : after.entries.length =
    if key ∈ before.entries.map Prod.fst then before.entries.length
    else before.entries.length + 1
  entry_set : after.entries[before.entries.findIdx (·.1 == key)]? =
    some (key, value)
  entry_kept : ∀ place, place ≠ before.entries.findIdx (·.1 == key) →
    after.entries[place]? = before.entries[place]?

theorem setsEntry_set (pagination : Pagination) (key value : String) :
    SetsEntry key value pagination (pagination.set key value) where
  table_eq := rfl
  get?_key := by rw [get?_set, if_pos rfl]
  get?_other := fun other different => by rw [get?_set, if_neg different]
  length_eq := length_setEntry key value pagination.entries
  entry_set :=
    (getElem?_setEntry key value pagination.entries _).trans (if_pos rfl)
  entry_kept := fun place elsewhere =>
    (getElem?_setEntry key value pagination.entries place).trans
      (if_neg elsewhere)

/-- Entries are read from their text exactly if all are writable, and setting an
entry of any pagination leaves the other entries as and where they are. -/
theorem keepsEntries (table : String) :
    (∀ entries, parse (entriesText entries) table = ⟨table, entries⟩ ↔
      ∀ entry ∈ entries, IsWritable entry) ∧
    ∀ pagination key value,
      SetsEntry key value pagination (pagination.set key value) :=
  ⟨fun _ => parse_entriesText_iff table, setsEntry_set⟩

/-- A key that is repeated, one that is empty, and an equals sign in a value. -/
example :
    parse "limit=5;=a=b;limit=" "t" =
      ⟨"t", [("limit", "5"), ("", "a=b"), ("limit", "")]⟩ := by
  cbv

end Pagination

end TableGateway

import TableGateway.Proofs.Json.Equality
import TableGateway.Proofs.Store.Writing

/-!
# Keys of rows

A write leaves every row at its place, with the key it had
(`StoredTable.keepsRows_upsert`), and where no two rows hold the same key, that
is so after the write (`StoredTable.keysDistinct_upsert`): the row written is
the only one that holds the written key.
-/

namespace TableGateway

namespace StoredTable

variable {table : StoredTable} {input : Members} {rows : List Json}

/-- Rows whose keys, if they have any, are not the same. -/
def Apart (table : StoredTable) (left right : Json) : Prop :=
  ∀ leftKey rightKey,
    left.present? table.primaryKey = some leftKey →
    right.present? table.primaryKey = some rightKey →
    leftKey.same rightKey = false

/-- No two rows hold the same key. -/
def KeysDistinct (table : StoredTable) (rows : List Json) : Prop :=
  rows.Pairwise table.Apart

/-- A row afterwards: as it was, or still under the same key. -/
def Continues (table : StoredTable) (row later : Json) : Prop :=
  later = row ∨
    ∃ key laterKey, row.present? table.primaryKey = some key ∧
      later.present? table.primaryKey = some laterKey ∧
      key.same laterKey = true

/-- Every row goes on at its place. -/
def KeepsRows (table : StoredTable) (before after : List Json) : Prop :=
  ∀ (place : Nat) row, before[place]? = some row →
    ∃ later, after[place]? = some later ∧ table.Continues row later

theorem apart_symm {left right : Json} (apart : table.Apart left right) :
    table.Apart right left := by
  intro rightKey leftKey rightPresent leftPresent
  rw [Json.same_comm]
  exact apart leftKey rightKey leftPresent rightPresent

/-! ## Rows that go on -/

theorem Continues.trans {row later last : Json}
    (first : table.Continues row later)
    (second : table.Continues later last) : table.Continues row last := by
  rcases first with rfl | ⟨key, laterKey, present, laterPresent, agree⟩
  · exact second
  · rcases second with rfl | ⟨sameKey, lastKey, samePresent, lastPresent, lastAgree⟩
    · exact .inr ⟨key, laterKey, present, laterPresent, agree⟩
    · rw [laterPresent, Option.some.injEq] at samePresent
      subst samePresent
      exact .inr ⟨key, lastKey, present, lastPresent,
        Json.same_trans agree lastAgree⟩

theorem keepsRows_refl (table : StoredTable) (rows : List Json) :
    table.KeepsRows rows rows :=
  fun _ row found => ⟨row, found, .inl rfl⟩

theorem KeepsRows.trans {before between after : List Json}
    (first : table.KeepsRows before between)
    (second : table.KeepsRows between after) :
    table.KeepsRows before after := by
  intro place row found
  obtain ⟨later, laterFound, continues⟩ := first place row found
  obtain ⟨last, lastFound, goesOn⟩ := second place later laterFound
  exact ⟨last, lastFound, continues.trans goesOn⟩

/-- What holds a key that is not null has it as its own. -/
theorem present?_of_holdsValue {column : String} {key row : Json}
    (notNull : key.isNull = false) (holds : holdsValue column key row = true) :
    ∃ found, row.present? column = some found ∧ found.same key = true := by
  cases held : row.get? column with
  | none => simp [holdsValue, held] at holds
  | some found =>
      have agree : found.same key = true := by
        simpa [holdsValue, held] using holds
      have foundNotNull : found.isNull = false := by
        cases found with
        | null => cases key <;> simp_all [Json.same, Json.isNull]
        | _ => rfl
      exact ⟨found, by simp [Json.present?, held, foundNotNull], agree⟩

theorem holdsValue_eq_false_iff {column : String} {key row : Json}
    (notNull : key.isNull = false) :
    holdsValue column key row = false ↔
      ∀ found, row.present? column = some found → found.same key = false := by
  constructor
  · intro notHeld found present
    have held : row.get? column = some found := by
      unfold Json.present? at present
      exact (Option.filter_eq_some_iff.mp present).1
    simpa [holdsValue, held] using notHeld
  · intro differ
    by_contra holds
    obtain ⟨found, present, agree⟩ :=
      present?_of_holdsValue notNull (by simpa using holds)
    rw [differ found present] at agree
    cases agree

/-- A write leaves every row at its place, under the key it has. -/
theorem keepsRows_upsert {input : OrderedMembers}
    (columnsKnown : table.unknownColumn? input = none) :
    table.KeepsRows rows (table.upsert input rows).1 := by
  intro place row found
  have inRows := (List.getElem?_eq_some_iff.mp found).1
  by_cases here : place = table.writtenPlace input rows
  · subst here
    refine ⟨_, table.getElem?_upsert input rows, ?_⟩
    obtain ⟨key, supplied, holds⟩ := holdsValue_of_getElem?_writtenPlace found
    have writtenEq : table.writtenKey input rows = key := by
      simp [writtenKey, supplied]
    have notNull := table.isNull_writtenKey input rows
    rw [← writtenEq] at holds
    obtain ⟨old, present, agree⟩ := present?_of_holdsValue notNull holds
    exact .inr ⟨old, _, present, present?_writtenRow columnsKnown, agree⟩
  · refine ⟨row, ?_, .inl rfl⟩
    have bound := table.writtenPlace_le input rows
    rw [upsert_rows]
    rcases Nat.lt_or_gt_of_ne here with before | behind
    · rw [List.getElem?_append_left (by simp; omega),
        List.getElem?_take_of_lt before, found]
    · obtain ⟨distance, rfl⟩ := Nat.exists_eq_add_of_lt behind
      rw [List.getElem?_append_right (by simp; omega),
        List.length_take_of_le bound,
        show table.writtenPlace input rows + distance + 1 -
            table.writtenPlace input rows = distance + 1 by omega,
        List.getElem?_cons_succ, List.getElem?_drop, ← found]
      congr 1
      omega

/-! ## The only row under a key -/

/-- No row but the one at the place of a write holds the written key. -/
theorem not_holdsValue_others (distinct : table.KeysDistinct rows)
    (numbered : table.HasNumber input rows) :
    ∀ row ∈ rows.eraseIdx (table.writtenPlace input rows),
      holdsValue table.primaryKey (table.writtenKey input rows) row =
        false := by
  intro row member
  have notNull := table.isNull_writtenKey input rows
  rw [List.eraseIdx_eq_take_drop_succ, List.mem_append] at member
  rcases member with before | behind
  · exact not_holdsValue_before numbered row before
  · -- Rows behind the place differ from the one there, which holds the key.
    cases found : rows[table.writtenPlace input rows]? with
    | none =>
        have ended := List.getElem?_eq_none_iff.mp found
        rw [List.drop_eq_nil_of_le (by omega)] at behind
        cases behind
    | some old =>
        obtain ⟨key, supplied, holds⟩ :=
          holdsValue_of_getElem?_writtenPlace found
        have writtenEq : table.writtenKey input rows = key := by
          simp [writtenKey, supplied]
        rw [← writtenEq] at holds
        obtain ⟨oldKey, present, agree⟩ := present?_of_holdsValue notNull holds
        obtain ⟨bound, oldEq⟩ := List.getElem?_eq_some_iff.mp found
        have fromHere : (rows.drop (table.writtenPlace input rows)).Pairwise
            table.Apart := distinct.sublist (List.drop_sublist _ _)
        rw [List.drop_eq_getElem_cons bound, oldEq, List.pairwise_cons]
          at fromHere
        rw [holdsValue_eq_false_iff notNull]
        intro other otherPresent
        by_contra agrees
        have differ := fromHere.1 row behind oldKey other present otherPresent
        have sameKey := Json.same_trans agree
          (Json.same_symm (by simpa using agrees))
        rw [differ] at sameKey
        cases sameKey

/-- Keys stay distinct under a write. -/
theorem keysDistinct_upsert {input : OrderedMembers}
    (columnsKnown : table.unknownColumn? input = none)
    (numbered : table.HasNumber input rows)
    (distinct : table.KeysDistinct rows) :
    table.KeysDistinct (table.upsert input rows).1 := by
  have others := not_holdsValue_others distinct numbered
  have othersDistinct : (rows.eraseIdx (table.writtenPlace input rows)).Pairwise
      table.Apart := distinct.sublist (List.eraseIdx_sublist _ _)
  rw [List.eraseIdx_eq_take_drop_succ] at others othersDistinct
  rw [KeysDistinct, upsert_rows, List.pairwise_middle apart_symm,
    List.pairwise_cons]
  refine ⟨?_, othersDistinct⟩
  intro other member key otherKey present otherPresent
  rw [present?_writtenRow columnsKnown, Option.some.injEq] at present
  have notNull := table.isNull_writtenKey input rows
  rw [← present, Json.same_comm]
  exact (holdsValue_eq_false_iff notNull).mp (others other member) otherKey
    otherPresent

end StoredTable

end TableGateway

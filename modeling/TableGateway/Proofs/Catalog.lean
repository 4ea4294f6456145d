import Mathlib.Data.List.Forall2
import TableGateway.Driver.Metadata

/-!
# The metadata of all tables

The metadata of a list of tables are to be had exactly when those of every
table are, and then they are those, in order.
-/

namespace TableGateway

namespace Catalog

variable {catalog : Catalog}

theorem metadataOf_cons_of_ok {table : String} {metadata : TableMetadata}
    (found : catalog.tableMetadata table = .ok metadata)
    (others : List String) :
    catalog.metadataOf (table :: others) =
      (catalog.metadataOf others).map (metadata :: ·) := by
  rw [metadataOf, found]
  cases catalog.metadataOf others with
  | error fault => rfl
  | ok rest => rfl

theorem exists_metadataOf_iff (names : List String) :
    (∃ tables, catalog.metadataOf names = .ok tables) ↔
      ∀ table ∈ names, ∃ metadata,
        catalog.tableMetadata table = .ok metadata := by
  induction names with
  | nil => exact ⟨fun _ => by simp, fun _ => ⟨[], rfl⟩⟩
  | cons table others inductionHypothesis =>
      rw [List.forall_mem_cons, ← inductionHypothesis]
      constructor
      · rintro ⟨tables, found⟩
        cases tableFound : catalog.tableMetadata table with
        | error fault =>
            rw [metadataOf, tableFound] at found
            cases found
        | ok metadata =>
            rw [metadataOf_cons_of_ok tableFound] at found
            cases othersFound : catalog.metadataOf others with
            | error fault =>
                rw [othersFound] at found
                cases found
            | ok rest => exact ⟨⟨metadata, rfl⟩, rest, rfl⟩
      · rintro ⟨⟨metadata, tableFound⟩, rest, othersFound⟩
        rw [metadataOf_cons_of_ok tableFound, othersFound]
        exact ⟨metadata :: rest, rfl⟩

/-- The first table without metadata is the one whose error counts. -/
theorem metadataOf_of_first_error {before after : List String}
    {table : String} {fault : DriverError}
    (earlierFound : ∀ earlier ∈ before, ∃ metadata,
      catalog.tableMetadata earlier = .ok metadata)
    (failed : catalog.tableMetadata table = .error fault) :
    catalog.metadataOf (before ++ table :: after) = .error fault := by
  induction before with
  | nil => rw [List.nil_append, metadataOf, failed]
  | cons head rest inductionHypothesis =>
      rw [List.forall_mem_cons] at earlierFound
      obtain ⟨⟨metadata, headFound⟩, restFound⟩ := earlierFound
      rw [List.cons_append, metadataOf_cons_of_ok headFound,
        inductionHypothesis restFound]
      rfl

/-- Metadata fail to be had with the error of the first table that has none. -/
theorem metadataOf_eq_error_iff (names : List String)
    (fault : DriverError) :
    catalog.metadataOf names = .error fault ↔
      ∃ before table after, names = before ++ table :: after ∧
        (∀ earlier ∈ before, ∃ metadata,
          catalog.tableMetadata earlier = .ok metadata) ∧
        catalog.tableMetadata table = .error fault := by
  constructor
  · intro failed
    induction names with
    | nil => cases failed
    | cons head rest inductionHypothesis =>
        cases headFound : catalog.tableMetadata head with
        | error headFault =>
            rw [metadataOf, headFound] at failed
            cases failed
            exact ⟨[], head, rest, rfl, by simp, headFound⟩
        | ok metadata =>
            rw [metadataOf_cons_of_ok headFound] at failed
            have restFailed : catalog.metadataOf rest = .error fault := by
              cases restFound : catalog.metadataOf rest with
              | error restFault =>
                  rw [restFound] at failed
                  cases failed
                  rfl
              | ok tables =>
                  rw [restFound] at failed
                  cases failed
            obtain ⟨before, table, after, restEq, earlierFound,
              tableFailed⟩ := inductionHypothesis restFailed
            refine ⟨head :: before, table, after, by rw [restEq]; rfl, ?_,
              tableFailed⟩
            exact List.forall_mem_cons.mpr
              ⟨⟨metadata, headFound⟩, earlierFound⟩
  · rintro ⟨before, table, after, rfl, earlierFound, failed⟩
    exact metadataOf_of_first_error earlierFound failed

/-! ### Tables and their metadata -/

theorem metadataOf_eq_ok_iff (names : List String)
    (tables : List TableMetadata) :
    catalog.metadataOf names = .ok tables ↔
      List.Forall₂
        (fun table metadata => catalog.tableMetadata table = .ok metadata)
        names tables := by
  induction names generalizing tables with
  | nil =>
      rw [List.forall₂_nil_left_iff, metadataOf, Except.ok.injEq]
      exact eq_comm
  | cons table others inductionHypothesis =>
      rw [List.forall₂_cons_left_iff]
      simp only [← inductionHypothesis]
      cases tableFound : catalog.tableMetadata table with
      | error fault => simp [metadataOf, tableFound]
      | ok metadata =>
          rw [metadataOf_cons_of_ok tableFound]
          cases catalog.metadataOf others with
          | error fault => simp [Except.map]
          | ok rest => simp [Except.map, eq_comm]

section Members

variable {names : List String} {tables : List TableMetadata}

theorem exists_table_of_mem
    (found : catalog.metadataOf names = .ok tables)
    {metadata : TableMetadata} (member : metadata ∈ tables) :
    ∃ table ∈ names, catalog.tableMetadata table = .ok metadata := by
  rw [metadataOf_eq_ok_iff] at found
  induction found with
  | nil => cases member
  | cons tableFound _ inductionHypothesis =>
      rcases List.mem_cons.mp member with rfl | inRest
      · exact ⟨_, List.mem_cons_self, tableFound⟩
      · obtain ⟨table, tableMember, metadataFound⟩ :=
          inductionHypothesis inRest
        exact ⟨table, List.mem_cons_of_mem _ tableMember, metadataFound⟩

theorem exists_metadata_of_mem
    (found : catalog.metadataOf names = .ok tables)
    {table : String} (member : table ∈ names) :
    ∃ metadata ∈ tables, catalog.tableMetadata table = .ok metadata := by
  rw [metadataOf_eq_ok_iff] at found
  induction found with
  | nil => cases member
  | cons tableFound _ inductionHypothesis =>
      rcases List.mem_cons.mp member with rfl | inRest
      · exact ⟨_, List.mem_cons_self, tableFound⟩
      · obtain ⟨metadata, listed, metadataFound⟩ := inductionHypothesis inRest
        exact ⟨metadata, List.mem_cons_of_mem _ listed, metadataFound⟩

/-! ### Tables that are told about under their own names -/

variable (named : ∀ table ∈ names, ∀ metadata,
  catalog.tableMetadata table = .ok metadata → metadata.name = table)

include named

theorem map_name_of_metadataOf
    (found : catalog.metadataOf names = .ok tables) :
    tables.map (·.name) = names := by
  rw [metadataOf_eq_ok_iff] at found
  induction found with
  | nil => rfl
  | cons tableFound _ inductionHypothesis =>
      obtain ⟨headNamed, tailNamed⟩ := List.forall_mem_cons.mp named
      rw [List.map_cons, headNamed _ tableFound,
        inductionHypothesis tailNamed]

theorem mem_iff_of_metadataOf
    (found : catalog.metadataOf names = .ok tables)
    (metadata : TableMetadata) :
    metadata ∈ tables ↔ metadata.name ∈ names ∧
      catalog.tableMetadata metadata.name = .ok metadata := by
  constructor
  · intro member
    obtain ⟨table, listed, metadataFound⟩ := exists_table_of_mem found member
    rw [named table listed metadata metadataFound]
    exact ⟨listed, metadataFound⟩
  · rintro ⟨listed, metadataFound⟩
    obtain ⟨other, member, otherFound⟩ := exists_metadata_of_mem found listed
    rw [metadataFound] at otherFound
    rwa [Except.ok.inj otherFound]

end Members

end Catalog

end TableGateway

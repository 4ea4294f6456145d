import TableGateway.Proofs.Catalog
import TableGateway.Proofs.Schema.FieldWrites

/-!
# The definitions of a compiled schema

A compiler that was fresh when it went over the tables of a catalog has, for
every table, the object type, the page type and the input type, besides the root
types and the input type of a condition, and no other type
(`Compiler.mem_types_mapAll_fresh`, `Compiler.mem_inputs_mapAll_fresh`).
-/

namespace TableGateway

namespace Compiler

/-- A compiler that has compiled a catalog has gone over the metadata of all its
tables. -/
theorem exists_metadata_of_build {catalog : Catalog}
    {compiler after : Compiler} (built : compiler.build catalog = .ok after) :
    ∃ tables, catalog.allMetadata = .ok tables ∧
      after = compiler.mapAll catalog tables := by
  unfold build at built
  cases found : catalog.allMetadata with
  | error fault =>
      rw [found] at built
      cases built
  | ok tables =>
      rw [found] at built
      cases built
      exact ⟨tables, rfl, rfl⟩

/-! ## Types that the passes mention -/

section Passes

variable (catalog : Catalog) (metadata : TableMetadata) (name : String)

theorem mem_typeNames_typePass :
    name ∈ (typePass catalog metadata).filterMap (·.typeName?) ↔
      name = Naming.typeName metadata.name := by
  rw [List.mem_filterMap]
  constructor
  · rintro ⟨change, member, mentioned⟩
    rcases mem_typePass_iff.mp member with rfl | ⟨_, _, rfl⟩
    · exact (Option.some.inj mentioned).symm
    · exact (Option.some.inj mentioned).symm
  · rintro rfl
    exact ⟨_, mem_typePass_iff.mpr (Or.inl rfl), rfl⟩

theorem typeNames_inputPass :
    (inputPass catalog metadata).filterMap (·.typeName?) = [] := by
  rw [List.filterMap_eq_nil_iff]
  intro change member
  rcases mem_inputPass_iff.mp member with rfl | ⟨_, _, _, _, rfl⟩
  · rfl
  · rfl

theorem inputNames_typePass :
    (typePass catalog metadata).filterMap (·.inputName?) = [] := by
  rw [List.filterMap_eq_nil_iff]
  intro change member
  rcases mem_typePass_iff.mp member with rfl | ⟨_, _, rfl⟩
  · rfl
  · rfl

theorem mem_inputNames_inputPass :
    name ∈ (inputPass catalog metadata).filterMap (·.inputName?) ↔
      name = Naming.inputTypeName metadata.name := by
  rw [List.mem_filterMap]
  constructor
  · rintro ⟨change, member, mentioned⟩
    rcases mem_inputPass_iff.mp member with rfl | ⟨_, _, _, _, rfl⟩
    · exact (Option.some.inj mentioned).symm
    · exact (Option.some.inj mentioned).symm
  · rintro rfl
    exact ⟨_, mem_inputPass_iff.mpr (Or.inl rfl), rfl⟩

end Passes

/-! ## Types of a compiled schema -/

variable (catalog : Catalog) (tables : List TableMetadata) (name : String)

theorem mem_types_mapAll_fresh :
    name ∈ (fresh.mapAll catalog tables).model.types.keys ↔
      ∃ metadata ∈ tables,
        name = Naming.typeName metadata.name ∨
          name = Naming.pageTypeName metadata.name ∨
            name = Naming.query ∨ name = Naming.mutation := by
  have freshNone : name ∉ fresh.model.types.keys := List.not_mem_nil
  have page (metadata : TableMetadata) :
      name ∈ (pagePass metadata).filterMap (·.typeName?) ↔
        name = Naming.pageTypeName metadata.name :=
    List.mem_pair.trans (or_self_iff)
  have query (metadata : TableMetadata) :
      name ∈ (queryPass metadata).filterMap (·.typeName?) ↔
        name = Naming.query :=
    List.mem_pair.trans (or_self_iff)
  have mutation (metadata : TableMetadata) :
      name ∈ (mutationPass metadata).filterMap (·.typeName?) ↔
        name = Naming.mutation :=
    List.mem_singleton
  rw [model_mapAll, SchemaModel.mem_types_writeAll, or_iff_left freshNone]
  simp only [allPasses, List.filterMap_append, List.filterMap_flatMap,
    List.mem_append, List.mem_flatMap, mem_typeNames_typePass, page, query,
    typeNames_inputPass, mutation, List.not_mem_nil, and_false, exists_false,
    or_false, ← exists_or, ← and_or_left, or_assoc]

theorem mem_inputs_mapAll_fresh :
    name ∈ (fresh.mapAll catalog tables).model.inputs.keys ↔
      name = Naming.condition ∨
        ∃ metadata ∈ tables, name = Naming.inputTypeName metadata.name := by
  have freshOnly : name ∈ fresh.model.inputs.keys ↔ name = Naming.condition :=
    List.mem_singleton
  have page (metadata : TableMetadata) :
      (pagePass metadata).filterMap (·.inputName?) = [] := rfl
  have query (metadata : TableMetadata) :
      (queryPass metadata).filterMap (·.inputName?) = [] := rfl
  have mutation (metadata : TableMetadata) :
      (mutationPass metadata).filterMap (·.inputName?) = [] := rfl
  rw [model_mapAll, SchemaModel.mem_inputs_writeAll, freshOnly, or_comm]
  simp only [allPasses, List.filterMap_append, List.filterMap_flatMap,
    List.mem_append, List.mem_flatMap, inputNames_typePass, page, query,
    mem_inputNames_inputPass, mutation, List.not_mem_nil, and_false,
    exists_false, false_or, or_false]

end Compiler

end TableGateway

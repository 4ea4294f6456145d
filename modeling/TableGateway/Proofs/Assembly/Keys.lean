import TableGateway.Proofs.Resolver.Registrations
import TableGateway.Proofs.Schema.FieldWrites

/-!
# Keys of resolvers and keys of fields

The compiler and the registry go through the metadata on their own, in
different orders. Still every resolver is written as a field, and every field
that takes parameters is registered as a resolver, under one key each.
-/

namespace TableGateway

section Agreement

variable {catalog : Catalog} {tables : List TableMetadata}
  {metadata : TableMetadata} {key : ResolverKey}

/-- Every resolver of a table is written as a field by one of the passes. -/
theorem TableMetadata.exists_write_of_resolver (catalog : Catalog)
    {resolver : GeneratedResolver}
    (member : (key, resolver) ∈ metadata.resolvers) :
    ∃ field,
      (key, field) ∈ Compiler.typeWrites catalog metadata ∨
      (key, field) ∈ Compiler.queryWrites metadata ∨
      (key, field) ∈ Compiler.mutationWrites metadata := by
  unfold resolvers at member
  rw [List.mem_append, List.mem_append] at member
  rcases member with (root | foreign) | reverse
  · unfold rootResolvers at root
    simp only [List.mem_cons, Prod.mk.injEq, List.not_mem_nil, or_false]
      at root
    rcases root with ⟨rfl, _⟩ | ⟨rfl, _⟩ | ⟨rfl, _⟩
    · exact ⟨_, Or.inr (Or.inl List.mem_cons_self)⟩
    · exact ⟨_, Or.inr (Or.inl
        (List.mem_cons_of_mem _ List.mem_cons_self))⟩
    · exact ⟨_, Or.inr (Or.inr List.mem_cons_self)⟩
  · obtain ⟨foreignKey, foreignMember, equality⟩ := List.mem_map.mp foreign
    obtain ⟨rfl, _⟩ := Prod.mk.inj equality
    have isDefinition : Compiler.foreignFieldOf foreignKey ∈
        Compiler.typeDefinitions catalog metadata := by
      apply List.mem_append_left
      exact List.mem_append_right _ (List.mem_map_of_mem foreignMember)
    have written := Compiler.fieldWrite_mem_typeWrites isDefinition
    exact ⟨_, Or.inl written⟩
  · obtain ⟨relation, relationMember, equality⟩ := List.mem_map.mp reverse
    obtain ⟨rfl, _⟩ := Prod.mk.inj equality
    have isDefinition : Compiler.reverseFieldOf relation ∈
        Compiler.typeDefinitions catalog metadata :=
      List.mem_append_right _ (List.mem_map_of_mem relationMember)
    have written := Compiler.fieldWrite_mem_typeWrites isDefinition
    exact ⟨_, Or.inl written⟩

/-- Every field with parameters in the object type of a table has a
resolver. -/
theorem TableMetadata.exists_resolver_of_typeWrite
    {field : FieldDefinition}
    (member : (key, field) ∈ Compiler.typeWrites catalog metadata)
    (parametrized : field.params.entries ≠ []) :
    ∃ resolver, (key, resolver) ∈ metadata.resolvers := by
  obtain ⟨definition, definitionMember, equality⟩ := List.mem_map.mp member
  obtain ⟨rfl, rfl⟩ := Prod.mk.inj equality
  unfold Compiler.typeDefinitions at definitionMember
  rw [List.mem_append, List.mem_append] at definitionMember
  rcases definitionMember with (columnMember | foreign) | reverse
  · obtain ⟨column, _, columnField⟩ := List.mem_filterMap.mp columnMember
    exact absurd (Compiler.params_of_columnField? columnField) parametrized
  · obtain ⟨foreignKey, foreignMember, rfl⟩ := List.mem_map.mp foreign
    refine ⟨(metadata.foreignResolver foreignKey).2, ?_⟩
    apply List.mem_append_left
    exact List.mem_append_right _ (List.mem_map_of_mem foreignMember)
  · obtain ⟨relation, relationMember, rfl⟩ := List.mem_map.mp reverse
    refine ⟨(metadata.reverseResolver relation).2, ?_⟩
    exact List.mem_append_right _ (List.mem_map_of_mem relationMember)

theorem exists_modelWrite_of_registration (catalog : Catalog)
    {resolver : GeneratedResolver}
    (member : (key, resolver) ∈ Registry.registrations tables) :
    ∃ field, (key, field) ∈ Compiler.modelWrites catalog tables := by
  obtain ⟨metadata, tableMember, resolverMember⟩ :=
    List.mem_flatMap.mp member
  obtain ⟨field, written⟩ :=
    metadata.exists_write_of_resolver catalog resolverMember
  refine ⟨field, ?_⟩
  unfold Compiler.modelWrites
  simp only [List.mem_append, List.mem_flatMap]
  rcases written with inType | inQuery | inMutation
  · exact Or.inl (Or.inl (Or.inl ⟨metadata, tableMember, inType⟩))
  · exact Or.inl (Or.inr ⟨metadata, tableMember, inQuery⟩)
  · exact Or.inr ⟨metadata, tableMember, inMutation⟩

theorem exists_registration_of_modelWrite {field : FieldDefinition}
    (member : (key, field) ∈ Compiler.modelWrites catalog tables)
    (parametrized : field.params.entries ≠ []) :
    ∃ resolver, (key, resolver) ∈ Registry.registrations tables := by
  suffices ofTable : ∃ metadata ∈ tables, ∃ resolver,
      (key, resolver) ∈ metadata.resolvers by
    obtain ⟨metadata, tableMember, resolver, resolverMember⟩ := ofTable
    exact ⟨resolver,
      List.mem_flatMap.mpr ⟨metadata, tableMember, resolverMember⟩⟩
  unfold Compiler.modelWrites at member
  simp only [List.mem_append, List.mem_flatMap] at member
  rcases member with
    ((⟨metadata, tableMember, inType⟩ | ⟨metadata, _, inPage⟩) |
      ⟨metadata, tableMember, inQuery⟩) | ⟨metadata, tableMember, inMutation⟩
  · exact ⟨metadata, tableMember,
      metadata.exists_resolver_of_typeWrite inType parametrized⟩
  · exact absurd (Compiler.params_of_mem_pageWrites inPage) parametrized
  · unfold Compiler.queryWrites at inQuery
    simp only [List.map_cons, List.map_nil, List.mem_cons,
      List.not_mem_nil, or_false] at inQuery
    refine ⟨metadata, tableMember, ?_⟩
    rcases inQuery with equality | equality
    · rw [(Prod.mk.inj equality).1]
      exact ⟨_, List.mem_cons_self⟩
    · rw [(Prod.mk.inj equality).1]
      exact ⟨_, List.mem_cons_of_mem _ List.mem_cons_self⟩
  · have equality := List.mem_singleton.mp inMutation
    rw [(Prod.mk.inj equality).1]
    exact ⟨metadata, tableMember, _,
      List.mem_cons_of_mem _ (List.mem_cons_of_mem _ List.mem_cons_self)⟩

end Agreement

end TableGateway

import TableGateway.Proofs.Catalog
import TableGateway.Proofs.Naming
import TableGateway.Proofs.Resolver.RelationResolvers

/-!
# The field that a resolver answers for

Every generated resolver has a field that the compiler writes for it. Where
tables do not get in each other's way by their names, the field that is written
last under a key belongs to the resolver that is registered last under it, even
if columns and relations of one table share a name. The main statement is
`exists_last_resolver`.
-/

namespace TableGateway

/-! ## Resolvers and their fields -/

namespace GeneratedResolver

def table : GeneratedResolver → String
  | getPage table | getFirst table | putItem table => table
  | foreign relation | reverse relation => relation.table

def isPaged : GeneratedResolver → Bool
  | getPage _ | reverse _ => true
  | getFirst _ | putItem _ | foreign _ => false

/-- The type of the field that a resolver answers for. -/
def typeName (resolver : GeneratedResolver) : String :=
  if resolver.isPaged then Naming.pageTypeName resolver.table
  else Naming.typeName resolver.table

/-- The field that a resolver answers for, under a given name. -/
def definition (name : String) (resolver : GeneratedResolver) :
    FieldDefinition :=
  let bare := FieldDefinition.plain name (.named resolver.typeName)
  match resolver with
  | putItem table =>
      (bare.param "input" (.nonNull (.named (Naming.inputTypeName table)))).param
        "_debug" .boolean
  | getPage _ | getFirst _ | foreign _ | reverse _ => bare.withQueryParams

theorem type_definition (name : String) (resolver : GeneratedResolver) :
    (resolver.definition name).type = .named resolver.typeName := by
  cases resolver with
  | getPage table => rfl
  | getFirst table => rfl
  | putItem table => rfl
  | foreign relation => rfl
  | reverse relation => rfl

/-- The writes of fields that go with some resolvers. -/
def fieldWrites (resolvers : List (ResolverKey × GeneratedResolver)) :
    List (ResolverKey × FieldDefinition) :=
  resolvers.map fun entry => (entry.1, entry.2.definition entry.1.field)

theorem lastWrite_fieldWrites (key : ResolverKey)
    (resolvers : List (ResolverKey × GeneratedResolver)) :
    lastWrite key (fieldWrites resolvers) =
      (lastWrite key resolvers).map (·.definition key.field) :=
  lastWrite_map_value
    (fun (written : ResolverKey) (resolver : GeneratedResolver) =>
      resolver.definition written.field)
    key resolvers

end GeneratedResolver

open GeneratedResolver (fieldWrites lastWrite_fieldWrites)

section OneTable

variable {catalog : Catalog} {metadata : TableMetadata} {key : ResolverKey}

theorem Compiler.rootWrites_eq (metadata : TableMetadata) :
    queryWrites metadata ++ mutationWrites metadata =
      fieldWrites metadata.rootResolvers := rfl

/-- The fields of the relations of a table come after those of its columns. -/
theorem Compiler.typeWrites_eq (catalog : Catalog)
    (metadata : TableMetadata) :
    typeWrites catalog metadata =
      (metadata.columns.filterMap (columnField? catalog)).map
          (fieldWrite (Naming.typeName metadata.name)) ++
        fieldWrites metadata.relationResolvers := by
  unfold typeWrites typeDefinitions TableMetadata.relationResolvers
    GeneratedResolver.fieldWrites
  simp only [List.map_append, List.map_map, List.append_assoc]
  rfl

/-! ## Owners of keys -/

namespace TableMetadata

theorem owner_of_mem_relationResolvers {resolver : GeneratedResolver}
    (member : (key, resolver) ∈ metadata.relationResolvers) :
    key.owner = Naming.typeName metadata.name := by
  have keyMember : key ∈ metadata.relationResolvers.map Prod.fst :=
    List.mem_map.mpr ⟨_, member, rfl⟩
  rw [map_fst_relationResolvers] at keyMember
  obtain ⟨name, _, keyEq⟩ := List.mem_map.mp keyMember
  rw [← keyEq]

theorem owner_of_mem_rootResolvers {resolver : GeneratedResolver}
    (member : (key, resolver) ∈ metadata.rootResolvers) :
    key.owner = Naming.query ∨ key.owner = Naming.mutation := by
  simp only [rootResolvers, List.mem_cons, Prod.mk.injEq, List.not_mem_nil,
    or_false] at member
  rcases member with ⟨rfl, _⟩ | ⟨rfl, _⟩ | ⟨rfl, _⟩
  · exact Or.inl rfl
  · exact Or.inl rfl
  · exact Or.inr rfl

/-- Root resolvers that share a key are of tables that share the stem. -/
theorem fieldStem_eq_of_mem_rootResolvers {other : TableMetadata}
    {resolver otherResolver : GeneratedResolver}
    (member : (key, resolver) ∈ metadata.rootResolvers)
    (otherMember : (key, otherResolver) ∈ other.rootResolvers) :
    Naming.fieldStem metadata.name = Naming.fieldStem other.name := by
  have queryNotMutation : Naming.query ≠ Naming.mutation := by decide
  simp only [rootResolvers, List.mem_cons, Prod.mk.injEq, List.not_mem_nil,
    or_false] at member otherMember
  rcases member with ⟨rfl, _⟩ | ⟨rfl, _⟩ | ⟨rfl, _⟩
  · rcases otherMember with ⟨same, _⟩ | ⟨same, _⟩ | ⟨same, _⟩
    · exact (String.append_left_inj _).mp (ResolverKey.mk.inj same).2
    · exact absurd (ResolverKey.mk.inj same).2
        (Naming.getPageField_ne_getFirstField _ _)
    · exact absurd (ResolverKey.mk.inj same).1 queryNotMutation
  · rcases otherMember with ⟨same, _⟩ | ⟨same, _⟩ | ⟨same, _⟩
    · exact absurd (ResolverKey.mk.inj same).2.symm
        (Naming.getPageField_ne_getFirstField _ _)
    · exact (String.append_left_inj _).mp (ResolverKey.mk.inj same).2
    · exact absurd (ResolverKey.mk.inj same).1 queryNotMutation
  · rcases otherMember with ⟨same, _⟩ | ⟨same, _⟩ | ⟨same, _⟩
    · exact absurd (ResolverKey.mk.inj same).1.symm queryNotMutation
    · exact absurd (ResolverKey.mk.inj same).1.symm queryNotMutation
    · exact (String.append_left_inj _).mp (ResolverKey.mk.inj same).2

end TableMetadata

end OneTable

/-! ## Last writes -/

section AllTables

variable {catalog : Catalog} {tables : List TableMetadata}
  {metadata : TableMetadata} {key : ResolverKey} {field : FieldDefinition}

/-- Metadata of tables that are told apart by their names. -/
structure TableMetadata.Distinct (tables : List TableMetadata) : Prop where
  names : Naming.Distinct (tables.map (·.name))
  eq_of_name_eq : ∀ metadata ∈ tables, ∀ other ∈ tables,
    metadata.name = other.name → metadata = other

/-- Tables that are told about under their own names are told apart by them. -/
theorem TableMetadata.Distinct.of_metadataOf {names : List String}
    (named : ∀ table ∈ names, ∀ metadata,
      catalog.tableMetadata table = .ok metadata → metadata.name = table)
    (distinct : Naming.Distinct names)
    (found : catalog.metadataOf names = .ok tables) :
    TableMetadata.Distinct tables := by
  refine ⟨?names, ?eq_of_name_eq⟩
  case names => rwa [Catalog.map_name_of_metadataOf named found]
  case eq_of_name_eq =>
    intro metadata member other otherMember same
    rw [Catalog.mem_iff_of_metadataOf named found] at member otherMember
    have metadataFound := member.2
    rw [same, otherMember.2] at metadataFound
    exact (Except.ok.inj metadataFound).symm

namespace TableMetadata.Distinct

variable (distinct : TableMetadata.Distinct tables)

include distinct

theorem eq_of_typeName_eq {other : TableMetadata}
    (member : metadata ∈ tables) (otherMember : other ∈ tables)
    (same : Naming.typeName metadata.name = Naming.typeName other.name) :
    metadata = other :=
  distinct.eq_of_name_eq _ member _ otherMember <|
    distinct.names.typeName_inj _ (List.mem_map_of_mem member) _
      (List.mem_map_of_mem otherMember) same

theorem eq_of_mem_rootResolvers {other : TableMetadata}
    {resolver otherResolver : GeneratedResolver}
    (member : metadata ∈ tables) (otherMember : other ∈ tables)
    (listed : (key, resolver) ∈ metadata.rootResolvers)
    (otherListed : (key, otherResolver) ∈ other.rootResolvers) :
    metadata = other :=
  distinct.eq_of_name_eq _ member _ otherMember <|
    distinct.names.fieldStem_inj _ (List.mem_map_of_mem member) _
      (List.mem_map_of_mem otherMember)
      (TableMetadata.fieldStem_eq_of_mem_rootResolvers listed otherListed)

theorem not_rootOwner (member : metadata ∈ tables)
    (owned : key.owner = Naming.typeName metadata.name) :
    ¬(key.owner = Naming.query ∨ key.owner = Naming.mutation) := by
  have named : metadata.name ∈ tables.map (·.name) :=
    List.mem_map_of_mem member
  rintro (isQuery | isMutation)
  · exact distinct.names.typeName_ne_query _ named (owned ▸ isQuery)
  · exact distinct.names.typeName_ne_mutation _ named (owned ▸ isMutation)

/-! ### Keys of object types -/

theorem lastWrite_registrations_of_type (member : metadata ∈ tables)
    (owned : key.owner = Naming.typeName metadata.name) :
    lastWrite key (Registry.registrations tables) =
      lastWrite key metadata.relationResolvers := by
  have notRoot : ∀ (other : TableMetadata) (resolver : GeneratedResolver),
      (key, resolver) ∉ other.rootResolvers := fun other resolver listed =>
    distinct.not_rootOwner member owned
      (TableMetadata.owner_of_mem_rootResolvers listed)
  unfold Registry.registrations
  rw [lastWrite_flatMap_of_unique member, TableMetadata.resolvers_eq,
    lastWrite_append, (lastWrite_eq_none_iff _ _).mpr (notRoot metadata),
    Option.or_none]
  intro other otherMember resolver listed
  rw [TableMetadata.resolvers_eq] at listed
  rcases List.mem_append.mp listed with inRoot | inRelations
  · exact absurd inRoot (notRoot other resolver)
  · apply distinct.eq_of_typeName_eq otherMember member
    rw [← owned, TableMetadata.owner_of_mem_relationResolvers inRelations]

theorem lastWrite_modelWrites_of_type (catalog : Catalog)
    (member : metadata ∈ tables)
    (owned : key.owner = Naming.typeName metadata.name) :
    lastWrite key (Compiler.modelWrites catalog tables) =
      lastWrite key (Compiler.typeWrites catalog metadata) := by
  have notRoot := distinct.not_rootOwner member owned
  have named : metadata.name ∈ tables.map (·.name) :=
    List.mem_map_of_mem member
  have noMutation :
      lastWrite key (tables.flatMap Compiler.mutationWrites) = none := by
    rw [lastWrite_eq_none_iff]
    intro item listed
    obtain ⟨other, _, inOther⟩ := List.mem_flatMap.mp listed
    exact notRoot (Or.inr (Compiler.owner_of_mem_mutationWrites inOther))
  have noQuery :
      lastWrite key (tables.flatMap Compiler.queryWrites) = none := by
    rw [lastWrite_eq_none_iff]
    intro item listed
    obtain ⟨other, _, inOther⟩ := List.mem_flatMap.mp listed
    exact notRoot (Or.inl (Compiler.owner_of_mem_queryWrites inOther))
  have noPage :
      lastWrite key (tables.flatMap Compiler.pageWrites) = none := by
    rw [lastWrite_eq_none_iff]
    intro item listed
    obtain ⟨other, otherMember, inOther⟩ := List.mem_flatMap.mp listed
    refine distinct.names.typeName_ne_page _ named _
      (List.mem_map_of_mem otherMember) ?_
    rw [← owned, Compiler.owner_of_mem_pageWrites inOther]
  unfold Compiler.modelWrites
  rw [lastWrite_append, lastWrite_append, lastWrite_append, noMutation,
    noQuery, noPage, Option.none_or, Option.none_or, Option.none_or,
    lastWrite_flatMap_of_unique member]
  intro other otherMember item inOther
  apply distinct.eq_of_typeName_eq otherMember member
  rw [← owned, Compiler.owner_of_mem_typeWrites inOther]

/-! ### Keys of root types -/

theorem lastWrite_registrations_of_root (member : metadata ∈ tables)
    {resolver : GeneratedResolver}
    (listed : (key, resolver) ∈ metadata.rootResolvers) :
    lastWrite key (Registry.registrations tables) =
      lastWrite key metadata.rootResolvers := by
  have rootOwner := TableMetadata.owner_of_mem_rootResolvers listed
  have notRelation : ∀ other ∈ tables, ∀ found : GeneratedResolver,
      (key, found) ∉ other.relationResolvers :=
    fun other otherMember found inRelations =>
      distinct.not_rootOwner otherMember
        (TableMetadata.owner_of_mem_relationResolvers inRelations) rootOwner
  unfold Registry.registrations
  rw [lastWrite_flatMap_of_unique member, TableMetadata.resolvers_eq,
    lastWrite_append,
    (lastWrite_eq_none_iff _ _).mpr (notRelation metadata member),
    Option.none_or]
  intro other otherMember found inOther
  rw [TableMetadata.resolvers_eq] at inOther
  rcases List.mem_append.mp inOther with inRoot | inRelations
  · exact distinct.eq_of_mem_rootResolvers otherMember member inRoot listed
  · exact absurd inRelations (notRelation other otherMember found)

theorem lastWrite_modelWrites_of_root (catalog : Catalog)
    (member : metadata ∈ tables) {resolver : GeneratedResolver}
    (listed : (key, resolver) ∈ metadata.rootResolvers) :
    lastWrite key (Compiler.modelWrites catalog tables) =
      lastWrite key (fieldWrites metadata.rootResolvers) := by
  have unique : ∀ other ∈ tables, ∀ item,
      (key, item) ∈ fieldWrites other.rootResolvers → other = metadata := by
    intro other otherMember item inOther
    obtain ⟨entry, entryMember, equality⟩ := List.mem_map.mp inOther
    obtain ⟨rfl, _⟩ := Prod.mk.inj equality
    exact distinct.eq_of_mem_rootResolvers otherMember member entryMember
      listed
  have queryEq : lastWrite key (tables.flatMap Compiler.queryWrites) =
      lastWrite key (Compiler.queryWrites metadata) := by
    refine lastWrite_flatMap_of_unique member ?_
    intro other otherMember item inOther
    exact unique other otherMember item (List.mem_append_left _ inOther)
  have mutationEq :
      lastWrite key (tables.flatMap Compiler.mutationWrites) =
        lastWrite key (Compiler.mutationWrites metadata) := by
    refine lastWrite_flatMap_of_unique member ?_
    intro other otherMember item inOther
    exact unique other otherMember item
      (List.mem_append_right (Compiler.queryWrites other) inOther)
  have present :
      (lastWrite key (fieldWrites metadata.rootResolvers)).isSome = true := by
    rw [isSome_lastWrite_iff]
    exact ⟨_, List.mem_map_of_mem listed⟩
  obtain ⟨field, written⟩ := Option.isSome_iff_exists.mp present
  unfold Compiler.modelWrites
  rw [lastWrite_append, lastWrite_append, queryEq, mutationEq,
    ← Option.or_assoc, ← lastWrite_append, Compiler.rootWrites_eq, written,
    Option.some_or]

end TableMetadata.Distinct

/-- The last field with parameters under a key belongs to the last resolver
under it. -/
theorem exists_last_resolver (distinct : TableMetadata.Distinct tables)
    (written : lastWrite key (Compiler.modelWrites catalog tables) = some field)
    (parametrized : field.params.entries ≠ []) :
    ∃ resolver,
      lastWrite key (Registry.registrations tables) = some resolver ∧
        field = resolver.definition key.field := by
  have rootCase : ∀ metadata ∈ tables,
      (key, field) ∈ fieldWrites metadata.rootResolvers →
      ∃ resolver,
        lastWrite key (Registry.registrations tables) = some resolver ∧
          field = resolver.definition key.field := by
    intro metadata member inRoot
    obtain ⟨entry, entryMember, equality⟩ := List.mem_map.mp inRoot
    obtain ⟨rfl, _⟩ := Prod.mk.inj equality
    rw [distinct.lastWrite_modelWrites_of_root catalog member entryMember,
      lastWrite_fieldWrites, Option.map_eq_some_iff] at written
    rw [distinct.lastWrite_registrations_of_root member entryMember]
    obtain ⟨resolver, last, fieldEq⟩ := written
    exact ⟨resolver, last, fieldEq.symm⟩
  have member := mem_of_lastWrite written
  unfold Compiler.modelWrites at member
  simp only [List.mem_append, List.mem_flatMap] at member
  rcases member with
    ((⟨metadata, tableMember, inType⟩ | ⟨metadata, _, inPage⟩) |
      ⟨metadata, tableMember, inQuery⟩) | ⟨metadata, tableMember, inMutation⟩
  · have owned := Compiler.owner_of_mem_typeWrites inType
    rw [distinct.lastWrite_modelWrites_of_type catalog tableMember owned,
      Compiler.typeWrites_eq, lastWrite_append, lastWrite_fieldWrites]
      at written
    rw [distinct.lastWrite_registrations_of_type tableMember owned]
    cases last : lastWrite key metadata.relationResolvers with
    | some resolver =>
        rw [last] at written
        exact ⟨resolver, rfl, (Option.some.inj written).symm⟩
    | none =>
        -- Only columns write the key, and they have no parameters.
        rw [last] at written
        obtain ⟨definition, definitionMember, equality⟩ :=
          List.mem_map.mp (mem_of_lastWrite written)
        obtain ⟨_, rfl⟩ := Prod.mk.inj equality
        obtain ⟨column, _, found⟩ := List.mem_filterMap.mp definitionMember
        exact absurd (Compiler.params_of_columnField? found) parametrized
  · exact absurd (Compiler.params_of_mem_pageWrites inPage) parametrized
  · exact rootCase metadata tableMember (List.mem_append_left _ inQuery)
  · exact rootCase metadata tableMember
      (List.mem_append_right (Compiler.queryWrites metadata) inMutation)

end AllTables

end TableGateway

import TableGateway.Proofs.Schema.Compiled

/-!
# Schemas refer to what they define

Fields have a type and parameters, and each of them names something. If the
foreign keys and the child tables of a catalog stay within its tables, every
name that a compiled schema refers to is a scalar type or is defined in the
schema, however the names of tables meet. The main statement is
`Catalog.LinksWithin.closed`.
-/

namespace TableGateway

/-! ## References -/

/-- The types that a field refers to. -/
def FieldDefinition.references (field : FieldDefinition) : List TypeRef :=
  field.type :: field.params.values

/-- The types that a write brings into a model. -/
def ModelWrite.references : ModelWrite → List TypeRef
  | field _ definition => definition.references
  | inputField _ _ reference => [reference]
  | type _ | input _ => []

namespace SchemaModel

/-- The types that the fields, the parameters and the input fields of a model
refer to. -/
def references (model : SchemaModel) : List TypeRef :=
  model.types.values.flatMap (·.values.flatMap (·.references)) ++
    model.inputs.values.flatMap (·.values)

theorem mem_references_iff (model : SchemaModel) (reference : TypeRef) :
    reference ∈ model.references ↔
      (∃ key field, model.fieldAt? key = some field ∧
        reference ∈ field.references) ∨
      ∃ place, model.inputFieldAt? place = some reference := by
  unfold references
  simp only [List.mem_append, List.mem_flatMap, OrderedMap.mem_values_iff]
  apply or_congr
  · constructor
    · rintro ⟨fields, ⟨owner, fieldsFound⟩, field, ⟨name, found⟩, member⟩
      refine ⟨⟨owner, name⟩, field, ?_, member⟩
      exact Option.bind_eq_some_iff.mpr ⟨fields, fieldsFound, found⟩
    · rintro ⟨⟨owner, name⟩, field, fieldFound, member⟩
      obtain ⟨fields, fieldsFound, found⟩ :=
        Option.bind_eq_some_iff.mp fieldFound
      exact ⟨fields, ⟨owner, fieldsFound⟩, field, ⟨name, found⟩, member⟩
  · constructor
    · rintro ⟨fields, ⟨input, fieldsFound⟩, name, found⟩
      refine ⟨⟨input, name⟩, ?_⟩
      exact Option.bind_eq_some_iff.mpr ⟨fields, fieldsFound, found⟩
    · rintro ⟨⟨input, name⟩, inputFieldFound⟩
      obtain ⟨fields, fieldsFound, found⟩ :=
        Option.bind_eq_some_iff.mp inputFieldFound
      exact ⟨fields, ⟨input, fieldsFound⟩, name, found⟩

/-- Whatever a model refers to after some writes comes from one of them, or it
referred to it before. -/
theorem mem_references_of_writeAll {model : SchemaModel}
    {writes : List ModelWrite} {reference : TypeRef}
    (member : reference ∈ (model.writeAll writes).references) :
    (∃ change ∈ writes, reference ∈ change.references) ∨
      reference ∈ model.references := by
  rw [mem_references_iff] at member
  rcases member with ⟨key, field, found, inField⟩ | ⟨place, found⟩
  · rw [fieldAt?_writeAll, Option.or_eq_some_iff] at found
    rcases found with written | ⟨_, old⟩
    · obtain ⟨change, changeMember, changeEq⟩ :=
        List.mem_filterMap.mp (mem_of_lastWrite written)
      refine Or.inl ⟨change, changeMember, ?_⟩
      cases change with
      | field typeName definition =>
          cases changeEq
          exact inField
      | type name => cases changeEq
      | input name => cases changeEq
      | inputField input name type => cases changeEq
    · exact Or.inr ((mem_references_iff _ _).mpr
        (Or.inl ⟨key, field, old, inField⟩))
  · rw [inputFieldAt?_writeAll, Option.or_eq_some_iff] at found
    rcases found with written | ⟨_, old⟩
    · obtain ⟨change, changeMember, changeEq⟩ :=
        List.mem_filterMap.mp (mem_of_lastWrite written)
      refine Or.inl ⟨change, changeMember, ?_⟩
      cases change with
      | inputField input name type =>
          cases changeEq
          exact List.mem_singleton_self _
      | type name => cases changeEq
      | field typeName definition => cases changeEq
      | input name => cases changeEq
    · exact Or.inr ((mem_references_iff _ _).mpr (Or.inr ⟨place, old⟩))

end SchemaModel

/-! ## What a name may stand for -/

/-- The scalar types that need no driver. -/
def builtinScalars : List String :=
  ["Int", "String", "Boolean"]

namespace SchemaModel

/-- What a name in the schema of a catalog may stand for: the type of one of the
columns, a scalar type that is always there, or a type of the model. -/
inductive Resolves (catalog : Catalog) (model : SchemaModel) :
    String → Prop where
  | scalar {table name : String} {metadata : TableMetadata}
      {column : Column} (listed : table ∈ catalog.tables)
      (found : catalog.tableMetadata table = .ok metadata)
      (member : column ∈ metadata.columns)
      (mapped : catalog.mapColumnType column = .ok name) :
      Resolves catalog model name
  | builtin {name : String} (known : name ∈ builtinScalars) :
      Resolves catalog model name
  | object {name : String} (defined : name ∈ model.types.keys) :
      Resolves catalog model name
  | input {name : String} (defined : name ∈ model.inputs.keys) :
      Resolves catalog model name

/-- A model all of whose references lead somewhere. -/
def Closed (catalog : Catalog) (model : SchemaModel) : Prop :=
  ∀ reference ∈ model.references,
    model.Resolves catalog reference.baseName

end SchemaModel

namespace Catalog

/-- A catalog whose tables are told by their own names, and whose relations
lead to its own tables. -/
structure LinksWithin (catalog : Catalog) : Prop where
  name_eq : ∀ table ∈ catalog.tables, ∀ metadata,
    catalog.tableMetadata table = .ok metadata → metadata.name = table
  foreign_known : ∀ table ∈ catalog.tables, ∀ metadata,
    catalog.tableMetadata table = .ok metadata →
      ∀ key ∈ metadata.foreignKeys, key.2.table ∈ catalog.tables
  reverse_known : ∀ table ∈ catalog.tables, ∀ metadata,
    catalog.tableMetadata table = .ok metadata →
      ∀ relation ∈ metadata.reverse, relation.childTable ∈ catalog.tables

end Catalog

/-! ## Tables and the types that stand for them -/

/-- A model with the types of some tables, and with the input type of a
condition. -/
structure SchemaModel.DefinesTables (model : SchemaModel)
    (names : List String) : Prop where
  types : ∀ table ∈ names, Naming.typeName table ∈ model.types.keys
  pages : ∀ table ∈ names, Naming.pageTypeName table ∈ model.types.keys
  inputs : ∀ table ∈ names, Naming.inputTypeName table ∈ model.inputs.keys
  condition : Naming.condition ∈ model.inputs.keys

namespace Catalog.LinksWithin

variable {catalog : Catalog} {tables : List TableMetadata}
  (within : catalog.LinksWithin)
  (found : catalog.allMetadata = .ok tables)

include within found

/-- The metadata of a catalog belong to its tables, each under its own name. -/
theorem tableMetadata_of_mem {metadata : TableMetadata}
    (member : metadata ∈ tables) :
    metadata.name ∈ catalog.tables ∧
      catalog.tableMetadata metadata.name = .ok metadata := by
  obtain ⟨table, listed, metadataFound⟩ :=
    exists_table_of_mem found member
  rw [within.name_eq table listed metadata metadataFound]
  exact ⟨listed, metadataFound⟩

theorem definesTables :
    (Compiler.fresh.mapAll catalog tables).model.DefinesTables
      catalog.tables := by
  have exists_mem : ∀ table ∈ catalog.tables,
      ∃ metadata ∈ tables, metadata.name = table := by
    intro table listed
    obtain ⟨metadata, member, metadataFound⟩ :=
      exists_metadata_of_mem found listed
    exact ⟨metadata, member, within.name_eq table listed _ metadataFound⟩
  refine ⟨?types, ?pages, ?inputs, ?condition⟩
  case types =>
    intro table listed
    obtain ⟨metadata, member, rfl⟩ := exists_mem table listed
    rw [Compiler.mem_types_mapAll_fresh]
    exact ⟨metadata, member, Or.inl rfl⟩
  case pages =>
    intro table listed
    obtain ⟨metadata, member, rfl⟩ := exists_mem table listed
    rw [Compiler.mem_types_mapAll_fresh]
    exact ⟨metadata, member, Or.inr (Or.inl rfl)⟩
  case inputs =>
    intro table listed
    obtain ⟨metadata, member, rfl⟩ := exists_mem table listed
    rw [Compiler.mem_inputs_mapAll_fresh]
    exact Or.inr ⟨metadata, member, rfl⟩
  case condition =>
    rw [Compiler.mem_inputs_mapAll_fresh]
    exact Or.inl rfl

end Catalog.LinksWithin

/-! ## The passes -/

section Passes

variable {catalog : Catalog} {model : SchemaModel}

namespace SchemaModel

variable {metadata : TableMetadata}
  (listed : metadata.name ∈ catalog.tables)
  (found : catalog.tableMetadata metadata.name = .ok metadata)

include listed found

/-- A column whose type can be mapped leads to a scalar type. -/
theorem resolves_column {column : Column} (member : column ∈ metadata.columns)
    {name : String} (mapped : catalog.mapColumnType column = .ok name) :
    model.Resolves catalog (TypeRef.named name).baseName :=
  .scalar listed found member mapped

theorem resolves_inputPass :
    ∀ change ∈ Compiler.inputPass catalog metadata,
      ∀ reference ∈ change.references,
        model.Resolves catalog reference.baseName := by
  intro change written reference member
  rcases Compiler.mem_inputPass_iff.mp written with
    rfl | ⟨column, columnMember, scalar, mapped, rfl⟩
  · cases member
  · rw [List.mem_singleton.mp member]
    exact resolves_column listed found columnMember mapped

end SchemaModel

namespace SchemaModel.DefinesTables

variable (defines : model.DefinesTables catalog.tables)

include defines

/-- A field that reads records takes parameters of types that are always
there. -/
theorem resolves_withQueryParams {name : String} {type : TypeRef}
    (leads : model.Resolves catalog type.baseName) :
    ∀ reference ∈
        (FieldDefinition.plain name type).withQueryParams.references,
      model.Resolves catalog reference.baseName := by
  have references :
      (FieldDefinition.plain name type).withQueryParams.references =
        [type, .string, .string, .named Naming.condition, .boolean,
          .boolean] := rfl
  have text : model.Resolves catalog TypeRef.string.baseName :=
    .builtin (by decide)
  have truth : model.Resolves catalog TypeRef.boolean.baseName :=
    .builtin (by decide)
  have condition :
      model.Resolves catalog (TypeRef.named Naming.condition).baseName :=
    .input defines.condition
  rw [references]
  simp only [List.forall_mem_cons]
  exact ⟨leads, text, text, condition, truth, truth, by simp⟩

section OneTable

variable {metadata : TableMetadata}
  (listed : metadata.name ∈ catalog.tables)

include listed

theorem resolves_typePass (within : catalog.LinksWithin)
    (found : catalog.tableMetadata metadata.name = .ok metadata) :
    ∀ change ∈ Compiler.typePass catalog metadata,
      ∀ reference ∈ change.references,
        model.Resolves catalog reference.baseName := by
  intro change written reference member
  rcases Compiler.mem_typePass_iff.mp written with
    rfl | ⟨definition, definitionMember, rfl⟩
  · cases member
  · unfold Compiler.typeDefinitions at definitionMember
    simp only [List.mem_append, List.mem_filterMap, List.mem_map]
      at definitionMember
    rcases definitionMember with
      (⟨column, columnMember, columnField⟩ | ⟨key, keyMember, rfl⟩) |
        ⟨relation, relationMember, rfl⟩
    · obtain ⟨scalar, mapped, rfl⟩ :=
        Compiler.columnField?_eq_some_iff.mp columnField
      rw [List.mem_singleton.mp member]
      exact resolves_column listed found columnMember mapped
    · refine defines.resolves_withQueryParams (.object ?_) reference member
      exact defines.types _
        (within.foreign_known _ listed _ found key keyMember)
    · refine defines.resolves_withQueryParams (.object ?_) reference member
      exact defines.pages _
        (within.reverse_known _ listed _ found relation relationMember)

theorem resolves_pagePass :
    ∀ change ∈ Compiler.pagePass metadata,
      ∀ reference ∈ change.references,
        model.Resolves catalog reference.baseName := by
  have total : model.Resolves catalog TypeRef.int.baseName :=
    .builtin (by decide)
  have items : model.Resolves catalog
      (TypeRef.list (.named (Naming.typeName metadata.name))).baseName :=
    .object (defines.types _ listed)
  intro change written reference member
  rcases List.mem_pair.mp written with rfl | rfl
  · rw [List.mem_singleton.mp member]
    exact total
  · rw [List.mem_singleton.mp member]
    exact items

theorem resolves_queryPass :
    ∀ change ∈ Compiler.queryPass metadata,
      ∀ reference ∈ change.references,
        model.Resolves catalog reference.baseName := by
  have page : model.Resolves catalog
      (TypeRef.named (Naming.pageTypeName metadata.name)).baseName :=
    .object (defines.pages _ listed)
  have record : model.Resolves catalog
      (TypeRef.named (Naming.typeName metadata.name)).baseName :=
    .object (defines.types _ listed)
  intro change written
  rcases List.mem_pair.mp written with rfl | rfl
  · exact defines.resolves_withQueryParams page
  · exact defines.resolves_withQueryParams record

theorem resolves_mutationPass :
    ∀ change ∈ Compiler.mutationPass metadata,
      ∀ reference ∈ change.references,
        model.Resolves catalog reference.baseName := by
  have references :
      (Compiler.putItemDefinition metadata.name).references =
        [.named (Naming.typeName metadata.name),
          .nonNull (.named (Naming.inputTypeName metadata.name)),
          .boolean] := rfl
  have result : model.Resolves catalog
      (TypeRef.named (Naming.typeName metadata.name)).baseName :=
    .object (defines.types _ listed)
  have record : model.Resolves catalog
      (TypeRef.nonNull
        (.named (Naming.inputTypeName metadata.name))).baseName :=
    .input (defines.inputs _ listed)
  have truth : model.Resolves catalog TypeRef.boolean.baseName :=
    .builtin (by decide)
  intro change written
  rw [List.mem_singleton.mp written, ModelWrite.references, references]
  simp only [List.forall_mem_cons]
  exact ⟨result, record, truth, by simp⟩

end OneTable

end SchemaModel.DefinesTables

end Passes

/-! ## Compiled schemas -/

/-- Whatever a compiled schema refers to is the type of a column, a scalar type
that is always there, or a type of the schema. -/
theorem Catalog.LinksWithin.closed {catalog : Catalog} {compiler : Compiler}
    (within : catalog.LinksWithin)
    (built : Compiler.fresh.build catalog = .ok compiler) :
    compiler.model.Closed catalog := by
  obtain ⟨tables, found, rfl⟩ := Compiler.exists_metadata_of_build built
  have defines := within.definesTables found
  intro reference member
  rw [Compiler.model_mapAll] at member
  rcases SchemaModel.mem_references_of_writeAll member with
    ⟨change, written, inChange⟩ | initial
  · unfold Compiler.allPasses at written
    simp only [List.mem_append, List.mem_flatMap] at written
    rcases written with
      (((⟨metadata, tableMember, inPass⟩ | ⟨metadata, tableMember, inPass⟩) |
        ⟨metadata, tableMember, inPass⟩) | ⟨metadata, tableMember, inPass⟩) |
        ⟨metadata, tableMember, inPass⟩
    all_goals
      obtain ⟨listed, metadataFound⟩ :=
        within.tableMetadata_of_mem found tableMember
    · exact defines.resolves_typePass listed within metadataFound _ inPass _
        inChange
    · exact defines.resolves_pagePass listed _ inPass _ inChange
    · exact defines.resolves_queryPass listed _ inPass _ inChange
    · exact SchemaModel.resolves_inputPass listed metadataFound _ inPass _
        inChange
    · exact defines.resolves_mutationPass listed _ inPass _ inChange
  · -- Before the first pass there is only the input type of a condition.
    have texts : ∀ reference ∈ Compiler.fresh.model.references,
        reference.baseName ∈ builtinScalars := by
      decide
    exact .builtin (texts reference initial)

/-- Two tables whose types have one name, a table that refers to itself, and a
column whose type cannot be mapped. -/
theorem Catalog.LinksWithin.closed_parts :
    let part : TableMetadata :=
      ⟨"part", [⟨"id", "int", none⟩, ⟨"whole", "int", some ⟨"part", "id"⟩⟩,
        ⟨"shape", "geometry", none⟩],
        [⟨"part", "whole", "id"⟩, ⟨"Part", "of", "id"⟩]⟩
    let twin : TableMetadata :=
      ⟨"Part", [⟨"of", "int", some ⟨"part", "id"⟩⟩], []⟩
    let catalog : Catalog :=
      ⟨["part", "Part"],
        fun table => .ok (if table = "part" then part else twin),
        fun column =>
          if column.nativeType = "int" then .ok "Int"
          else .error (.unsupportedType column.name column.nativeType)⟩
    catalog.LinksWithin ∧ ∃ compiler,
      Compiler.fresh.build catalog = .ok compiler ∧
        .named "PartPage" ∈ compiler.model.references ∧
        compiler.model.Closed catalog := by
  intro part twin catalog
  have metadata_cases : ∀ table ∈ catalog.tables, ∀ metadata,
      catalog.tableMetadata table = .ok metadata →
        table = "part" ∧ metadata = part ∨
          table = "Part" ∧ metadata = twin := by
    intro table listed metadata found
    rcases List.mem_pair.mp listed with rfl | rfl
    · exact Or.inl ⟨rfl, (Except.ok.inj found).symm⟩
    · exact Or.inr ⟨rfl, (Except.ok.inj found).symm⟩
  have within : catalog.LinksWithin := by
    refine ⟨?name, ?foreign, ?reverse⟩
    all_goals
      intro table listed metadata found
      rcases metadata_cases table listed metadata found with
        ⟨rfl, rfl⟩ | ⟨rfl, rfl⟩
      all_goals decide
  have built : Compiler.fresh.build catalog =
      .ok (Compiler.fresh.mapAll catalog [part, twin]) := rfl
  exact ⟨within, _, built, by decide +kernel, within.closed built⟩

end TableGateway

import Mathlib.Data.List.Dedup
import TableGateway.Proofs.Schema.FieldWrites

/-!
# The object type of a table

The fields of the object type are those that the pass over the table writes,
one for each name. So columns, foreign keys and child tables keep a field each
exactly when their names are pairwise distinct.
-/

namespace TableGateway

namespace OrderedMap

universe u

variable {value : Type u}

/-- A map has as many entries as there are different keys in the list that
fills it. -/
theorem size_ofList (entries : List (String × value)) :
    (ofList entries).size = (entries.map Prod.fst).dedup.length := by
  have sameKeys :
      (ofList entries).keys.Perm (entries.map Prod.fst).dedup := by
    rw [List.perm_ext_iff_of_nodup (nodup_keys _) (List.nodup_dedup _)]
    intro key
    rw [List.mem_dedup, ofList, mem_keys_insertAll, keys_empty]
    simp
  rw [← length_keys, sameKeys.length_eq]

theorem size_ofList_eq_length_iff (entries : List (String × value)) :
    (ofList entries).size = entries.length ↔
      (entries.map Prod.fst).Nodup := by
  rw [size_ofList, ← List.dedup_eq_self,
    ← List.length_map Prod.fst]
  constructor
  · exact (List.dedup_sublist _).eq_of_length
  · exact congrArg List.length

end OrderedMap

theorem SchemaModel.typeFields?_setFields (typeName : String)
    (definitions : List FieldDefinition) {model : SchemaModel}
    {fields : TypeFields}
    (found : model.typeFields? typeName = some fields) :
    (model.setFields typeName definitions).typeFields? typeName =
      some (fields.insertAll
        (definitions.map fun field => (field.name, field))) := by
  induction definitions generalizing model fields with
  | nil => exact found
  | cons field rest inductionHypothesis =>
      apply inductionHypothesis
      have typesFound : model.types.get? typeName = some fields := found
      unfold typeFields? setField
      rw [OrderedMap.get?_insert_self, OrderedMap.getD, typesFound]
      rfl

namespace TableMetadata

/-- The names of the foreign keys and child tables of a table as fields. -/
def relationFieldNames (metadata : TableMetadata) : List String :=
  metadata.foreignKeys.map
      (fun key => Naming.foreignField key.1.name key.2.table) ++
    metadata.reverse.map
      (fun relation => Naming.reverseField relation.childTable)

/-- The names of the columns, foreign keys and child tables of a table as
fields. -/
def fieldNames (metadata : TableMetadata) : List String :=
  metadata.columnNames ++ metadata.relationFieldNames

end TableMetadata

namespace Compiler

/-- The object type of a table on its own has the fields written to it. -/
theorem typeFields?_mapType_fresh (catalog : Catalog)
    (metadata : TableMetadata) :
    (mapType catalog metadata fresh).model.typeFields?
        (Naming.typeName metadata.name) =
      some (.ofList ((typeDefinitions catalog metadata).map
        fun field => (field.name, field))) := by
  rw [model_mapType]
  apply SchemaModel.typeFields?_setFields
  unfold SchemaModel.typeFields? SchemaModel.ensureType OrderedMap.ensure
  rw [OrderedMap.get?_insert_self]
  rfl

theorem name_columnFields {catalog : Catalog} {columns : List Column}
    (mappable : ∀ column ∈ columns, ∃ scalar,
      catalog.mapColumnType column = .ok scalar) :
    (columns.filterMap (columnField? catalog)).map (·.name) =
      columns.map (·.name) := by
  induction columns with
  | nil => rfl
  | cons column rest inductionHypothesis =>
      rw [List.forall_mem_cons] at mappable
      obtain ⟨⟨scalar, mapped⟩, restMappable⟩ := mappable
      have written := columnField?_eq_some_iff.mpr ⟨scalar, mapped, rfl⟩
      rw [List.filterMap_cons_some written, List.map_cons, List.map_cons,
        inductionHypothesis restMappable]
      rfl

theorem name_typeDefinitions {catalog : Catalog} {metadata : TableMetadata}
    (mappable : ∀ column ∈ metadata.columns, ∃ scalar,
      catalog.mapColumnType column = .ok scalar) :
    (typeDefinitions catalog metadata).map (·.name) =
      metadata.fieldNames := by
  unfold typeDefinitions TableMetadata.fieldNames
    TableMetadata.relationFieldNames
  rw [List.map_append, List.map_append, name_columnFields mappable,
    List.map_map, List.map_map, List.append_assoc]
  rfl

/-- The object type of a table, compiled on its own, has one field for every
column, every foreign key and every child table. -/
def KeepsFields (catalog : Catalog) (metadata : TableMetadata) : Prop :=
  ∃ fields,
    (mapType catalog metadata fresh).model.typeFields?
        (Naming.typeName metadata.name) =
      some fields ∧
    fields.size =
      metadata.columns.length + metadata.foreignKeys.length +
        metadata.reverse.length

/-- Nothing is lost from the object type of a table exactly when no two of its
columns, foreign keys and child tables share a name. -/
theorem keepsFields_iff {catalog : Catalog} {metadata : TableMetadata}
    (mappable : ∀ column ∈ metadata.columns, ∃ scalar,
      catalog.mapColumnType column = .ok scalar) :
    KeepsFields catalog metadata ↔ metadata.fieldNames.Nodup := by
  have namesEq := name_typeDefinitions mappable
  have lengthEq : (typeDefinitions catalog metadata).length =
      metadata.columns.length + metadata.foreignKeys.length +
        metadata.reverse.length := by
    rw [← List.length_map (·.name), namesEq]
    unfold TableMetadata.fieldNames TableMetadata.columnNames
      TableMetadata.relationFieldNames
    simp only [List.length_append, List.length_map, Nat.add_assoc]
  have sizeIff :=
    OrderedMap.size_ofList_eq_length_iff
      ((typeDefinitions catalog metadata).map
        fun field => (field.name, field))
  rw [List.length_map, lengthEq, List.map_map] at sizeIff
  rw [← namesEq]
  refine Iff.trans ?_ sizeIff
  unfold KeepsFields
  rw [typeFields?_mapType_fresh]
  constructor
  · rintro ⟨fields, equality, sizeEq⟩
    cases equality
    exact sizeEq
  · intro sizeEq
    exact ⟨_, rfl, sizeEq⟩

end Compiler

end TableGateway

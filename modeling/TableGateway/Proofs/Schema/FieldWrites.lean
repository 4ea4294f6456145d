import TableGateway.Proofs.Schema.ModelWrites
import TableGateway.Schema.Compiler

/-!
# What the compiler writes

Every pass of the compiler makes writes to the model, and makes them in an
order that the metadata determine (`Compiler.model_mapAll`). `Compiler.Writes`
ties a pass to the fields that it writes. The main statement is
`Compiler.fieldAt?_mapAll_fresh`: after all passes over all tables a field is
the last one written under its key.
-/

namespace TableGateway

/-- Write several fields of an object type, one after the other. -/
def SchemaModel.setFields (model : SchemaModel) (typeName : String)
    (fields : List FieldDefinition) : SchemaModel :=
  fields.foldl (fun current field => current.setField typeName field) model

theorem SchemaModel.setFields_append (model : SchemaModel)
    (typeName : String) (first second : List FieldDefinition) :
    model.setFields typeName (first ++ second) =
      (model.setFields typeName first).setFields typeName second :=
  List.foldl_append

namespace Compiler

/-! ## Passes and their writes -/

/-- A pass of the compiler that writes the given fields, in order. -/
def Writes (pass : Compiler → Compiler)
    (writes : List (ResolverKey × FieldDefinition)) : Prop :=
  ∀ (compiler : Compiler) (key : ResolverKey),
    (pass compiler).model.fieldAt? key =
      (lastWrite key writes).or (compiler.model.fieldAt? key)

/-- A pass that writes to the model writes the fields among its writes. -/
theorem Writes.of_model {pass : Compiler → Compiler}
    {changes : List ModelWrite}
    (law : ∀ compiler,
      (pass compiler).model = compiler.model.writeAll changes) :
    Writes pass (changes.filterMap (·.fieldWrite?)) := by
  intro compiler key
  rw [law, SchemaModel.fieldAt?_writeAll]

/-! ## The writes of every pass -/

/-- The field of a column, if its type can be mapped. -/
def columnField? (catalog : Catalog) (column : Column) :
    Option FieldDefinition :=
  match catalog.mapColumnType column with
  | .ok scalar => some (.plain column.name (.named scalar))
  | .error _ => none

theorem columnField?_eq_some_iff {catalog : Catalog} {column : Column}
    {field : FieldDefinition} :
    columnField? catalog column = some field ↔
      ∃ scalar, catalog.mapColumnType column = .ok scalar ∧
        field = .plain column.name (.named scalar) := by
  unfold columnField?
  cases catalog.mapColumnType column with
  | error reason => simp
  | ok scalar => simp [eq_comm]

/-- The field of a column takes no parameters. -/
theorem params_of_columnField? {catalog : Catalog} {column : Column}
    {field : FieldDefinition}
    (found : columnField? catalog column = some field) :
    field.params.entries = [] := by
  obtain ⟨scalar, _, rfl⟩ := columnField?_eq_some_iff.mp found
  rfl

/-- The fields of the object type of a table, in the order of writing. -/
def typeDefinitions (catalog : Catalog) (metadata : TableMetadata) :
    List FieldDefinition :=
  metadata.columns.filterMap (columnField? catalog) ++
    metadata.foreignKeys.map foreignFieldOf ++
      metadata.reverse.map reverseFieldOf

/-- The writes to the object type of a table. -/
def typeWrites (catalog : Catalog) (metadata : TableMetadata) :
    List (ResolverKey × FieldDefinition) :=
  (typeDefinitions catalog metadata).map
    (fieldWrite (Naming.typeName metadata.name))

theorem fieldWrite_mem_typeWrites {catalog : Catalog}
    {metadata : TableMetadata} {field : FieldDefinition}
    (member : field ∈ typeDefinitions catalog metadata) :
    fieldWrite (Naming.typeName metadata.name) field ∈
      typeWrites catalog metadata :=
  List.mem_map_of_mem member

/-- The writes to the page type of a table. -/
def pageWrites (metadata : TableMetadata) :
    List (ResolverKey × FieldDefinition) :=
  [.plain "total" .int,
    .plain "items" (.list (.named (Naming.typeName metadata.name)))].map
      (fieldWrite (Naming.pageTypeName metadata.name))

/-- Neither field of a page type takes parameters. -/
theorem params_of_mem_pageWrites {metadata : TableMetadata}
    {key : ResolverKey} {field : FieldDefinition}
    (member : (key, field) ∈ pageWrites metadata) :
    field.params.entries = [] := by
  obtain ⟨definition, definitionMember, equality⟩ := List.mem_map.mp member
  rw [← (Prod.mk.inj equality).2]
  simp only [List.mem_cons, List.not_mem_nil, or_false] at definitionMember
  rcases definitionMember with rfl | rfl
  · rfl
  · rfl

/-- The writes of a table to the root type of queries. -/
def queryWrites (metadata : TableMetadata) :
    List (ResolverKey × FieldDefinition) :=
  [getPageDefinition metadata.name, getFirstDefinition metadata.name].map
    (fieldWrite Naming.query)

/-- The write of a table to the root type of mutations. -/
def mutationWrites (metadata : TableMetadata) :
    List (ResolverKey × FieldDefinition) :=
  [fieldWrite Naming.mutation (putItemDefinition metadata.name)]

/-- All writes to object types: first those to the object types of all tables,
then those to all page types, and so on. -/
def modelWrites (catalog : Catalog) (tables : List TableMetadata) :
    List (ResolverKey × FieldDefinition) :=
  tables.flatMap (typeWrites catalog) ++ tables.flatMap pageWrites ++
    tables.flatMap queryWrites ++ tables.flatMap mutationWrites

/-! ### Owners of the written fields -/

section Owners

variable {catalog : Catalog} {metadata : TableMetadata} {key : ResolverKey}
  {field : FieldDefinition}

theorem owner_of_mem_typeWrites
    (member : (key, field) ∈ typeWrites catalog metadata) :
    key.owner = Naming.typeName metadata.name := by
  obtain ⟨definition, _, equality⟩ := List.mem_map.mp member
  rw [← (Prod.mk.inj equality).1]

theorem owner_of_mem_pageWrites
    (member : (key, field) ∈ pageWrites metadata) :
    key.owner = Naming.pageTypeName metadata.name := by
  obtain ⟨definition, _, equality⟩ := List.mem_map.mp member
  rw [← (Prod.mk.inj equality).1]

theorem owner_of_mem_queryWrites
    (member : (key, field) ∈ queryWrites metadata) :
    key.owner = Naming.query := by
  obtain ⟨definition, _, equality⟩ := List.mem_map.mp member
  rw [← (Prod.mk.inj equality).1]

theorem owner_of_mem_mutationWrites
    (member : (key, field) ∈ mutationWrites metadata) :
    key.owner = Naming.mutation := by
  rw [(Prod.mk.inj (List.mem_singleton.mp member)).1]

end Owners

/-! ### As writes to a model -/

def typePass (catalog : Catalog) (metadata : TableMetadata) :
    List ModelWrite :=
  .type (Naming.typeName metadata.name) ::
    (typeDefinitions catalog metadata).map
      (.field (Naming.typeName metadata.name))

/-- A write to the object type of a table: the type itself, or one of its
fields. -/
theorem mem_typePass_iff {catalog : Catalog} {metadata : TableMetadata}
    {change : ModelWrite} :
    change ∈ typePass catalog metadata ↔
      change = .type (Naming.typeName metadata.name) ∨
        ∃ definition ∈ typeDefinitions catalog metadata,
          change = .field (Naming.typeName metadata.name) definition := by
  unfold typePass
  simp only [List.mem_cons, List.mem_map, eq_comm (b := change)]

def pagePass (metadata : TableMetadata) : List ModelWrite :=
  [.plain "total" .int,
    .plain "items" (.list (.named (Naming.typeName metadata.name)))].map
      (.field (Naming.pageTypeName metadata.name))

def queryPass (metadata : TableMetadata) : List ModelWrite :=
  [getPageDefinition metadata.name, getFirstDefinition metadata.name].map
    (.field Naming.query)

/-- The input field of a column, if its type can be mapped. -/
def columnInput? (catalog : Catalog) (input : String) (column : Column) :
    Option ModelWrite :=
  match catalog.mapColumnType column with
  | .ok scalar => some (.inputField input column.name (.named scalar))
  | .error _ => none

theorem columnInput?_eq_some_iff {catalog : Catalog} {input : String}
    {column : Column} {change : ModelWrite} :
    columnInput? catalog input column = some change ↔
      ∃ scalar, catalog.mapColumnType column = .ok scalar ∧
        change = .inputField input column.name (.named scalar) := by
  unfold columnInput?
  cases catalog.mapColumnType column with
  | error reason => simp
  | ok scalar => simp [eq_comm]

def inputPass (catalog : Catalog) (metadata : TableMetadata) :
    List ModelWrite :=
  .input (Naming.inputTypeName metadata.name) ::
    metadata.columns.filterMap
      (columnInput? catalog (Naming.inputTypeName metadata.name))

/-- A write to the input type of a table: the type itself, or the field of a
column whose type can be mapped. -/
theorem mem_inputPass_iff {catalog : Catalog} {metadata : TableMetadata}
    {change : ModelWrite} :
    change ∈ inputPass catalog metadata ↔
      change = .input (Naming.inputTypeName metadata.name) ∨
        ∃ column ∈ metadata.columns, ∃ scalar,
          catalog.mapColumnType column = .ok scalar ∧
            change = .inputField (Naming.inputTypeName metadata.name)
              column.name (.named scalar) := by
  unfold inputPass
  simp only [List.mem_cons, List.mem_filterMap, columnInput?_eq_some_iff]

def mutationPass (metadata : TableMetadata) : List ModelWrite :=
  [.field Naming.mutation (putItemDefinition metadata.name)]

/-- The writes of all passes over all tables. -/
def allPasses (catalog : Catalog) (tables : List TableMetadata) :
    List ModelWrite :=
  tables.flatMap (typePass catalog) ++ tables.flatMap pagePass ++
    tables.flatMap queryPass ++ tables.flatMap (inputPass catalog) ++
      tables.flatMap mutationPass

theorem fieldWrites_typePass (catalog : Catalog)
    (metadata : TableMetadata) :
    (typePass catalog metadata).filterMap (·.fieldWrite?) =
      typeWrites catalog metadata := by
  unfold typePass typeWrites
  rw [List.filterMap_cons_none rfl, List.filterMap_map,
    ← List.filterMap_eq_map]
  rfl

theorem fieldWrites_inputPass (catalog : Catalog)
    (metadata : TableMetadata) :
    (inputPass catalog metadata).filterMap (·.fieldWrite?) = [] := by
  rw [List.filterMap_eq_nil_iff]
  intro change member
  rcases mem_inputPass_iff.mp member with rfl | ⟨_, _, _, _, rfl⟩
  · rfl
  · rfl

theorem fieldWrites_allPasses (catalog : Catalog)
    (tables : List TableMetadata) :
    (allPasses catalog tables).filterMap (·.fieldWrite?) =
      modelWrites catalog tables := by
  have inputsNone :
      tables.flatMap
          (fun _ => ([] : List (ResolverKey × FieldDefinition))) =
        [] := by
    simp
  unfold allPasses modelWrites
  simp only [List.filterMap_append, List.filterMap_flatMap,
    fieldWrites_typePass, fieldWrites_inputPass]
  rw [inputsNone, List.append_nil]
  rfl

/-! ## The passes of the compiler -/

theorem model_foldl_addField {item : Type} (typeName : String)
    (field : item → FieldDefinition) (items : List item)
    (compiler : Compiler) :
    (items.foldl
        (fun current element => current.addField typeName (field element))
        compiler).model =
      compiler.model.setFields typeName (items.map field) := by
  induction items generalizing compiler with
  | nil => rfl
  | cons head tail inductionHypothesis => exact inductionHypothesis _

theorem model_foldl_mapTypeColumn (catalog : Catalog)
    (table target : String) (columns : List Column) (compiler : Compiler) :
    (columns.foldl (mapTypeColumn catalog table target) compiler).model =
      compiler.model.setFields target
        (columns.filterMap (columnField? catalog)) := by
  induction columns generalizing compiler with
  | nil => rfl
  | cons column rest inductionHypothesis =>
      refine (inductionHypothesis _).trans ?_
      unfold mapTypeColumn mapColumn
      cases mapped : catalog.mapColumnType column with
      | ok scalar =>
          have written :=
            columnField?_eq_some_iff.mpr ⟨scalar, mapped, rfl⟩
          rw [List.filterMap_cons_some written]
          rfl
      | error reason =>
          have left : columnField? catalog column = none := by
            rw [columnField?, mapped]
          rw [List.filterMap_cons_none left]

theorem model_foldl_mapInputColumn (catalog : Catalog)
    (table input : String) (columns : List Column) (compiler : Compiler) :
    (columns.foldl (mapInputColumn catalog table input) compiler).model =
      compiler.model.writeAll
        (columns.filterMap (columnInput? catalog input)) := by
  induction columns generalizing compiler with
  | nil => rfl
  | cons column rest inductionHypothesis =>
      refine (inductionHypothesis _).trans ?_
      unfold mapInputColumn mapColumn
      cases mapped : catalog.mapColumnType column with
      | ok scalar =>
          have written : columnInput? catalog input column = _ :=
            columnInput?_eq_some_iff.mpr ⟨scalar, mapped, rfl⟩
          rw [List.filterMap_cons_some written]
          rfl
      | error reason =>
          have left : columnInput? catalog input column = none := by
            rw [columnInput?, mapped]
          rw [List.filterMap_cons_none left]

/-- The object type of a table is made, and then its fields are written. -/
theorem model_mapType (catalog : Catalog) (metadata : TableMetadata)
    (compiler : Compiler) :
    (mapType catalog metadata compiler).model =
      (compiler.model.ensureType
        (Naming.typeName metadata.name)).setFields
          (Naming.typeName metadata.name)
          (typeDefinitions catalog metadata) := by
  unfold mapType typeDefinitions
  dsimp only
  rw [model_foldl_addField, model_foldl_addField,
    model_foldl_mapTypeColumn, ← SchemaModel.setFields_append,
    ← SchemaModel.setFields_append, List.append_assoc]

theorem model_mapType_eq_writeAll (catalog : Catalog)
    (metadata : TableMetadata) (compiler : Compiler) :
    (mapType catalog metadata compiler).model =
      compiler.model.writeAll (typePass catalog metadata) := by
  rw [model_mapType]
  unfold typePass SchemaModel.writeAll
  rw [List.foldl_cons, List.foldl_map]
  rfl

theorem model_mapInput (catalog : Catalog) (metadata : TableMetadata)
    (compiler : Compiler) :
    (mapInput catalog metadata compiler).model =
      compiler.model.writeAll (inputPass catalog metadata) :=
  model_foldl_mapInputColumn catalog _ _ metadata.columns _

/-- Over several tables a pass leaves alone what it leaves alone over each. -/
theorem overTables_unchanged {table Value : Type}
    (read : Compiler → Value) {pass : table → Compiler → Compiler}
    (unchanged : ∀ item compiler, read (pass item compiler) = read compiler)
    (tables : List table) (compiler : Compiler) :
    read (overTables pass tables compiler) = read compiler :=
  foldl_unchanged read (fun current item => unchanged item current)
    compiler tables

/-- Over several tables a pass writes what it writes over each of them. -/
theorem model_overTables {pass : TableMetadata → Compiler → Compiler}
    {changes : TableMetadata → List ModelWrite}
    (law : ∀ metadata compiler,
      (pass metadata compiler).model =
        compiler.model.writeAll (changes metadata))
    (tables : List TableMetadata) (compiler : Compiler) :
    (overTables pass tables compiler).model =
      compiler.model.writeAll (tables.flatMap changes) := by
  induction tables generalizing compiler with
  | nil => rfl
  | cons head tail inductionHypothesis =>
      refine (inductionHypothesis _).trans ?_
      rw [law, List.flatMap_cons, SchemaModel.writeAll_append]

/-- All passes over all tables, as writes to the model. -/
theorem model_mapAll (catalog : Catalog) (tables : List TableMetadata)
    (compiler : Compiler) :
    (compiler.mapAll catalog tables).model =
      compiler.model.writeAll (allPasses catalog tables) := by
  have pages (metadata : TableMetadata) (current : Compiler) :
      (mapPage metadata.name current).model =
        current.model.writeAll (pagePass metadata) := rfl
  have queries (metadata : TableMetadata) (current : Compiler) :
      (mapQuery metadata.name current).model =
        current.model.writeAll (queryPass metadata) := rfl
  have mutations (metadata : TableMetadata) (current : Compiler) :
      (mapMutation metadata.name current).model =
        current.model.writeAll (mutationPass metadata) := rfl
  unfold mapAll allPasses
  dsimp only
  rw [model_overTables mutations, model_overTables (model_mapInput catalog),
    model_overTables queries, model_overTables pages,
    model_overTables (model_mapType_eq_writeAll catalog)]
  simp only [SchemaModel.writeAll_append]

theorem writes_mapAll (catalog : Catalog) (tables : List TableMetadata) :
    Writes (mapAll catalog tables) (modelWrites catalog tables) := by
  rw [← fieldWrites_allPasses]
  exact Writes.of_model (model_mapAll catalog tables)

/-- After all passes a field is the last one written under its key. -/
theorem fieldAt?_mapAll_fresh (catalog : Catalog)
    (tables : List TableMetadata) (key : ResolverKey) :
    (fresh.mapAll catalog tables).model.fieldAt? key =
      lastWrite key (modelWrites catalog tables) := by
  rw [writes_mapAll]
  have freshNone : fresh.model.fieldAt? key = none := rfl
  rw [freshNone, Option.or_none]

end Compiler

end TableGateway

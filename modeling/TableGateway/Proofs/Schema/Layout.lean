import TableGateway.Proofs.Schema.BuildPaths
import TableGateway.Proofs.Schema.ObjectType
import TableGateway.Proofs.Schema.OwnDefinitions

/-!
# Where everything stands in a compiled schema

The types of a compiled schema stand in the order in which the passes mention
them, the fields of every type in the order in which they are written, and a
field that is written again keeps its place. Where the tables of a catalog are
told apart by their names, no two passes write to the same type of a table, and
`Compiler.build_laysOut` says what stands where.
-/

namespace TableGateway

/-! ## The layout of a model -/

namespace TableMetadata

/-- The columns of a table that have a place in the schema. -/
def mappableColumns (catalog : Catalog) (metadata : TableMetadata) :
    List Column :=
  metadata.columns.filter fun column =>
    (catalog.mapColumnType column).isOk

end TableMetadata

namespace Compiler

/-- The entries of the object type of a table: its columns, then its foreign
keys, then its child tables. -/
def typeEntries (catalog : Catalog) (metadata : TableMetadata) :
    List (String × FieldDefinition) :=
  (typeDefinitions catalog metadata).map fun field => (field.name, field)

/-- The entries of the input type of a table: its columns. -/
def inputEntries (catalog : Catalog) (metadata : TableMetadata) :
    List (String × TypeRef) :=
  (metadata.columns.filterMap (columnField? catalog)).map fun field =>
    (field.name, field.type)

def queryEntries (table : String) : List (String × FieldDefinition) :=
  [(Naming.getPageField table, getPageDefinition table),
    (Naming.getFirstField table, getFirstDefinition table)]

def mutationEntries (table : String) : List (String × FieldDefinition) :=
  [(Naming.putItemField table, putItemDefinition table)]

end Compiler

namespace SchemaModel

/-- The fields and the input fields of a table stand in the order of their first
mention, each with its last definition. -/
structure LaysOutTable (model : SchemaModel) (catalog : Catalog)
    (metadata : TableMetadata) : Prop where
  fieldNames : (model.fieldsOf (Naming.typeName metadata.name)).keys =
    ((metadata.mappableColumns catalog).map (·.name) ++
      metadata.relationFieldNames).eraseDups
  fields : ∀ name,
    (model.fieldsOf (Naming.typeName metadata.name)).get? name =
      lastWrite name (Compiler.typeEntries catalog metadata)
  inputNames : (model.inputFieldsOf
      (Naming.inputTypeName metadata.name)).keys =
    ((metadata.mappableColumns catalog).map (·.name)).eraseDups
  inputFields : ∀ name,
    (model.inputFieldsOf (Naming.inputTypeName metadata.name)).get? name =
      lastWrite name (Compiler.inputEntries catalog metadata)

/-- What stands where in the schema of some tables. A table that a catalog lists
again has its place already. -/
structure LaysOut (model : SchemaModel) (catalog : Catalog)
    (names : List String) : Prop where
  types : model.types.keys = Naming.objectTypes names
  inputs : model.inputs.keys = Naming.inputTypes names
  tables : ∀ table ∈ names, ∃ metadata,
    catalog.tableMetadata table = .ok metadata ∧ metadata.name = table ∧
      model.LaysOutTable catalog metadata
  queries : (model.fieldsOf Naming.query).entries =
    names.flatMap Compiler.queryEntries
  mutations : (model.fieldsOf Naming.mutation).entries =
    names.flatMap Compiler.mutationEntries

end SchemaModel

/-! ## Types in order -/

namespace CompilerPass

/-- The object types that a pass over some tables mentions. -/
def typeNames (names : List String) : CompilerPass → List String
  | type => names.map Naming.typeName
  | page => names.map Naming.pageTypeName
  | query => [Naming.query]
  | input => []
  | mutation => [Naming.mutation]

/-- The input types that a pass over some tables mentions. -/
def inputNames (names : List String) : CompilerPass → List String
  | input => names.map Naming.inputTypeName
  | type | page | query | mutation => []

theorem writes_ne_nil (catalog : Catalog) (metadata : TableMetadata)
    (pass : CompilerPass) : pass.writes catalog metadata ≠ [] := by
  cases pass with
  | type => exact List.cons_ne_nil _ _
  | page => exact List.cons_ne_nil _ _
  | query => exact List.cons_ne_nil _ _
  | input => exact List.cons_ne_nil _ _
  | mutation => exact List.cons_ne_nil _ _

theorem eraseDups_typeNames {names : List String} (known : names ≠ [])
    (pass : CompilerPass) :
    (names.filterMap (typeName? · pass)).eraseDups =
      (pass.typeNames names).eraseDups := by
  cases pass with
  | type => exact congrArg _ (congrFun List.filterMap_eq_map' names)
  | page => exact congrArg _ (congrFun List.filterMap_eq_map' names)
  | query => exact eraseDups_filterMap_of_same known fun _ _ => rfl
  | input => exact eraseDups_filterMap_of_same known fun _ _ => rfl
  | mutation => exact eraseDups_filterMap_of_same known fun _ _ => rfl

theorem eraseDups_inputNames {names : List String} (known : names ≠ [])
    (pass : CompilerPass) :
    (names.filterMap (inputName? · pass)).eraseDups =
      (pass.inputNames names).eraseDups := by
  cases pass with
  | type => exact eraseDups_filterMap_of_same known fun _ _ => rfl
  | page => exact eraseDups_filterMap_of_same known fun _ _ => rfl
  | query => exact eraseDups_filterMap_of_same known fun _ _ => rfl
  | input => exact congrArg _ (congrFun List.filterMap_eq_map' names)
  | mutation => exact eraseDups_filterMap_of_same known fun _ _ => rfl

/-- Only one pass writes to a root type. -/
theorem eq_of_root {table root : String} {pass only : CompilerPass}
    (isRoot : root ∈ [Naming.query, Naming.mutation])
    (notType : Naming.typeName table ≠ root)
    (onlyMentions : only.typeName? table = some root)
    (mentions : pass.typeName? table = some root) : pass = only := by
  have queryOrMutation {pass : CompilerPass}
      (mentions : pass.typeName? table = some root) :
      pass = query ∧ root = Naming.query ∨
        pass = mutation ∧ root = Naming.mutation := by
    cases pass with
    | type => exact absurd (Option.some.inj mentions) notType
    | page =>
        exact absurd (Option.some.inj mentions)
          (Naming.pageTypeName_ne_of_isRoot isRoot table)
    | query => exact Or.inl ⟨rfl, (Option.some.inj mentions).symm⟩
    | input => cases mentions
    | mutation => exact Or.inr ⟨rfl, (Option.some.inj mentions).symm⟩
  have rootsDiffer : Naming.query ≠ Naming.mutation := by decide
  rcases queryOrMutation mentions with ⟨isQuery, rfl⟩ | ⟨isMutation, rfl⟩
  · rcases queryOrMutation onlyMentions with ⟨onlyQuery, _⟩ | ⟨_, same⟩
    · exact isQuery.trans onlyQuery.symm
    · exact absurd same rootsDiffer
  · rcases queryOrMutation onlyMentions with ⟨_, same⟩ | ⟨onlyMutation, _⟩
    · exact absurd same.symm rootsDiffer
    · exact isMutation.trans onlyMutation.symm

end CompilerPass

namespace CompilerTask

/-- The types that are mentioned, pass by pass and table by table. A table that
comes again mentions nothing new. -/
theorem eraseDups_mentioned {catalog : Catalog}
    {name? : ModelWrite → Option String}
    {passName? : String → CompilerPass → Option String}
    (same : ∀ metadata pass, ∀ change ∈ CompilerPass.writes catalog metadata pass,
      name? change = passName? metadata.name pass)
    (tables : List TableMetadata) :
    ((Compiler.allPasses catalog tables).filterMap name?).eraseDups =
      (CompilerPass.all.flatMap fun pass =>
        (tables.map (·.name)).eraseDups.filterMap
          (passName? · pass)).eraseDups := by
  have once (task : CompilerTask) :
      ((task.writes catalog).filterMap name?).eraseDups =
        (passName? task.metadata.name task.pass).toList.eraseDups :=
    eraseDups_filterMap_of_same (task.pass.writes_ne_nil catalog task.metadata)
      (same task.metadata task.pass)
  have byPassEq :
      ((byPass tables).flatMap fun task =>
        (passName? task.metadata.name task.pass).toList) =
      CompilerPass.all.flatMap fun pass =>
        (tables.map (·.name)).flatMap fun name =>
          (passName? name pass).toList := by
    unfold byPass
    rw [List.flatMap_assoc]
    simp only [List.flatMap_map]
  rw [allPasses_eq_byPass, List.filterMap_flatMap,
    eraseDups_flatMap_congr fun task _ => once task, byPassEq]
  simp only [List.filterMap_eq_flatMap_toList]
  exact eraseDups_flatMap_congr fun pass _ =>
    (eraseDups_flatMap_eraseDups _ _).symm

end CompilerTask

namespace Compiler

variable {catalog : Catalog} {tables : List TableMetadata}

theorem types_mapAll_fresh
    (known : (tables.map (·.name)).eraseDups ≠ [])
    (nodup : (Naming.objectTypes (tables.map (·.name)).eraseDups).Nodup) :
    (fresh.mapAll catalog tables).model.types.keys =
      Naming.objectTypes (tables.map (·.name)).eraseDups := by
  have joined (names : List String) :
      CompilerPass.all.flatMap (CompilerPass.typeNames names) =
        Naming.objectTypes names := by
    unfold Naming.objectTypes CompilerPass.all
    simp [CompilerPass.typeNames]
  have started : fresh.model.types.keys = [] := rfl
  rw [model_mapAll, SchemaModel.types_writeAll,
    OrderedMap.keys_writeSections_eq_eraseDups, ModelWrite.owners_typeWrites,
    started, List.nil_append,
    CompilerTask.eraseDups_mentioned fun _ _ _ member =>
      (CompilerPass.names_of_mem_writes member).1,
    eraseDups_flatMap_congr fun pass _ =>
      CompilerPass.eraseDups_typeNames known pass,
    joined, eraseDups_of_nodup nodup]

theorem inputs_mapAll_fresh
    (known : (tables.map (·.name)).eraseDups ≠ [])
    (nodup : (Naming.inputTypes (tables.map (·.name)).eraseDups).Nodup) :
    (fresh.mapAll catalog tables).model.inputs.keys =
      Naming.inputTypes (tables.map (·.name)).eraseDups := by
  have joined (names : List String) :
      [Naming.condition] ++
          CompilerPass.all.flatMap (CompilerPass.inputNames names) =
        Naming.inputTypes names := by
    unfold Naming.inputTypes CompilerPass.all
    simp [CompilerPass.inputNames]
  have started : fresh.model.inputs.keys = [Naming.condition] := rfl
  have sameName (metadata : TableMetadata) (pass : CompilerPass) :
      ∀ change ∈ pass.writes catalog metadata,
        change.inputName? = pass.inputName? metadata.name :=
    fun _ member => (CompilerPass.names_of_mem_writes member).2
  have mentioned := CompilerTask.eraseDups_mentioned sameName tables
  rw [eraseDups_flatMap_congr fun pass _ =>
    CompilerPass.eraseDups_inputNames known pass] at mentioned
  rw [model_mapAll, SchemaModel.inputs_writeAll,
    OrderedMap.keys_writeSections_eq_eraseDups, ModelWrite.owners_inputWrites,
    started, eraseDups_append_congr rfl mentioned, joined,
    eraseDups_of_nodup nodup]

end Compiler

/-! ## Fields in order -/

namespace Compiler

section Entries

variable (catalog : Catalog) (metadata : TableMetadata)

theorem entriesOf_typePass :
    SectionWrite.entriesOf (Naming.typeName metadata.name)
        ((typePass catalog metadata).filterMap (·.typeWrite?)) =
      typeEntries catalog metadata := by
  rw [SectionWrite.entriesOf_of_owners]
  · unfold typePass typeEntries
    rw [List.filterMap_filterMap, List.filterMap_cons_none rfl,
      List.filterMap_map, ← List.filterMap_eq_map]
    rfl
  · intro change member
    obtain ⟨written, writtenMember, same⟩ := List.mem_filterMap.mp member
    rcases mem_typePass_iff.mp writtenMember with rfl | ⟨_, _, rfl⟩
    · obtain rfl := Option.some.inj same
      rfl
    · obtain rfl := Option.some.inj same
      rfl

theorem columnInput?_eq_map (input : String) (column : Column) :
    columnInput? catalog input column =
      (columnField? catalog column).map fun field =>
        .inputField input field.name field.type := by
  unfold columnInput? columnField?
  cases catalog.mapColumnType column with
  | error reason => rfl
  | ok scalar => rfl

theorem entriesOf_inputPass :
    SectionWrite.entriesOf (Naming.inputTypeName metadata.name)
        ((inputPass catalog metadata).filterMap (·.inputWrite?)) =
      inputEntries catalog metadata := by
  rw [SectionWrite.entriesOf_of_owners]
  · unfold inputPass inputEntries
    rw [List.filterMap_filterMap, List.filterMap_cons_none rfl,
      List.filterMap_filterMap, List.map_filterMap]
    refine List.filterMap_congr fun column _ => ?_
    rw [columnInput?_eq_map]
    cases columnField? catalog column with
    | none => rfl
    | some field => rfl
  · intro change member
    obtain ⟨written, writtenMember, same⟩ := List.mem_filterMap.mp member
    rcases mem_inputPass_iff.mp writtenMember with
      rfl | ⟨_, _, _, _, rfl⟩
    · obtain rfl := Option.some.inj same
      rfl
    · obtain rfl := Option.some.inj same
      rfl

/-- The fields of columns have the names of the columns that can be mapped. -/
theorem map_name_columnFields :
    (metadata.columns.filterMap (columnField? catalog)).map (·.name) =
      (metadata.mappableColumns catalog).map (·.name) := by
  unfold TableMetadata.mappableColumns
  induction metadata.columns with
  | nil => rfl
  | cons column rest inductionHypothesis =>
      cases mapped : catalog.mapColumnType column with
      | error reason =>
          have left : columnField? catalog column = none := by
            rw [columnField?, mapped]
          rw [List.filterMap_cons_none left, List.filter_cons_of_neg,
            inductionHypothesis]
          simp [mapped, Except.isOk, Except.toBool]
      | ok scalar =>
          have written := columnField?_eq_some_iff.mpr ⟨scalar, mapped, rfl⟩
          rw [List.filterMap_cons_some written, List.filter_cons_of_pos,
            List.map_cons, List.map_cons, inductionHypothesis]
          · rfl
          · simp [mapped, Except.isOk, Except.toBool]

theorem map_fst_typeEntries :
    (typeEntries catalog metadata).map Prod.fst =
      (metadata.mappableColumns catalog).map (·.name) ++
        metadata.relationFieldNames := by
  unfold typeEntries typeDefinitions TableMetadata.relationFieldNames
  rw [← map_name_columnFields]
  simp only [List.map_append, List.map_map, List.append_assoc]
  rfl

theorem map_fst_inputEntries :
    (inputEntries catalog metadata).map Prod.fst =
      (metadata.mappableColumns catalog).map (·.name) := by
  unfold inputEntries
  rw [← map_name_columnFields, List.map_map]
  rfl

end Entries

end Compiler

namespace TableMetadata.Distinct

variable {catalog : Catalog} {tables : List TableMetadata}
  {metadata : TableMetadata} (distinct : TableMetadata.Distinct tables)
  (member : metadata ∈ tables)

include distinct member

/-- Only the pass over the types writes to the object type of a table. -/
theorem fieldsOf_typeName :
    (Compiler.fresh.mapAll catalog tables).model.fieldsOf
        (Naming.typeName metadata.name) =
      OrderedMap.insertAll .empty (Compiler.typeEntries catalog metadata) := by
  have notRoot : Naming.typeName metadata.name ∉
      [Naming.query, Naming.mutation] := by
    intro isRoot
    have listed := List.mem_map_of_mem (f := (·.name)) member
    rcases List.mem_pair.mp isRoot with isQuery | isMutation
    · exact distinct.names.typeName_ne_query _ listed isQuery
    · exact distinct.names.typeName_ne_mutation _ listed isMutation
  have started : Compiler.fresh.model.fieldsOf
    (Naming.typeName metadata.name) = .empty := rfl
  have unique : ∀ task ∈ CompilerTask.byPass tables,
      Naming.typeName metadata.name ∈
          ((task.writes catalog).filterMap (·.typeWrite?)).map (·.owner) →
        task = ⟨metadata, .type⟩ := by
    intro task taskMember mentioned
    rw [ModelWrite.owners_typeWrites] at mentioned
    exact CompilerTask.eq_of_typeName? distinct
      ((CompilerTask.mem_byPass_iff tables task).mp taskMember) member
      notRoot (CompilerTask.typeName?_eq_of_mem mentioned) rfl
  have listed := (CompilerTask.mem_byPass_iff tables
    ⟨metadata, .type⟩).mpr member
  rw [Compiler.model_mapAll, SchemaModel.fieldsOf_writeAll, started,
    CompilerTask.allPasses_eq_byPass, List.filterMap_flatMap,
    SectionWrite.insertAll_entriesOf_flatMap listed unique]
  exact congrArg _ (Compiler.entriesOf_typePass catalog metadata)

/-- Only the pass over the input types writes to the input type of a table. -/
theorem inputFieldsOf_inputTypeName :
    (Compiler.fresh.mapAll catalog tables).model.inputFieldsOf
        (Naming.inputTypeName metadata.name) =
      OrderedMap.insertAll .empty
        (Compiler.inputEntries catalog metadata) := by
  have notCondition :
      Naming.inputTypeName metadata.name ∉ Compiler.fresh.model.inputs.keys := by
    intro known
    exact Naming.ne_of_lastLetter?
      (Naming.lastLetter?_inputTypeName metadata.name)
      Naming.lastLetter?_condition (by decide) (List.mem_singleton.mp known)
  have started : Compiler.fresh.model.inputFieldsOf
      (Naming.inputTypeName metadata.name) = .empty := by
    unfold SchemaModel.inputFieldsOf OrderedMap.getD
    rw [OrderedMap.get?_eq_none notCondition, Option.getD_none]
  have unique : ∀ task ∈ CompilerTask.byPass tables,
      Naming.inputTypeName metadata.name ∈
          ((task.writes catalog).filterMap (·.inputWrite?)).map (·.owner) →
        task = ⟨metadata, .input⟩ := by
    intro task taskMember mentioned
    rw [ModelWrite.owners_inputWrites] at mentioned
    exact CompilerTask.eq_of_inputName? distinct
      ((CompilerTask.mem_byPass_iff tables task).mp taskMember) member
      (CompilerTask.inputName?_eq_of_mem mentioned) rfl
  have listed := (CompilerTask.mem_byPass_iff tables
    ⟨metadata, .input⟩).mpr member
  rw [Compiler.model_mapAll, SchemaModel.inputFieldsOf_writeAll, started,
    CompilerTask.allPasses_eq_byPass, List.filterMap_flatMap,
    SectionWrite.insertAll_entriesOf_flatMap listed unique]
  exact congrArg _ (Compiler.entriesOf_inputPass catalog metadata)

theorem laysOutTable :
    (Compiler.fresh.mapAll catalog tables).model.LaysOutTable catalog
      metadata := by
  have filled := OrderedMap.filledBy_insertAll_empty
    (Compiler.typeEntries catalog metadata)
  have inputFilled := OrderedMap.filledBy_insertAll_empty
    (Compiler.inputEntries catalog metadata)
  refine ⟨?fieldNames, ?fields, ?inputNames, ?inputFields⟩
  case fieldNames =>
    rw [distinct.fieldsOf_typeName member, filled.keys,
      Compiler.map_fst_typeEntries]
  case fields =>
    rw [distinct.fieldsOf_typeName member]
    exact filled.values
  case inputNames =>
    rw [distinct.inputFieldsOf_inputTypeName member, inputFilled.keys,
      Compiler.map_fst_inputEntries]
  case inputFields =>
    rw [distinct.inputFieldsOf_inputTypeName member]
    exact inputFilled.values

end TableMetadata.Distinct

/-! ## Root fields in order -/

namespace CompilerTask

/-- A type that only one pass writes to has its fields from that pass. -/
theorem entriesOf_byPass {catalog : Catalog} {tables : List TableMetadata}
    {owner : String} {only : CompilerPass}
    (others : ∀ metadata ∈ tables, ∀ pass ≠ only,
      CompilerPass.typeName? metadata.name pass ≠ some owner) :
    SectionWrite.entriesOf owner
        ((Compiler.allPasses catalog tables).filterMap (·.typeWrite?)) =
      tables.flatMap fun metadata => SectionWrite.entriesOf owner
        ((only.writes catalog metadata).filterMap (·.typeWrite?)) := by
  have nothing : ∀ pass ≠ only,
      (tables.flatMap fun metadata => SectionWrite.entriesOf owner
        ((pass.writes catalog metadata).filterMap (·.typeWrite?))) = [] := by
    intro pass isOther
    rw [List.flatMap_eq_nil_iff]
    intro metadata member
    by_contra nonempty
    have mentioned := SectionWrite.mem_owners_of_entriesOf_ne_nil nonempty
    rw [ModelWrite.owners_typeWrites] at mentioned
    have written : owner ∈
        (writes catalog ⟨metadata, pass⟩).filterMap (·.typeName?) := mentioned
    exact others metadata member pass isOther (typeName?_eq_of_mem written)
  rw [allPasses_eq_byPass, List.filterMap_flatMap,
    SectionWrite.entriesOf_flatMap]
  unfold byPass writes
  rw [List.flatMap_assoc]
  simp only [List.flatMap_map]
  cases only with
  | type => simp [CompilerPass.all, nothing]
  | page => simp [CompilerPass.all, nothing]
  | query => simp [CompilerPass.all, nothing]
  | input => simp [CompilerPass.all, nothing]
  | mutation => simp [CompilerPass.all, nothing]

/-- A root type has its fields from the one pass that writes to it, table by
table. -/
theorem fieldsOf_root (catalog : Catalog) {tables : List TableMetadata}
    {root : String} (only : CompilerPass)
    {entries : String → List (String × FieldDefinition)}
    (isRoot : root ∈ [Naming.query, Naming.mutation])
    (notType : ∀ table ∈ tables.map (·.name), Naming.typeName table ≠ root)
    (mentions : ∀ table, only.typeName? table = some root)
    (entriesEq : ∀ metadata, SectionWrite.entriesOf root
        ((only.writes catalog metadata).filterMap (·.typeWrite?)) =
      entries metadata.name) :
    (Compiler.fresh.mapAll catalog tables).model.fieldsOf root =
      OrderedMap.insertAll .empty
        ((tables.map (·.name)).flatMap entries) := by
  have others : ∀ metadata ∈ tables, ∀ pass ≠ only,
      CompilerPass.typeName? metadata.name pass ≠ some root := by
    intro metadata member pass isOther passMentions
    exact isOther (CompilerPass.eq_of_root isRoot
      (notType _ (List.mem_map_of_mem member)) (mentions _) passMentions)
  rw [Compiler.model_mapAll, SchemaModel.fieldsOf_writeAll,
    entriesOf_byPass others, List.flatMap_map]
  simp only [entriesEq]
  rfl

end CompilerTask

namespace Naming.Distinct

variable {order : List String} (distinct : Naming.Distinct order)

include distinct

theorem nodup_typeNames : (order.eraseDups.map typeName).Nodup := by
  rw [List.nodup_map_iff_inj_on (nodup_eraseDups order)]
  intro first firstMember second secondMember
  exact distinct.typeName_inj first (List.mem_eraseDups.mp firstMember)
    second (List.mem_eraseDups.mp secondMember)

theorem nodup_fieldStems : (order.eraseDups.map fieldStem).Nodup := by
  rw [List.nodup_map_iff_inj_on (nodup_eraseDups order)]
  intro first firstMember second secondMember
  exact distinct.fieldStem_inj first (List.mem_eraseDups.mp firstMember)
    second (List.mem_eraseDups.mp secondMember)

theorem nodup_objectTypes : (objectTypes order.eraseDups).Nodup := by
  rw [nodup_objectTypes_iff]
  refine ⟨distinct.nodup_typeNames, ?_, ?_⟩
  · intro first firstMember second secondMember
    exact distinct.typeName_ne_page first
      (List.mem_eraseDups.mp firstMember) second
      (List.mem_eraseDups.mp secondMember)
  · intro name member
    have listed := List.mem_eraseDups.mp member
    exact ⟨distinct.typeName_ne_query name listed,
      distinct.typeName_ne_mutation name listed⟩

theorem nodup_queryKeys :
    ((order.eraseDups.flatMap Compiler.queryEntries).map Prod.fst).Nodup := by
  have perm : (queryFields order.eraseDups).Perm
      ((order.eraseDups.flatMap Compiler.queryEntries).map Prod.fst) := by
    rw [queryFields, List.map_flatMap, List.map_eq_flatMap,
      List.map_eq_flatMap]
    exact List.flatMap_append_perm _ _ _
  exact perm.nodup (nodup_queryFields_iff.mpr distinct.nodup_fieldStems)

theorem nodup_mutationKeys :
    ((order.eraseDups.flatMap Compiler.mutationEntries).map
      Prod.fst).Nodup := by
  have keysEq : (order.eraseDups.flatMap Compiler.mutationEntries).map
      Prod.fst = mutationFields order.eraseDups := by
    rw [List.map_flatMap]
    exact List.flatMap_pure_eq_map _ _
  rw [keysEq]
  exact nodup_mutationFields_iff.mpr distinct.nodup_fieldStems

end Naming.Distinct

namespace TableMetadata.Distinct

variable {tables : List TableMetadata}
  (distinct : TableMetadata.Distinct tables) (catalog : Catalog)

include distinct

theorem fieldsOf_query :
    (Compiler.fresh.mapAll catalog tables).model.fieldsOf Naming.query =
      OrderedMap.insertAll .empty
        ((tables.map (·.name)).flatMap Compiler.queryEntries) :=
  CompilerTask.fieldsOf_root catalog .query (by decide)
    distinct.names.typeName_ne_query (fun _ => rfl) fun _ => rfl

theorem fieldsOf_mutation :
    (Compiler.fresh.mapAll catalog tables).model.fieldsOf Naming.mutation =
      OrderedMap.insertAll .empty
        ((tables.map (·.name)).flatMap Compiler.mutationEntries) :=
  CompilerTask.fieldsOf_root catalog .mutation (by decide)
    distinct.names.typeName_ne_mutation (fun _ => rfl) fun _ => rfl

end TableMetadata.Distinct

/-! ## The schema of a catalog -/

namespace Compiler

/-- A fresh compiler lays the schema of a catalog out table by table, in the
order of the catalog. -/
theorem build_laysOut {catalog : Catalog} (known : catalog.tables ≠ [])
    (told : ∀ table ∈ catalog.tables, ∃ metadata,
      catalog.tableMetadata table = .ok metadata ∧ metadata.name = table)
    (distinct : Naming.Distinct catalog.tables) :
    ∃ compiler, fresh.build catalog = .ok compiler ∧
      compiler.model.LaysOut catalog catalog.tables.eraseDups := by
  have named : ∀ table ∈ catalog.tables, ∀ metadata,
      catalog.tableMetadata table = .ok metadata →
        metadata.name = table := by
    intro table member metadata found
    obtain ⟨other, otherFound, otherNamed⟩ := told table member
    rw [found] at otherFound
    rw [Except.ok.inj otherFound, otherNamed]
  obtain ⟨tables, found⟩ := (Catalog.exists_metadataOf_iff _).mpr
    fun table member => (told table member).imp fun _ => And.left
  have namesEq := Catalog.map_name_of_metadataOf named found
  have tablesDistinct := TableMetadata.Distinct.of_metadataOf named distinct
    found
  have namesKnown : (tables.map (·.name)).eraseDups ≠ [] := by
    rw [namesEq]
    exact eraseDups_ne_nil known
  refine ⟨fresh.mapAll catalog tables, ?built,
    ⟨?types, ?inputs, ?tables, ?queries, ?mutations⟩⟩
  case built =>
    rw [build, Catalog.allMetadata, found]
    rfl
  case types =>
    rw [types_mapAll_fresh namesKnown, namesEq]
    rw [namesEq]
    exact distinct.nodup_objectTypes
  case inputs =>
    rw [inputs_mapAll_fresh namesKnown, namesEq]
    rw [namesEq, Naming.nodup_inputTypes_iff]
    exact distinct.nodup_typeNames
  case tables =>
    intro table member
    have inCatalog := List.mem_eraseDups.mp member
    obtain ⟨metadata, listed, metadataFound⟩ :=
      Catalog.exists_metadata_of_mem found inCatalog
    exact ⟨metadata, metadataFound, named table inCatalog _ metadataFound,
      tablesDistinct.laysOutTable listed⟩
  case queries =>
    refine OrderedMap.FilledBy.entries_eq_flatMap ?_ distinct.nodup_queryKeys
    rw [tablesDistinct.fieldsOf_query, namesEq]
    exact OrderedMap.filledBy_insertAll_empty _
  case mutations =>
    refine OrderedMap.FilledBy.entries_eq_flatMap ?_
      distinct.nodup_mutationKeys
    rw [tablesDistinct.fieldsOf_mutation, namesEq]
    exact OrderedMap.filledBy_insertAll_empty _

/-- Two tables, one of which refers to the other. One of its columns cannot be
mapped, and another one is named like the table that refers to it. -/
theorem build_laysOut_library :
    let author : TableMetadata :=
      ⟨"author", [⟨"id", "serial", none⟩, ⟨"book", "text", none⟩,
        ⟨"seal", "blob", none⟩], [⟨"book", "author_id", "id"⟩]⟩
    let book : TableMetadata :=
      ⟨"book", [⟨"id", "serial", none⟩,
        ⟨"author_id", "integer", some ⟨"author", "id"⟩⟩], []⟩
    let catalog : Catalog :=
      ⟨["book", "author"],
        fun name => .ok (if name = "author" then author else book),
        fun column =>
          if column.nativeType = "blob" then
            .error (.unsupportedType column.name column.nativeType)
          else .ok "Int"⟩
    (catalog.tables ≠ [] ∧
      (∀ table ∈ catalog.tables, ∃ metadata,
        catalog.tableMetadata table = .ok metadata ∧
          metadata.name = table) ∧
      Naming.Distinct catalog.tables) ∧
    ∃ compiler, fresh.build catalog = .ok compiler ∧
      compiler.model.LaysOut catalog catalog.tables.eraseDups := by
  intro author book catalog
  have known : catalog.tables ≠ [] := by decide
  have told : ∀ table ∈ catalog.tables, ∃ metadata,
      catalog.tableMetadata table = .ok metadata ∧
        metadata.name = table := by
    intro table member
    rcases List.mem_pair.mp member with rfl | rfl
    · exact ⟨book, rfl, rfl⟩
    · exact ⟨author, rfl, rfl⟩
  have distinct : Naming.Distinct catalog.tables := by decide +kernel
  exact ⟨⟨known, told, distinct⟩, build_laysOut known told distinct⟩

end Compiler

end TableGateway

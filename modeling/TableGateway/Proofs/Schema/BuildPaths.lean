import TableGateway.Proofs.Assembly.Counterpart
import TableGateway.Proofs.Schema.Work

/-!
# Two ways to compile a catalog

All tables can be compiled together, pass by pass, or one after the other, in
any order. Both do the same tasks (`CompilerTask.mem_byPass_iff`,
`CompilerTask.mem_byTable_iff`). Where the tables of a catalog are told apart by
their names, a type that is no root type is written for one table in one pass,
and a field of a root type is always written the same. So both ways lead to the
same model, up to the order in which tables are mentioned
(`Compiler.build_sameUpToOrder`).
-/

namespace TableGateway

/-! ## Passes over tables -/

/-- The passes of a compiler over a table. -/
inductive CompilerPass where
  | type
  | page
  | query
  | input
  | mutation

namespace CompilerPass

/-- All passes in their order. -/
def all : List CompilerPass :=
  [type, page, query, input, mutation]

theorem mem_all (pass : CompilerPass) : pass ∈ all := by
  unfold all
  cases pass <;> simp

/-- The writes of a pass over a table. -/
def writes (catalog : Catalog) (metadata : TableMetadata) :
    CompilerPass → List ModelWrite
  | type => Compiler.typePass catalog metadata
  | page => Compiler.pagePass metadata
  | query => Compiler.queryPass metadata
  | input => Compiler.inputPass catalog metadata
  | mutation => Compiler.mutationPass metadata

/-- The object type that a pass over a table writes to. -/
def typeName? (table : String) : CompilerPass → Option String
  | type => some (Naming.typeName table)
  | page => some (Naming.pageTypeName table)
  | query => some Naming.query
  | input => none
  | mutation => some Naming.mutation

/-- The input type that a pass over a table writes to. -/
def inputName? (table : String) : CompilerPass → Option String
  | input => some (Naming.inputTypeName table)
  | type | page | query | mutation => none

section Names

variable {table name : String} {pass : CompilerPass}

/-- Only two passes write to types that are no root types. -/
theorem type_or_page (notRoot : name ∉ [Naming.query, Naming.mutation])
    (mentions : pass.typeName? table = some name) :
    pass = type ∧ Naming.typeName table = name ∨
      pass = page ∧ Naming.pageTypeName table = name := by
  cases pass with
  | type => exact Or.inl ⟨rfl, Option.some.inj mentions⟩
  | page => exact Or.inr ⟨rfl, Option.some.inj mentions⟩
  | query =>
      exact absurd (List.mem_pair.mpr (Or.inl (Option.some.inj mentions).symm))
        notRoot
  | input => cases mentions
  | mutation =>
      exact absurd (List.mem_pair.mpr (Or.inr (Option.some.inj mentions).symm))
        notRoot

theorem eq_input (mentions : pass.inputName? table = some name) :
    pass = input ∧ Naming.inputTypeName table = name := by
  cases pass with
  | input => exact ⟨rfl, Option.some.inj mentions⟩
  | type => cases mentions
  | page => cases mentions
  | query => cases mentions
  | mutation => cases mentions

end Names

section Writes

variable {catalog : Catalog} {metadata : TableMetadata}
  {pass : CompilerPass} {change : ModelWrite}

/-- All writes of a pass are to the same type. -/
theorem names_of_mem_writes
    (member : change ∈ pass.writes catalog metadata) :
    change.typeName? = pass.typeName? metadata.name ∧
      change.inputName? = pass.inputName? metadata.name := by
  cases pass with
  | type =>
      rcases Compiler.mem_typePass_iff.mp member with rfl | ⟨_, _, rfl⟩
      · exact ⟨rfl, rfl⟩
      · exact ⟨rfl, rfl⟩
  | page =>
      obtain ⟨_, _, rfl⟩ := List.mem_map.mp member
      exact ⟨rfl, rfl⟩
  | query =>
      obtain ⟨_, _, rfl⟩ := List.mem_map.mp member
      exact ⟨rfl, rfl⟩
  | input =>
      rcases Compiler.mem_inputPass_iff.mp member with
        rfl | ⟨_, _, _, _, rfl⟩
      · exact ⟨rfl, rfl⟩
      · exact ⟨rfl, rfl⟩
  | mutation =>
      obtain rfl := List.mem_singleton.mp member
      exact ⟨rfl, rfl⟩

end Writes

end CompilerPass

/-- The root fields of a table have three keys. -/
theorem TableMetadata.nodup_rootKeys (metadata : TableMetadata) :
    (metadata.rootResolvers.map Prod.fst).Nodup := by
  have queryNotMutation : Naming.query ≠ Naming.mutation := by decide
  have pageNotFirst :=
    Naming.getPageField_ne_getFirstField metadata.name metadata.name
  simp [rootResolvers, queryNotMutation, pageNotFirst]

/-- A pass over one of several tables. -/
@[ext]
structure CompilerTask where
  metadata : TableMetadata
  pass : CompilerPass

namespace CompilerTask

def writes (catalog : Catalog) (task : CompilerTask) : List ModelWrite :=
  task.pass.writes catalog task.metadata

/-- Each pass over all tables, one pass after the other. -/
def byPass (tables : List TableMetadata) : List CompilerTask :=
  CompilerPass.all.flatMap fun pass => tables.map (⟨·, pass⟩)

/-- All passes over each table, one table after the other. -/
def byTable (tables : List TableMetadata) : List CompilerTask :=
  tables.flatMap fun metadata => CompilerPass.all.map (⟨metadata, ·⟩)

theorem mem_byPass_iff (tables : List TableMetadata) (task : CompilerTask) :
    task ∈ byPass tables ↔ task.metadata ∈ tables := by
  unfold byPass
  simp only [List.mem_flatMap, List.mem_map]
  constructor
  · rintro ⟨_, _, _, member, rfl⟩
    exact member
  · intro member
    exact ⟨task.pass, task.pass.mem_all, task.metadata, member, rfl⟩

theorem mem_byTable_iff (tables : List TableMetadata)
    (task : CompilerTask) :
    task ∈ byTable tables ↔ task.metadata ∈ tables := by
  unfold byTable
  simp only [List.mem_flatMap, List.mem_map]
  constructor
  · rintro ⟨_, member, _, _, rfl⟩
    exact member
  · intro member
    exact ⟨task.metadata, member, task.pass, task.pass.mem_all, rfl⟩

theorem allPasses_eq_byPass (catalog : Catalog)
    (tables : List TableMetadata) :
    Compiler.allPasses catalog tables =
      (byPass tables).flatMap (writes catalog) := by
  unfold Compiler.allPasses byPass CompilerPass.all
  simp only [List.flatMap_cons, List.flatMap_nil, List.flatMap_append,
    List.flatMap_map, List.append_nil, List.append_assoc]
  rfl

theorem onTable_eq_byTable (catalog : Catalog)
    (tables : List TableMetadata) :
    (tables.flatMap fun metadata =>
        (CompilerWork.onTable catalog metadata.name metadata).writes) =
      (byTable tables).flatMap (writes catalog) := by
  unfold byTable CompilerPass.all
  rw [List.flatMap_assoc]
  simp only [CompilerWork.onTable, CompilerWork.writes_append,
    List.flatMap_map, List.flatMap_cons, List.flatMap_nil, List.append_nil,
    List.append_assoc]
  rfl

/-! ## Writes of tasks -/

section OneTask

variable {catalog : Catalog} {task : CompilerTask} {name : String}

theorem typeName?_eq_of_mem
    (mentioned : name ∈
      (task.writes catalog).filterMap (·.typeName?)) :
    task.pass.typeName? task.metadata.name = some name := by
  obtain ⟨change, member, named⟩ := List.mem_filterMap.mp mentioned
  rw [← (CompilerPass.names_of_mem_writes member).1, named]

theorem inputName?_eq_of_mem
    (mentioned : name ∈
      (task.writes catalog).filterMap (·.inputName?)) :
    task.pass.inputName? task.metadata.name = some name := by
  obtain ⟨change, member, named⟩ := List.mem_filterMap.mp mentioned
  rw [← (CompilerPass.names_of_mem_writes member).2, named]

end OneTask

/-! ### Which task writes to a type -/

section Distinct

variable {catalog : Catalog} {tables : List TableMetadata}
  (distinct : TableMetadata.Distinct tables)
  {task other : CompilerTask}
  (member : task.metadata ∈ tables) (otherMember : other.metadata ∈ tables)

include distinct member otherMember

/-- A type that is no root type is written to by one task. -/
theorem eq_of_typeName? {typeName : String}
    (notRoot : typeName ∉ [Naming.query, Naming.mutation])
    (mentions : task.pass.typeName? task.metadata.name = some typeName)
    (otherMentions :
      other.pass.typeName? other.metadata.name = some typeName) :
    task = other := by
  rcases CompilerPass.type_or_page notRoot mentions with
    ⟨isType, named⟩ | ⟨isPage, named⟩
  · rcases CompilerPass.type_or_page notRoot otherMentions with
      ⟨otherType, otherNamed⟩ | ⟨_, otherNamed⟩
    · exact CompilerTask.ext
        (distinct.eq_of_typeName_eq member otherMember
          (named.trans otherNamed.symm))
        (isType.trans otherType.symm)
    · exact absurd (named.trans otherNamed.symm)
        (distinct.names.typeName_ne_page _ (List.mem_map_of_mem member) _
          (List.mem_map_of_mem otherMember))
  · rcases CompilerPass.type_or_page notRoot otherMentions with
      ⟨_, otherNamed⟩ | ⟨otherPage, otherNamed⟩
    · exact absurd (otherNamed.trans named.symm)
        (distinct.names.typeName_ne_page _ (List.mem_map_of_mem otherMember)
          _ (List.mem_map_of_mem member))
    · have sameType := (String.append_left_inj _).mp
        (named.trans otherNamed.symm)
      exact CompilerTask.ext
        (distinct.eq_of_typeName_eq member otherMember sameType)
        (isPage.trans otherPage.symm)

/-- An input type is written to by one task. -/
theorem eq_of_inputName? {input : String}
    (mentions : task.pass.inputName? task.metadata.name = some input)
    (otherMentions :
      other.pass.inputName? other.metadata.name = some input) :
    task = other := by
  obtain ⟨isInput, named⟩ := CompilerPass.eq_input mentions
  obtain ⟨otherInput, otherNamed⟩ := CompilerPass.eq_input otherMentions
  have sameType := (String.append_left_inj _).mp
    (named.trans otherNamed.symm)
  exact CompilerTask.ext
    (distinct.eq_of_typeName_eq member otherMember sameType)
    (isInput.trans otherInput.symm)

omit otherMember in
/-- What a task writes to a root type belongs to a root resolver of its table. -/
theorem exists_rootResolver {key : ResolverKey} {field : FieldDefinition}
    (isRoot : key.owner ∈ [Naming.query, Naming.mutation])
    (written : (key, field) ∈
      (task.writes catalog).filterMap (·.fieldWrite?)) :
    ∃ resolver, (key, resolver) ∈ task.metadata.rootResolvers ∧
      field = resolver.definition key.field := by
  have fromRoots : (key, field) ∈
      Compiler.queryWrites task.metadata ++
        Compiler.mutationWrites task.metadata := by
    obtain ⟨metadata, pass⟩ := task
    cases pass with
    | type =>
        rw [writes, CompilerPass.writes, Compiler.fieldWrites_typePass]
          at written
        exact absurd (List.mem_pair.mp isRoot) (distinct.not_rootOwner member
          (Compiler.owner_of_mem_typeWrites written))
    | page =>
        exact absurd (Compiler.owner_of_mem_pageWrites written).symm
          (Naming.pageTypeName_ne_of_isRoot isRoot metadata.name)
    | query => exact List.mem_append_left _ written
    | input =>
        rw [writes, CompilerPass.writes, Compiler.fieldWrites_inputPass]
          at written
        cases written
    | mutation => exact List.mem_append_right _ written
  rw [Compiler.rootWrites_eq] at fromRoots
  obtain ⟨⟨_, resolver⟩, listed, equality⟩ := List.mem_map.mp fromRoots
  obtain ⟨rfl, rfl⟩ := Prod.mk.inj equality
  exact ⟨resolver, listed, rfl⟩

/-- Tasks that write the same field of a root type write the same there. -/
theorem rootField_eq {key : ResolverKey} {field otherField : FieldDefinition}
    (isRoot : key.owner ∈ [Naming.query, Naming.mutation])
    (written : (key, field) ∈
      (task.writes catalog).filterMap (·.fieldWrite?))
    (otherWritten : (key, otherField) ∈
      (other.writes catalog).filterMap (·.fieldWrite?)) :
    field = otherField := by
  obtain ⟨resolver, listed, rfl⟩ :=
    exists_rootResolver distinct member isRoot written
  obtain ⟨otherResolver, otherListed, rfl⟩ :=
    exists_rootResolver distinct otherMember isRoot otherWritten
  rw [distinct.eq_of_mem_rootResolvers member otherMember listed otherListed]
    at listed
  have same : (key, resolver) = (key, otherResolver) :=
    List.inj_on_of_nodup_map other.metadata.nodup_rootKeys listed otherListed
      rfl
  rw [(Prod.mk.inj same).2]

end Distinct

end CompilerTask

/-! ## Models up to order -/

namespace SchemaModel

/-- Models with the same definitions. Types, input types and the fields of the
root types may stand in another order, and nothing else. -/
structure SameUpToOrder (first second : SchemaModel) : Prop where
  types : first.types.keys.Perm second.types.keys
  inputs : first.inputs.keys.Perm second.inputs.keys
  rootFields : ∀ root ∈ [Naming.query, Naming.mutation],
    (first.fieldsOf root).entries.Perm (second.fieldsOf root).entries
  typeFields : ∀ typeName ∉ [Naming.query, Naming.mutation],
    first.typeFields? typeName = second.typeFields? typeName
  inputFields : ∀ input,
    first.inputFields? input = second.inputFields? input

/-- The same tasks lead to the same model up to order, whatever their order and
however often each is done. -/
theorem sameUpToOrder_of_tasks {catalog : Catalog}
    {tables : List TableMetadata} (distinct : TableMetadata.Distinct tables)
    {first second : List CompilerTask}
    (firstMembers : ∀ task, task ∈ first ↔ task.metadata ∈ tables)
    (secondMembers : ∀ task, task ∈ second ↔ task.metadata ∈ tables)
    (model : SchemaModel) :
    (model.writeAll (first.flatMap (·.writes catalog))).SameUpToOrder
      (model.writeAll (second.flatMap (·.writes catalog))) := by
  have members : ∀ task, task ∈ first ↔ task ∈ second := fun task =>
    (firstMembers task).trans (secondMembers task).symm
  refine ⟨?types, ?inputs, ?rootFields, ?typeFields, ?inputFields⟩
  case types =>
    simp only [types_writeAll, List.filterMap_flatMap]
    exact OrderedMap.keys_writeSections_flatMap_perm members model.types
  case inputs =>
    simp only [inputs_writeAll, List.filterMap_flatMap]
    exact OrderedMap.keys_writeSections_flatMap_perm members model.inputs
  case rootFields =>
    intro root isRoot
    apply OrderedMap.entries_perm
    intro name
    rw [get?_fieldsOf, get?_fieldsOf, fieldAt?_writeAll, fieldAt?_writeAll,
      List.filterMap_flatMap, List.filterMap_flatMap]
    congr 1
    apply lastWrite_congr
    · intro field
      simp only [List.mem_flatMap, members]
    · intro field otherField written otherWritten
      obtain ⟨task, member, taskWrites⟩ := List.mem_flatMap.mp written
      obtain ⟨other, otherMember, otherWrites⟩ :=
        List.mem_flatMap.mp otherWritten
      exact CompilerTask.rootField_eq distinct ((firstMembers task).mp member)
        ((firstMembers other).mp otherMember) isRoot taskWrites otherWrites
  case typeFields =>
    intro typeName notRoot
    unfold typeFields?
    simp only [types_writeAll, List.filterMap_flatMap]
    apply OrderedMap.get?_writeSections_flatMap_congr members
    intro task member other otherMember mentioned otherMentioned
    rw [ModelWrite.owners_typeWrites] at mentioned otherMentioned
    exact CompilerTask.eq_of_typeName? distinct
      ((firstMembers task).mp member) ((firstMembers other).mp otherMember)
      notRoot (CompilerTask.typeName?_eq_of_mem mentioned)
      (CompilerTask.typeName?_eq_of_mem otherMentioned)
  case inputFields =>
    intro input
    unfold inputFields?
    simp only [inputs_writeAll, List.filterMap_flatMap]
    apply OrderedMap.get?_writeSections_flatMap_congr members
    intro task member other otherMember mentioned otherMentioned
    rw [ModelWrite.owners_inputWrites] at mentioned otherMentioned
    exact CompilerTask.eq_of_inputName? distinct
      ((firstMembers task).mp member) ((firstMembers other).mp otherMember)
      (CompilerTask.inputName?_eq_of_mem mentioned)
      (CompilerTask.inputName?_eq_of_mem otherMentioned)

end SchemaModel

/-! ## Compilers -/

namespace Compiler

variable {catalog : Catalog} {names : List String}
  {tables : List TableMetadata}

/-- Compiling tables one after the other carries out the work on each. -/
theorem foldlM_buildTable
    (named : ∀ table ∈ names, ∀ metadata,
      catalog.tableMetadata table = .ok metadata → metadata.name = table)
    (found : catalog.metadataOf names = .ok tables) (compiler : Compiler) :
    names.foldlM (fun current table => current.buildTable catalog table)
        compiler =
      .ok (tables.foldl
        (fun current metadata => current.carryOut catalog
          (.onTable catalog metadata.name metadata))
        compiler) := by
  rw [Catalog.metadataOf_eq_ok_iff] at found
  induction found generalizing compiler with
  | nil => rfl
  | @cons table metadata others rest tableFound _ inductionHypothesis =>
      obtain ⟨headNamed, tailNamed⟩ := List.forall_mem_cons.mp named
      have tableEq := headNamed metadata tableFound
      rw [List.foldlM_cons, buildTable_eq_map, tableFound, ← tableEq]
      exact inductionHypothesis tailNamed _

theorem model_foldl_carryOut (work : TableMetadata → CompilerWork)
    (compiler : Compiler) :
    (tables.foldl
        (fun current metadata => current.carryOut catalog (work metadata))
        compiler).model =
      compiler.model.writeAll
        (tables.flatMap fun metadata => (work metadata).writes) := by
  induction tables generalizing compiler with
  | nil => rfl
  | cons head tail inductionHypothesis =>
      rw [List.foldl_cons, inductionHypothesis, List.flatMap_cons,
        SchemaModel.writeAll_append]
      rfl

/-- A fresh compiler makes the same model of a catalog, up to order, whether it
compiles all tables together or one after the other, in any order. -/
theorem build_sameUpToOrder
    (told : ∀ table ∈ catalog.tables, ∃ metadata,
      catalog.tableMetadata table = .ok metadata ∧ metadata.name = table)
    (distinct : Naming.Distinct catalog.tables) {order : List String}
    (listed : ∀ table, table ∈ order ↔ table ∈ catalog.tables) :
    ∃ together inTurn,
      fresh.build catalog = .ok together ∧
      order.foldlM (fun current table => current.buildTable catalog table)
        fresh = .ok inTurn ∧
      together.model.SameUpToOrder inTurn.model := by
  have named : ∀ table ∈ catalog.tables, ∀ metadata,
      catalog.tableMetadata table = .ok metadata →
        metadata.name = table := by
    intro table member metadata found
    obtain ⟨other, otherFound, otherNamed⟩ := told table member
    rw [found] at otherFound
    rw [Except.ok.inj otherFound, otherNamed]
  have orderNamed : ∀ table ∈ order, ∀ metadata,
      catalog.tableMetadata table = .ok metadata → metadata.name = table :=
    fun table member => named table ((listed table).mp member)
  obtain ⟨tables, found⟩ := (Catalog.exists_metadataOf_iff _).mpr
    fun table member => (told table member).imp fun _ => And.left
  obtain ⟨ordered, orderFound⟩ := (Catalog.exists_metadataOf_iff order).mpr
    fun table member =>
      (told table ((listed table).mp member)).imp fun _ => And.left
  have members : ∀ metadata, metadata ∈ ordered ↔ metadata ∈ tables := by
    intro metadata
    rw [Catalog.mem_iff_of_metadataOf orderNamed orderFound,
      Catalog.mem_iff_of_metadataOf named found, listed]
  have built : fresh.build catalog =
      .ok (fresh.carryOut catalog (.onAll catalog tables)) := by
    rw [build_eq_map, Catalog.allMetadata, found]
    rfl
  refine ⟨_, _, built, foldlM_buildTable orderNamed orderFound fresh, ?_⟩
  rw [model_foldl_carryOut, CompilerTask.onTable_eq_byTable]
  change (fresh.model.writeAll (allPasses catalog tables)).SameUpToOrder _
  rw [CompilerTask.allPasses_eq_byPass]
  exact SchemaModel.sameUpToOrder_of_tasks
    (.of_metadataOf named distinct found)
    (CompilerTask.mem_byPass_iff tables)
    (fun task => (CompilerTask.mem_byTable_iff ordered task).trans
      (members task.metadata))
    fresh.model

/-- Two tables, of which the second refers to the first, compiled together and
in turn from the second to the first. -/
theorem build_sameUpToOrder_parcel :
    let table (name : String) : TableMetadata :=
      ⟨name, [⟨"id", "serial", none⟩, ⟨"note", "json", none⟩,
        ⟨"sender", "integer", some ⟨"customer", "id"⟩⟩], []⟩
    let catalog : Catalog :=
      ⟨["customer", "parcel"], fun name => .ok (table name), fun column =>
        if column.nativeType = "json" then
          .error (.unsupportedType column.name column.nativeType)
        else .ok "Int"⟩
    Naming.Distinct catalog.tables ∧
    ∃ together inTurn,
      fresh.build catalog = .ok together ∧
      ["parcel", "customer"].foldlM
        (fun current name => current.buildTable catalog name) fresh =
          .ok inTurn ∧
      together.model.SameUpToOrder inTurn.model := by
  intro table catalog
  have told : ∀ name ∈ catalog.tables, ∃ metadata,
      catalog.tableMetadata name = .ok metadata ∧ metadata.name = name :=
    fun name _ => ⟨table name, rfl, rfl⟩
  have distinct : Naming.Distinct catalog.tables := by decide +kernel
  have listed (name : String) :
      name ∈ ["parcel", "customer"] ↔ name ∈ catalog.tables := by
    simp [catalog, or_comm]
  exact ⟨distinct, build_sameUpToOrder told distinct listed⟩

end Compiler

end TableGateway

import Mathlib.Data.List.Perm.Lattice
import TableGateway.Proofs.Naming
import TableGateway.Proofs.Schema.Compiled

/-!
# Definitions of their own

A compiled schema has a place for the types and the root fields of every table.
Tables whose names are written in the same words, or one of which is named like
a page, an input or a root type, share such a place. `definesApart_iff` says
exactly which tables get definitions of their own.
-/

namespace TableGateway

/-! ## Names of definitions -/

namespace Naming

/-- The object types of some tables, the page types and the root types. -/
def objectTypes (names : List String) : List String :=
  names.map typeName ++ names.map pageTypeName ++ [query, mutation]

def inputTypes (names : List String) : List String :=
  condition :: names.map inputTypeName

def queryFields (names : List String) : List String :=
  names.map getPageField ++ names.map getFirstField

def mutationFields (names : List String) : List String :=
  names.map putItemField

/-- Tables whose types differ from the input types as well. -/
@[mk_iff]
structure Apart (names : List String) : Prop extends Distinct names where
  typeName_ne_condition : ∀ name ∈ names, typeName name ≠ condition
  typeName_ne_input : ∀ first ∈ names, ∀ second ∈ names,
    typeName first ≠ inputTypeName second

instance (names : List String) : Decidable (Apart names) :=
  decidable_of_iff' _ (apart_iff names)

section Nodup

variable {names : List String}

theorem nodup_objectTypes_iff :
    (objectTypes names).Nodup ↔
      (names.map typeName).Nodup ∧
      (∀ first ∈ names, ∀ second ∈ names,
        typeName first ≠ pageTypeName second) ∧
      ∀ name ∈ names, typeName name ≠ query ∧ typeName name ≠ mutation := by
  have rootsDiffer : [query, mutation].Nodup := by decide
  have pages : (names.map pageTypeName).Nodup ↔ (names.map typeName).Nodup :=
    nodup_map_append_iff names typeName "Page"
  unfold objectTypes
  rw [List.nodup_append, List.nodup_append, pages]
  constructor
  · rintro ⟨⟨types, _, typeNotPage⟩, _, notRoot⟩
    refine ⟨types, ?_, ?_⟩
    · intro first firstMember second secondMember
      exact typeNotPage _ (List.mem_map_of_mem firstMember) _
        (List.mem_map_of_mem secondMember)
    · intro name member
      have inFront : typeName name ∈
          names.map typeName ++ names.map pageTypeName :=
        List.mem_append_left _ (List.mem_map_of_mem member)
      exact ⟨notRoot _ inFront _ (by decide), notRoot _ inFront _ (by decide)⟩
  · rintro ⟨types, typeNotPage, typeNotRoot⟩
    refine ⟨⟨types, types, ?_⟩, rootsDiffer, ?_⟩
    · intro name member page pageMember
      obtain ⟨first, firstMember, rfl⟩ := List.mem_map.mp member
      obtain ⟨second, secondMember, rfl⟩ := List.mem_map.mp pageMember
      exact typeNotPage first firstMember second secondMember
    · intro name member root rootMember
      rcases List.mem_append.mp member with inTypes | inPages
      · obtain ⟨table, tableMember, rfl⟩ := List.mem_map.mp inTypes
        rcases List.mem_pair.mp rootMember with rfl | rfl
        · exact (typeNotRoot table tableMember).1
        · exact (typeNotRoot table tableMember).2
      · obtain ⟨table, _, rfl⟩ := List.mem_map.mp inPages
        exact pageTypeName_ne_of_isRoot rootMember table

theorem nodup_inputTypes_iff :
    (inputTypes names).Nodup ↔ (names.map typeName).Nodup := by
  have notCondition : condition ∉ names.map inputTypeName := by
    intro member
    obtain ⟨table, _, same⟩ := List.mem_map.mp member
    exact ne_of_lastLetter? (lastLetter?_inputTypeName table)
      lastLetter?_condition (by decide) same
  unfold inputTypes
  rw [List.nodup_cons, and_iff_right notCondition]
  exact nodup_map_append_iff names typeName "Input"

theorem nodup_queryFields_iff :
    (queryFields names).Nodup ↔ (names.map fieldStem).Nodup := by
  have different : ∀ first ∈ names.map getPageField,
      ∀ second ∈ names.map getFirstField, first ≠ second := by
    intro first firstMember second secondMember
    obtain ⟨table, _, rfl⟩ := List.mem_map.mp firstMember
    obtain ⟨other, _, rfl⟩ := List.mem_map.mp secondMember
    exact getPageField_ne_getFirstField table other
  have getPage : (names.map getPageField).Nodup ↔
      (names.map fieldStem).Nodup :=
    nodup_map_append_iff names fieldStem "GetPage"
  have getFirst : (names.map getFirstField).Nodup ↔
      (names.map fieldStem).Nodup :=
    nodup_map_append_iff names fieldStem "GetFirst"
  unfold queryFields
  rw [List.nodup_append, getPage, getFirst, and_iff_left different,
    and_self_iff]

theorem nodup_mutationFields_iff :
    (mutationFields names).Nodup ↔ (names.map fieldStem).Nodup :=
  nodup_map_append_iff names fieldStem "PutItem"

theorem not_mem_inputTypes_iff (name : String) :
    name ∉ inputTypes names ↔
      name ≠ condition ∧ ∀ table ∈ names, name ≠ inputTypeName table := by
  unfold inputTypes
  rw [List.mem_cons, List.mem_map, not_or, not_exists]
  simp only [not_and, ne_eq, eq_comm (b := name)]

theorem pageTypeName_not_mem_inputTypes (table : String) :
    pageTypeName table ∉ inputTypes names := by
  have last := lastLetter?_pageTypeName table
  rw [not_mem_inputTypes_iff]
  exact ⟨ne_of_lastLetter? last lastLetter?_condition (by decide),
    fun other _ =>
      ne_of_lastLetter? last (lastLetter?_inputTypeName other) (by decide)⟩

theorem not_mem_inputTypes_of_isRoot {root : String}
    (isRoot : root ∈ [query, mutation]) : root ∉ inputTypes names := by
  rw [not_mem_inputTypes_iff]
  rcases List.mem_pair.mp isRoot with rfl | rfl
  · exact ⟨by decide, fun table _ => ne_of_lastLetter? lastLetter?_query
      (lastLetter?_inputTypeName table) (by decide)⟩
  · exact ⟨by decide, fun table _ => ne_of_lastLetter? lastLetter?_mutation
      (lastLetter?_inputTypeName table) (by decide)⟩

/-- Only the object type of a table can have the name of an input type. -/
theorem objectTypes_disjoint_inputTypes_iff :
    (∀ name ∈ objectTypes names, name ∉ inputTypes names) ↔
      ∀ table ∈ names, typeName table ∉ inputTypes names := by
  unfold objectTypes
  simp only [List.mem_append]
  constructor
  · intro disjoint table member
    exact disjoint _ (Or.inl (Or.inl (List.mem_map_of_mem member)))
  · rintro typesApart name ((isType | isPage) | isRoot)
    · obtain ⟨table, member, rfl⟩ := List.mem_map.mp isType
      exact typesApart table member
    · obtain ⟨table, _, rfl⟩ := List.mem_map.mp isPage
      exact pageTypeName_not_mem_inputTypes table
    · exact not_mem_inputTypes_of_isRoot isRoot

end Nodup

end Naming

/-! ## Places in a model -/

/-- Keys that are known up to order are all different. -/
theorem OrderedMap.keys_perm_iff {value : Type} (map : OrderedMap value)
    {names : List String}
    (members : ∀ name, name ∈ map.keys ↔ name ∈ names) :
    map.keys.Perm names ↔ names.Nodup := by
  constructor
  · intro sameKeys
    exact sameKeys.nodup map.nodup_keys
  · intro nodup
    exact (List.perm_ext_iff_of_nodup map.nodup_keys nodup).mpr members

namespace SchemaModel

/-- A model in which some tables have definitions of their own: the names of its
types and root fields are those that the tables ask for, none of them twice, and
no name stands for two kinds of types. -/
structure DefinesApart (model : SchemaModel) (names : List String) :
    Prop where
  types : model.types.keys.Perm (Naming.objectTypes names)
  inputs : model.inputs.keys.Perm (Naming.inputTypes names)
  queries : ∃ fields, model.typeFields? Naming.query = some fields ∧
    fields.keys.Perm (Naming.queryFields names)
  mutations : ∃ fields, model.typeFields? Naming.mutation = some fields ∧
    fields.keys.Perm (Naming.mutationFields names)
  kinds : ∀ name ∈ model.types.keys, name ∉ model.inputs.keys

/-- The fields of a type that is there are known up to order exactly when they
are all different. -/
theorem exists_typeFields_perm_iff {model : SchemaModel} {owner : String}
    (defined : owner ∈ model.types.keys) {names : List String}
    (members : ∀ name,
      (model.fieldAt? ⟨owner, name⟩).isSome = true ↔ name ∈ names) :
    (∃ fields, model.typeFields? owner = some fields ∧
      fields.keys.Perm names) ↔ names.Nodup := by
  rw [← OrderedMap.contains_iff_mem_keys] at defined
  obtain ⟨fields, found⟩ := Option.isSome_iff_exists.mp defined
  have fieldsFound : model.typeFields? owner = some fields := found
  have keysEq : ∀ name, name ∈ fields.keys ↔ name ∈ names := by
    intro name
    rw [← members, ← OrderedMap.contains_iff_mem_keys, fieldAt?, field?,
      fieldsFound, Option.bind_some, OrderedMap.contains]
  rw [fieldsFound]
  simp only [Option.some.injEq, exists_eq_left']
  exact fields.keys_perm_iff keysEq

end SchemaModel

/-! ## Compiled schemas -/

namespace Compiler

section Members

variable {catalog : Catalog} {tables : List TableMetadata}

variable (catalog) in
theorem mem_objectTypes_iff (known : tables ≠ []) (name : String) :
    name ∈ (fresh.mapAll catalog tables).model.types.keys ↔
      name ∈ Naming.objectTypes (tables.map (·.name)) := by
  obtain ⟨first, firstMember⟩ := List.exists_mem_of_ne_nil tables known
  rw [mem_types_mapAll_fresh]
  unfold Naming.objectTypes
  simp only [List.map_map, List.mem_append, List.mem_map,
    Function.comp_apply, List.mem_pair]
  constructor
  · rintro ⟨metadata, member, own | page | root⟩
    · exact Or.inl (Or.inl ⟨metadata, member, own.symm⟩)
    · exact Or.inl (Or.inr ⟨metadata, member, page.symm⟩)
    · exact Or.inr root
  · rintro ((⟨metadata, member, own⟩ | ⟨metadata, member, page⟩) | root)
    · exact ⟨metadata, member, Or.inl own.symm⟩
    · exact ⟨metadata, member, Or.inr (Or.inl page.symm)⟩
    · exact ⟨first, firstMember, Or.inr (Or.inr root)⟩

variable (catalog tables) in
theorem mem_inputTypes_iff (name : String) :
    name ∈ (fresh.mapAll catalog tables).model.inputs.keys ↔
      name ∈ Naming.inputTypes (tables.map (·.name)) := by
  rw [mem_inputs_mapAll_fresh]
  unfold Naming.inputTypes
  simp only [List.map_map, List.mem_cons, List.mem_map, Function.comp_apply,
    eq_comm]

/-- A field of a root type that belongs to no table comes from the root fields
of one. -/
theorem exists_rootWrite_iff {owner : String}
    (isRoot : owner ∈ [Naming.query, Naming.mutation])
    (notType : ∀ metadata ∈ tables, Naming.typeName metadata.name ≠ owner)
    (name : String) :
    ((fresh.mapAll catalog tables).model.fieldAt? ⟨owner, name⟩).isSome =
        true ↔
      ∃ metadata ∈ tables, ∃ field,
        (⟨owner, name⟩, field) ∈
          queryWrites metadata ++ mutationWrites metadata := by
  have noType : ∀ field,
      (⟨owner, name⟩, field) ∉ tables.flatMap (typeWrites catalog) := by
    intro field member
    obtain ⟨metadata, tableMember, written⟩ := List.mem_flatMap.mp member
    exact notType metadata tableMember (owner_of_mem_typeWrites written).symm
  have noPage : ∀ field,
      (⟨owner, name⟩, field) ∉ tables.flatMap pageWrites := by
    intro field member
    obtain ⟨metadata, _, written⟩ := List.mem_flatMap.mp member
    exact Naming.pageTypeName_ne_of_isRoot isRoot metadata.name
      (owner_of_mem_pageWrites written).symm
  rw [fieldAt?_mapAll_fresh, isSome_lastWrite_iff]
  unfold modelWrites
  simp only [List.mem_append, noType, noPage, false_or, List.mem_flatMap,
    ← exists_or, ← and_or_left]
  constructor
  · rintro ⟨field, metadata, member, written⟩
    exact ⟨metadata, member, field, written⟩
  · rintro ⟨metadata, member, field, written⟩
    exact ⟨field, metadata, member, written⟩

theorem isSome_queryField_iff
    (notType : ∀ metadata ∈ tables,
      Naming.typeName metadata.name ≠ Naming.query) (name : String) :
    ((fresh.mapAll catalog tables).model.fieldAt?
        ⟨Naming.query, name⟩).isSome = true ↔
      name ∈ Naming.queryFields (tables.map (·.name)) := by
  have queryNotMutation : Naming.query ≠ Naming.mutation := by decide
  have written (metadata : TableMetadata) :
      (∃ field, (⟨Naming.query, name⟩, field) ∈
        queryWrites metadata ++ mutationWrites metadata) ↔
        name = Naming.getPageField metadata.name ∨
          name = Naming.getFirstField metadata.name := by
    have pageName : (getPageDefinition metadata.name).name =
      Naming.getPageField metadata.name := rfl
    have firstName : (getFirstDefinition metadata.name).name =
      Naming.getFirstField metadata.name := rfl
    simp [queryWrites, mutationWrites, fieldWrite, queryNotMutation,
      exists_or, pageName, firstName]
  rw [exists_rootWrite_iff (by decide) notType]
  simp only [written]
  unfold Naming.queryFields
  simp only [List.map_map, List.mem_append, List.mem_map,
    Function.comp_apply, and_or_left, exists_or, eq_comm (b := name)]

theorem isSome_mutationField_iff
    (notType : ∀ metadata ∈ tables,
      Naming.typeName metadata.name ≠ Naming.mutation) (name : String) :
    ((fresh.mapAll catalog tables).model.fieldAt?
        ⟨Naming.mutation, name⟩).isSome = true ↔
      name ∈ Naming.mutationFields (tables.map (·.name)) := by
  have mutationNotQuery : Naming.mutation ≠ Naming.query := by decide
  have written (metadata : TableMetadata) :
      (∃ field, (⟨Naming.mutation, name⟩, field) ∈
        queryWrites metadata ++ mutationWrites metadata) ↔
        name = Naming.putItemField metadata.name := by
    have putName : (putItemDefinition metadata.name).name =
      Naming.putItemField metadata.name := rfl
    simp [queryWrites, mutationWrites, fieldWrite, mutationNotQuery, putName]
  rw [exists_rootWrite_iff (by decide) notType]
  simp only [written]
  unfold Naming.mutationFields
  simp only [List.map_map, List.mem_map, Function.comp_apply,
    eq_comm (b := name)]

variable (catalog) in
/-- No name stands for an object type and for an input type exactly when the
object types of the tables keep away from the input types. -/
theorem typesDisjoint_iff (known : tables ≠ []) :
    (∀ name ∈ (fresh.mapAll catalog tables).model.types.keys,
      name ∉ (fresh.mapAll catalog tables).model.inputs.keys) ↔
      ∀ table ∈ tables.map (·.name),
        Naming.typeName table ∉ Naming.inputTypes (tables.map (·.name)) := by
  rw [← Naming.objectTypes_disjoint_inputTypes_iff]
  simp only [mem_objectTypes_iff catalog known,
    mem_inputTypes_iff catalog tables]

variable (catalog) in
theorem roots_defined (known : tables ≠ []) :
    Naming.query ∈ (fresh.mapAll catalog tables).model.types.keys ∧
      Naming.mutation ∈ (fresh.mapAll catalog tables).model.types.keys := by
  rw [mem_objectTypes_iff catalog known, mem_objectTypes_iff catalog known]
  exact ⟨List.mem_append_right _ (by decide),
    List.mem_append_right _ (by decide)⟩

end Members

end Compiler

/-! ## Tables that get definitions of their own -/

section Apart

variable {catalog : Catalog} {tables : List TableMetadata}

/-- Tables whose names do not meet get definitions of their own. -/
theorem Naming.Apart.definesApart
    (apart : Naming.Apart (tables.map (·.name))) (known : tables ≠ [])
    (distinct : (tables.map (·.name)).Nodup) :
    (Compiler.fresh.mapAll catalog tables).model.DefinesApart
      (tables.map (·.name)) := by
  obtain ⟨queryDefined, mutationDefined⟩ :=
    Compiler.roots_defined catalog known
  have typesDiffer : ((tables.map (·.name)).map typeName).Nodup :=
    (List.nodup_map_iff_inj_on distinct).mpr apart.typeName_inj
  have stemsDiffer : ((tables.map (·.name)).map fieldStem).Nodup :=
    (List.nodup_map_iff_inj_on distinct).mpr apart.fieldStem_inj
  refine ⟨?types, ?inputs, ?queries, ?mutations, ?kinds⟩
  case types =>
    rw [OrderedMap.keys_perm_iff _ (Compiler.mem_objectTypes_iff _ known),
      nodup_objectTypes_iff]
    exact ⟨typesDiffer, apart.typeName_ne_page, fun name member =>
      ⟨apart.typeName_ne_query name member,
        apart.typeName_ne_mutation name member⟩⟩
  case inputs =>
    rw [OrderedMap.keys_perm_iff _ (Compiler.mem_inputTypes_iff _ _),
      nodup_inputTypes_iff]
    exact typesDiffer
  case queries =>
    rw [SchemaModel.exists_typeFields_perm_iff queryDefined
      (Compiler.isSome_queryField_iff fun metadata member =>
        apart.typeName_ne_query _ (List.mem_map_of_mem member)),
      nodup_queryFields_iff]
    exact stemsDiffer
  case mutations =>
    rw [SchemaModel.exists_typeFields_perm_iff mutationDefined
      (Compiler.isSome_mutationField_iff fun metadata member =>
        apart.typeName_ne_mutation _ (List.mem_map_of_mem member)),
      nodup_mutationFields_iff]
    exact stemsDiffer
  case kinds =>
    rw [Compiler.typesDisjoint_iff catalog known]
    intro table member
    rw [not_mem_inputTypes_iff]
    exact ⟨apart.typeName_ne_condition table member,
      apart.typeName_ne_input table member⟩

/-- Tables that get definitions of their own have names that do not meet. -/
theorem SchemaModel.DefinesApart.apart (known : tables ≠ [])
    (distinct : (tables.map (·.name)).Nodup)
    (defines : (Compiler.fresh.mapAll catalog tables).model.DefinesApart
      (tables.map (·.name))) :
    Naming.Apart (tables.map (·.name)) := by
  obtain ⟨typesDiffer, notPage, notRoot⟩ :=
    Naming.nodup_objectTypes_iff.mp <|
      (OrderedMap.keys_perm_iff _
        (Compiler.mem_objectTypes_iff _ known)).mp defines.types
  have notInput := (Compiler.typesDisjoint_iff catalog known).mp defines.kinds
  simp only [Naming.not_mem_inputTypes_iff] at notInput
  have stemsDiffer : ((tables.map (·.name)).map Naming.fieldStem).Nodup := by
    rw [← Naming.nodup_queryFields_iff]
    exact (SchemaModel.exists_typeFields_perm_iff
      (Compiler.roots_defined catalog known).1
      (Compiler.isSome_queryField_iff fun metadata member =>
        (notRoot _ (List.mem_map_of_mem member)).1)).mp defines.queries
  exact {
    typeName_inj := (List.nodup_map_iff_inj_on distinct).mp typesDiffer
    fieldStem_inj := (List.nodup_map_iff_inj_on distinct).mp stemsDiffer
    typeName_ne_query := fun name member => (notRoot name member).1
    typeName_ne_mutation := fun name member => (notRoot name member).2
    typeName_ne_page := notPage
    typeName_ne_condition := fun name member => (notInput name member).1
    typeName_ne_input := fun name member => (notInput name member).2 }

/-- A compiled schema has definitions of its own for every table exactly when
the names of the tables do not meet. -/
theorem Catalog.definesApart_iff {compiler : Compiler}
    (found : catalog.allMetadata = .ok tables) (known : tables ≠ [])
    (distinct : (tables.map (·.name)).Nodup)
    (built : Compiler.fresh.build catalog = .ok compiler) :
    compiler.model.DefinesApart (tables.map (·.name)) ↔
      Naming.Apart (tables.map (·.name)) := by
  obtain ⟨sameTables, sameFound, rfl⟩ :=
    Compiler.exists_metadata_of_build built
  obtain rfl : sameTables = tables :=
    Except.ok.inj (sameFound.symm.trans found)
  exact ⟨fun defines => defines.apart known distinct,
    fun apart => apart.definesApart known distinct⟩

/-- Two tables that are written in the same words, and two that are not. -/
theorem Catalog.not_definesApart_userAccount :
    let table (name : String) : TableMetadata :=
      ⟨name, [⟨"id", "serial", none⟩], []⟩
    let catalog (names : List String) : Catalog :=
      ⟨names, fun name => .ok (table name), fun _ => .ok "Int"⟩
    (∃ compiler,
      Compiler.fresh.build (catalog ["user_account", "userAccount"]) =
        .ok compiler ∧
      ¬compiler.model.DefinesApart ["user_account", "userAccount"]) ∧
    ∃ compiler,
      Compiler.fresh.build (catalog ["user", "account"]) = .ok compiler ∧
      compiler.model.DefinesApart ["user", "account"] := by
  intro table catalog
  have sameWords : ¬Naming.Apart ["user_account", "userAccount"] := by
    decide +kernel
  have otherWords : Naming.Apart ["user", "account"] := by decide +kernel
  refine ⟨⟨_, rfl, ?_⟩, ⟨_, rfl, ?_⟩⟩
  · intro defines
    have iff := Catalog.definesApart_iff
      (rfl : (catalog ["user_account", "userAccount"]).allMetadata =
        .ok [table "user_account", table "userAccount"])
      (by decide) (by decide) rfl
    exact sameWords (iff.mp defines)
  · have iff := Catalog.definesApart_iff
      (rfl : (catalog ["user", "account"]).allMetadata =
        .ok [table "user", table "account"])
      (by decide) (by decide) rfl
    exact iff.mpr otherWords

end Apart

end TableGateway

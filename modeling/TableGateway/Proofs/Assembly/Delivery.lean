import TableGateway.Proofs.Assembly.Build
import TableGateway.Proofs.Assembly.Counterpart
import TableGateway.Proofs.Resolver.Returns

/-!
# Resolvers deliver what the schema declares

A field with parameters has the type of a table or of its pages, and resolving
it gives a row or a page of that table. This is so because the last write of the
field and the last resolver of its key come from the same relation. The main
statement is `Gateway.delivers`.
-/

namespace TableGateway

theorem GeneratedResolver.shows_of_run (resolver : GeneratedResolver)
    {invocation : Invocation} {nested : NestedResolve Store}
    {session after : Session Store} {value : Json}
    (returned :
      (resolver.handler invocation).run Store.driver nested session =
        (some (.ok value), after)) :
    after.database.Shows resolver.table resolver.isPaged value := by
  cases resolver with
  | getPage table =>
      obtain ⟨parsed, fetched⟩ := Program.exists_parsed_of_value returned
      exact Store.showsPage_of_run_fetchPage fetched
  | getFirst table =>
      obtain ⟨parsed, fetched⟩ := Program.exists_parsed_of_value returned
      exact Store.showsRecord_of_run_fetchFirst fetched
  | putItem table => exact Store.showsRecord_of_run_putItem returned
  | foreign relation => exact Relation.showsRecord_of_run_followOne returned
  | reverse relation => exact Relation.showsPage_of_run_followPage returned

/-! ## The tables of a store -/

namespace Store

variable {store : Store} {tables : List TableMetadata}

/-- A store whose tables do not get in each other's way, and whose relations
lead to its own tables. -/
structure Coherent (store : Store) : Prop where
  names : Naming.Distinct store.catalog.tables
  foreign_known : ∀ stored ∈ store.tables,
    ∀ key ∈ stored.metadata.foreignKeys,
      key.2.table ∈ store.catalog.tables
  reverse_known : ∀ stored ∈ store.tables,
    ∀ relation ∈ stored.metadata.reverse,
      relation.childTable ∈ store.catalog.tables

theorem exists_table_of_mem {name : String}
    (member : name ∈ store.catalog.tables) :
    ∃ stored, store.table? name = some stored := by
  obtain ⟨stored, storedMember, rfl⟩ := List.mem_map.mp member
  apply Option.isSome_iff_exists.mp
  unfold table?
  rw [List.find?_isSome]
  exact ⟨stored, storedMember, beq_self_eq_true _⟩

theorem exists_allMetadata (store : Store) :
    ∃ tables, store.catalog.allMetadata = .ok tables := by
  unfold Catalog.allMetadata
  rw [Catalog.exists_metadataOf_iff]
  intro name member
  obtain ⟨stored, known⟩ := exists_table_of_mem member
  refine ⟨stored.metadata, ?_⟩
  have metadataEq : store.catalog.tableMetadata name =
      (store.knownTable name).map (·.metadata) := rfl
  rw [metadataEq, knownTable_of_known known]
  rfl

/-- The metadata that a store gives for a name are those of its table with this
name. -/
theorem exists_table_of_tableMetadata {name : String}
    {metadata : TableMetadata}
    (found : store.catalog.tableMetadata name = .ok metadata) :
    ∃ stored, store.table? name = some stored ∧
      stored.metadata = metadata ∧ metadata.name = name := by
  have metadataEq : store.catalog.tableMetadata name =
      (store.knownTable name).map (·.metadata) := rfl
  rw [metadataEq, knownTable] at found
  cases known : store.table? name with
  | none =>
      rw [known] at found
      cases found
  | some stored =>
      rw [known] at found
      obtain rfl := Except.ok.inj found
      unfold table? at known
      have named := List.find?_some known
      exact ⟨stored, rfl, rfl, beq_iff_eq.mp named⟩

theorem named_of_tableMetadata (names : List String) :
    ∀ name ∈ names, ∀ metadata,
      store.catalog.tableMetadata name = .ok metadata →
        metadata.name = name := by
  intro name _ metadata found
  obtain ⟨_, _, _, named⟩ := exists_table_of_tableMetadata found
  exact named

/-- The metadata that a store gives for some names are those of its tables
with these names. -/
theorem of_metadataOf {names : List String}
    (found : store.catalog.metadataOf names = .ok tables) :
    tables.map (·.name) = names ∧
      ∀ metadata ∈ tables, ∃ stored,
        store.table? metadata.name = some stored ∧
          stored.metadata = metadata := by
  refine ⟨Catalog.map_name_of_metadataOf (named_of_tableMetadata names) found,
    fun metadata member => ?_⟩
  obtain ⟨name, _, metadataFound⟩ := Catalog.exists_table_of_mem found member
  obtain ⟨stored, known, same, named⟩ :=
    exists_table_of_tableMetadata metadataFound
  exact ⟨stored, by rw [named, known], same⟩

theorem Coherent.distinct (coherent : store.Coherent)
    (found : store.catalog.allMetadata = .ok tables) :
    TableMetadata.Distinct tables :=
  .of_metadataOf (named_of_tableMetadata _) coherent.names found

theorem Coherent.table_mem (coherent : store.Coherent)
    (found : store.catalog.allMetadata = .ok tables) {key : ResolverKey}
    {resolver : GeneratedResolver}
    (registered : (key, resolver) ∈ Registry.registrations tables) :
    resolver.table ∈ store.catalog.tables := by
  obtain ⟨names, known⟩ := of_metadataOf found
  obtain ⟨metadata, member, listed⟩ := List.mem_flatMap.mp registered
  obtain ⟨stored, storedFound, rfl⟩ := known metadata member
  have storedMember : stored ∈ store.tables :=
    List.mem_of_find?_eq_some storedFound
  rw [TableMetadata.resolvers_eq] at listed
  rcases List.mem_append.mp listed with inRoot | inRelations
  · have own : stored.metadata.name ∈ store.catalog.tables :=
      List.mem_map_of_mem storedMember
    simp only [TableMetadata.rootResolvers, List.mem_cons, Prod.mk.injEq,
      List.not_mem_nil, or_false] at inRoot
    rcases inRoot with ⟨_, rfl⟩ | ⟨_, rfl⟩ | ⟨_, rfl⟩
    · exact own
    · exact own
    · exact own
  · rcases List.mem_append.mp inRelations with inForeign | inReverse
    · obtain ⟨foreignKey, keyMember, equality⟩ := List.mem_map.mp inForeign
      rw [← (Prod.mk.inj equality).2]
      exact coherent.foreign_known stored storedMember foreignKey keyMember
    · obtain ⟨relation, relationMember, equality⟩ :=
        List.mem_map.mp inReverse
      rw [← (Prod.mk.inj equality).2]
      exact coherent.reverse_known stored storedMember relation
        relationMember

end Store

namespace GeneratedResolver

variable {names : List String} {resolver : GeneratedResolver}
  {table : String}

/-- Only resolvers of pages have the page type of a table. -/
theorem of_typeName_eq_pageTypeName (distinct : Naming.Distinct names)
    (own : resolver.table ∈ names) (member : table ∈ names)
    (same : resolver.typeName = Naming.pageTypeName table) :
    resolver.isPaged = true ∧ resolver.table = table := by
  unfold typeName at same
  cases paged : resolver.isPaged with
  | true =>
      rw [paged, if_pos rfl] at same
      exact ⟨rfl, distinct.typeName_inj _ own _ member
        ((String.append_left_inj _).mp same)⟩
  | false =>
      rw [paged, if_neg Bool.false_ne_true] at same
      exact absurd same (distinct.typeName_ne_page _ own _ member)

theorem of_typeName_eq_typeName (distinct : Naming.Distinct names)
    (own : resolver.table ∈ names) (member : table ∈ names)
    (same : resolver.typeName = Naming.typeName table) :
    resolver.isPaged = false ∧ resolver.table = table := by
  unfold typeName at same
  cases paged : resolver.isPaged with
  | true =>
      rw [paged, if_pos rfl] at same
      exact absurd same.symm (distinct.typeName_ne_page _ member _ own)
  | false =>
      rw [paged, if_neg Bool.false_ne_true] at same
      exact ⟨rfl, distinct.typeName_inj _ own _ member same⟩

end GeneratedResolver

/-! ## Resolving a field -/

theorem Session.exists_of_leave_eq_some {State result : Type}
    {invocation : Invocation} {outcome : Option result × Session State}
    {value : result} {after : Session State}
    (left : Session.leave invocation outcome = (some value, after)) :
    ∃ inner, outcome = (some value, inner) ∧
      after = inner.record (.left invocation) := by
  obtain ⟨found, inner⟩ := outcome
  cases found with
  | none => nomatch left
  | some found =>
      cases left
      exact ⟨inner, rfl, rfl⟩

namespace Gateway

/-- A successful call that everybody is allowed returns what the resolver of
its key returns. -/
theorem shows_of_resolve {catalog : Catalog} {config : GatewayConfig}
    {tables : List TableMetadata} {resolver : GeneratedResolver}
    {depth : Nat} {call : FieldCall} {session after : Session Store}
    {value : Json}
    (last : lastWrite call.key (Registry.registrations tables) =
      some resolver)
    (allows : session.authorizer = .allowAll)
    (returned :
      (ofMetadata catalog config tables).resolve Store.driver depth call
          session =
        (some (.ok value), after)) :
    after.database.Shows resolver.table resolver.isPaged value := by
  have handlerEq := handler?_ofMetadata catalog config tables call.key
  rw [last, Option.map_some] at handlerEq
  cases depth with
  | zero => nomatch returned
  | succ depth =>
      have allowed : session.authorizer.validate
          ((ofMetadata catalog config tables).resolvers.invocation call) =
            true := by
        rw [allows]
        rfl
      unfold resolve at returned
      rw [ResolverMap.resolve_of_allowed Store.driver handlerEq allowed]
        at returned
      obtain ⟨inner, ran, rfl⟩ := Session.exists_of_leave_eq_some returned
      have shows := resolver.shows_of_run ran
      exact shows

/-- For a store whose tables do not get in each other's way: a gateway comes
about, every field with parameters has the type of a table of the store or of
its pages, and whenever a call of the field that everybody is allowed succeeds,
it returns a page of that table or one of its rows or null. -/
theorem delivers (store : Store) (coherent : store.Coherent)
    (config : GatewayConfig) :
    ∃ gateway, build store.catalog config = .ok gateway ∧
      ∀ typeName name field,
        gateway.model.field? typeName name = some field →
        field.params.entries ≠ [] →
        (∃ table ∈ store.catalog.tables,
          field.type = .named (Naming.pageTypeName table) ∨
            field.type = .named (Naming.typeName table)) ∧
        ∀ (depth : Nat) (call : FieldCall) (session after : Session Store)
          (value : Json),
          call.key = ⟨typeName, name⟩ →
          session.authorizer = .allowAll →
          gateway.resolve Store.driver depth call session =
            (some (.ok value), after) →
          ∀ table ∈ store.catalog.tables,
            (field.type = .named (Naming.pageTypeName table) →
              after.database.ShowsPage table value) ∧
            (field.type = .named (Naming.typeName table) →
              after.database.ShowsRecord table value) := by
  obtain ⟨tables, found⟩ := store.exists_allMetadata
  refine ⟨_, build_of_metadata config found, ?_⟩
  intro typeName name field fieldFound parametrized
  have written := fieldAt?_ofMetadata store.catalog config tables
    ⟨typeName, name⟩
  rw [SchemaModel.fieldAt?, fieldFound] at written
  obtain ⟨resolver, last, fieldEq⟩ :=
    exists_last_resolver (coherent.distinct found) written.symm parametrized
  have own : resolver.table ∈ store.catalog.tables :=
    coherent.table_mem found (mem_of_lastWrite last)
  have typeEq : field.type = .named resolver.typeName := by
    rw [fieldEq, GeneratedResolver.type_definition]
  refine ⟨⟨resolver.table, own, ?_⟩, ?_⟩
  · rw [typeEq]
    unfold GeneratedResolver.typeName
    cases resolver.isPaged with
    | true => exact Or.inl rfl
    | false => exact Or.inr rfl
  · intro depth call session after value sameKey allows returned table member
    rw [← sameKey] at last
    have shows := shows_of_resolve last allows returned
    rw [typeEq]
    constructor
    · intro same
      obtain ⟨paged, rfl⟩ :=
        GeneratedResolver.of_typeName_eq_pageTypeName coherent.names own
          member (TypeRef.named.inj same)
      rw [paged] at shows
      exact shows
    · intro same
      obtain ⟨notPaged, rfl⟩ :=
        GeneratedResolver.of_typeName_eq_typeName coherent.names own member
          (TypeRef.named.inj same)
      rw [notPaged] at shows
      exact shows

/-! ## Two relations with one name -/

def person : TableMetadata where
  name := "person"
  columns := [⟨"id", "text", none⟩, ⟨"message", "text", none⟩]
  reverse := [⟨"message", "sender", "id"⟩, ⟨"message", "receiver", "id"⟩]

def message : TableMetadata where
  name := "message"
  columns :=
    [⟨"sender", "text", some ⟨"person", "id"⟩⟩,
      ⟨"receiver", "text", some ⟨"person", "id"⟩⟩]
  reverse := []

/-- Two persons who have written to each other. -/
def correspondence : Store :=
  ((Store.empty.withTable person "id").withTable message "sender").setRows
    "message"
    [.object [("receiver", .string "b"), ("sender", .string "a")],
      .object [("receiver", .string "a"), ("sender", .string "b")]]

theorem coherent_correspondence : correspondence.Coherent where
  names := {
    typeName_inj := by decide +kernel
    fieldStem_inj := by decide +kernel
    typeName_ne_query := by decide +kernel
    typeName_ne_mutation := by decide +kernel
    typeName_ne_page := by decide +kernel }
  foreign_known := by decide +kernel
  reverse_known := by decide +kernel

/-- A column and two relations share the name of a field; it delivers the page
of messages that it declares. -/
theorem delivers_correspondence :
    let received : Json :=
      .object [("receiver", .string "a"), ("sender", .string "b")]
    correspondence.Coherent ∧
    ∃ gateway field after,
      build correspondence.catalog .standard = .ok gateway ∧
      gateway.model.field? "Person" "message" = some field ∧
      field.params.entries ≠ [] ∧
      field.type = .named (Naming.pageTypeName "message") ∧
      gateway.resolve Store.driver 1
          ⟨⟨"Person", "message"⟩, .object [("id", .string "a")], [],
            ⟨[], []⟩⟩
          (.start correspondence .allowAll) =
        (some (.ok (Crud.pageValue "message" 1 [received])), after) ∧
      after.database.ShowsPage "message"
        (Crud.pageValue "message" 1 [received]) := by
  intro received
  obtain ⟨gateway, built, delivering⟩ :=
    delivers correspondence coherent_correspondence .standard
  have gatewayEq :
      gateway =
        ofMetadata correspondence.catalog .standard [person, message] := by
    have rebuilt : build correspondence.catalog .standard =
        .ok (ofMetadata correspondence.catalog .standard
          [person, message]) :=
      build_of_metadata .standard rfl
    rw [built] at rebuilt
    exact Except.ok.inj rebuilt
  have fieldFound : gateway.model.field? "Person" "message" =
      some (Compiler.reverseFieldOf ⟨"message", "receiver", "id"⟩) := by
    rw [gatewayEq]
    decide +kernel
  have parametrized :
      (Compiler.reverseFieldOf
        ⟨"message", "receiver", "id"⟩).params.entries ≠ [] := by
    decide
  obtain ⟨after, returned⟩ : ∃ after,
      gateway.resolve Store.driver 1
          ⟨⟨"Person", "message"⟩, .object [("id", .string "a")], [],
            ⟨[], []⟩⟩
          (.start correspondence .allowAll) =
        (some (.ok (Crud.pageValue "message" 1 [received])), after) := by
    rw [gatewayEq]
    exact ⟨_, rfl⟩
  refine ⟨coherent_correspondence, gateway, _, after, built, fieldFound,
    parametrized, rfl, returned, ?_⟩
  exact ((delivering _ _ _ fieldFound parametrized).2 _ _ _ _ _ rfl rfl
    returned "message" (by decide +kernel)).1 rfl

end Gateway

end TableGateway

import TableGateway.Gateway
import TableGateway.Proofs.Assembly.Keys
import TableGateway.Proofs.Catalog

/-!
# Assembling a gateway

A gateway comes about exactly when the metadata of all tables are to be had.
Then its schema is filled by `Compiler.modelWrites` and its registry by
`Registry.registrations`. The main statement is `Gateway.build_agrees`.
-/

namespace TableGateway

/-! ## The gateway of a catalog -/

namespace Gateway

/-- The compiler of a catalog after all passes over its tables. -/
def compiled (catalog : Catalog) (tables : List TableMetadata) : Compiler :=
  Compiler.fresh.mapAll catalog tables

/-- The registry filled with the resolvers of tables. -/
def registered (config : GatewayConfig) (tables : List TableMetadata) :
    Registry :=
  (Registry.empty config.defaultPageLimit).putAll
    (Registry.registrations tables)

/-- The gateway of a catalog with the metadata of all its tables. -/
def ofMetadata (catalog : Catalog) (config : GatewayConfig)
    (tables : List TableMetadata) : Gateway where
  sdl := (compiled catalog tables).render.1
  model := (compiled catalog tables).model
  skipped := (compiled catalog tables).skipped
  resolvers := (registered config tables).resolvers
  authorizer := .allowAll

section OfMetadata

variable (catalog : Catalog) (config : GatewayConfig)
  (tables : List TableMetadata)

theorem fieldAt?_ofMetadata (key : ResolverKey) :
    (ofMetadata catalog config tables).model.fieldAt? key =
      lastWrite key (Compiler.modelWrites catalog tables) :=
  Compiler.fieldAt?_mapAll_fresh catalog tables key

theorem handler?_ofMetadata (key : ResolverKey) :
    (ofMetadata catalog config tables).resolvers.handler? key =
      (lastWrite key (Registry.registrations tables)).map (·.handler) := by
  have emptyNone :
      (Registry.empty config.defaultPageLimit).handler? key = none := rfl
  refine (Registry.handler?_putAll _ _ _).trans ?_
  rw [emptyNone, Option.or_none]

theorem mem_keys_ofMetadata_iff (key : ResolverKey) :
    key ∈ (ofMetadata catalog config tables).resolvers.keys ↔
      ∃ resolver, (key, resolver) ∈ Registry.registrations tables := by
  have listed :=
    HandlerTable.mem_allKeys_iff
      (ofMetadata catalog config tables).resolvers.handlers key
  have found := handler?_ofMetadata catalog config tables key
  unfold ResolverMap.handler? at found
  unfold HandlerTable.hasKey at listed
  rw [found, Option.isSome_map] at listed
  exact listed.trans (isSome_lastWrite_iff _ _)

/-- Every key of a resolver names a field. -/
theorem hasField_ofMetadata {key : ResolverKey}
    (listed : key ∈ (ofMetadata catalog config tables).resolvers.keys) :
    (ofMetadata catalog config tables).model.hasField key.owner key.field =
      true := by
  obtain ⟨resolver, registered⟩ :=
    (mem_keys_ofMetadata_iff catalog config tables key).mp listed
  have written :=
    exists_modelWrite_of_registration catalog registered
  have present := (isSome_lastWrite_iff _ _).mpr written
  rw [← fieldAt?_ofMetadata catalog config tables key] at present
  exact present

theorem validateAgainst_ofMetadata :
    (ofMetadata catalog config tables).resolvers.validateAgainst
        (ofMetadata catalog config tables).model =
      .ok () := by
  have noneUnknown :
      (ofMetadata catalog config tables).resolvers.keys.find?
          (fun key =>
            !(ofMetadata catalog config tables).model.hasField
              key.owner key.field) =
        none := by
    rw [List.find?_eq_none]
    intro key listed unknown
    rw [hasField_ofMetadata catalog config tables listed] at unknown
    cases unknown
  unfold ResolverMap.validateAgainst
  rw [noneUnknown]

end OfMetadata

theorem build_of_metadata {catalog : Catalog} {tables : List TableMetadata}
    (config : GatewayConfig) (found : catalog.allMetadata = .ok tables) :
    build catalog config = .ok (ofMetadata catalog config tables) := by
  have compilerEq : Compiler.fresh.build catalog =
      .ok (compiled catalog tables) := by
    rw [Compiler.build, found]
    rfl
  have registryEq :
      (Registry.empty config.defaultPageLimit).synthesize catalog =
        (.ok (), registered config tables) :=
    Registry.registerTables_of_metadataOf catalog catalog.tables found _
  have valid : GatewayBuilder.validate
      ⟨config, compiled catalog tables, registered config tables,
        .allowAll⟩ = .ok () := by
    unfold GatewayBuilder.validate
    cases config.validateResolvers with
    | false => rfl
    | true => exact validateAgainst_ofMetadata catalog config tables
  unfold build GatewayBuilder.ofCatalog
  rw [compilerEq]
  dsimp only
  rw [registryEq]
  dsimp only
  unfold GatewayBuilder.finish
  rw [valid]
  rfl

theorem build_of_error {catalog : Catalog} {fault : DriverError}
    (config : GatewayConfig) (failed : catalog.allMetadata = .error fault) :
    build catalog config = .error (.driver fault) := by
  have compilerEq : Compiler.fresh.build catalog = .error fault := by
    rw [Compiler.build, failed]
    rfl
  unfold build GatewayBuilder.ofCatalog
  rw [compilerEq]

theorem exists_metadata_of_build {catalog : Catalog}
    {config : GatewayConfig} {gateway : Gateway}
    (built : build catalog config = .ok gateway) :
    ∃ tables, catalog.allMetadata = .ok tables ∧
      gateway = ofMetadata catalog config tables := by
  cases outcome : catalog.allMetadata with
  | error fault =>
      rw [build_of_error config outcome] at built
      cases built
  | ok tables =>
      rw [build_of_metadata config outcome] at built
      cases built
      exact ⟨tables, rfl, rfl⟩

/-- A gateway comes about exactly when the metadata of every table are to be
had, and otherwise the first table without any accounts for the error. In a
gateway every resolver belongs to a field, and every field that takes
parameters has a resolver. -/
theorem build_agrees (catalog : Catalog) (config : GatewayConfig) :
    ((∃ gateway, build catalog config = .ok gateway) ↔
      ∀ table ∈ catalog.tables, ∃ metadata,
        catalog.tableMetadata table = .ok metadata) ∧
    (∀ before table after fault,
      catalog.tables = before ++ table :: after →
      (∀ earlier ∈ before, ∃ metadata,
        catalog.tableMetadata earlier = .ok metadata) →
      catalog.tableMetadata table = .error fault →
      build catalog config = .error (.driver fault)) ∧
    ∀ gateway, build catalog config = .ok gateway →
      gateway.resolvers.validateAgainst gateway.model = .ok () ∧
      (∀ key ∈ gateway.resolvers.keys,
        gateway.model.hasField key.owner key.field = true) ∧
      ∀ typeName field definition,
        gateway.model.field? typeName field = some definition →
        definition.params.entries ≠ [] →
        ⟨typeName, field⟩ ∈ gateway.resolvers.keys := by
  refine ⟨?_, ?_, ?_⟩
  · rw [← Catalog.exists_metadataOf_iff catalog.tables]
    constructor
    · rintro ⟨gateway, built⟩
      obtain ⟨tables, found, _⟩ := exists_metadata_of_build built
      exact ⟨tables, found⟩
    · rintro ⟨tables, found⟩
      exact ⟨_, build_of_metadata config found⟩
  · intro before table after fault tablesEq earlierFound failed
    apply build_of_error
    unfold Catalog.allMetadata
    rw [tablesEq]
    exact Catalog.metadataOf_of_first_error earlierFound failed
  · intro gateway built
    obtain ⟨tables, _, rfl⟩ := exists_metadata_of_build built
    refine ⟨validateAgainst_ofMetadata catalog config tables,
      fun key listed => hasField_ofMetadata catalog config tables listed, ?_⟩
    intro typeName field definition found parametrized
    have written := fieldAt?_ofMetadata catalog config tables ⟨typeName, field⟩
    have fieldFound :
        (ofMetadata catalog config tables).model.fieldAt? ⟨typeName, field⟩ =
          some definition := found
    rw [fieldFound] at written
    apply (mem_keys_ofMetadata_iff catalog config tables _).mpr
    exact exists_registration_of_modelWrite (mem_of_lastWrite written.symm)
      parametrized

/-- A table with a foreign key; the second catalog reports another table that
does not exist. -/
theorem build_agrees_order_line :
    let metadata : TableMetadata :=
      ⟨"order_line", [⟨"order_id", "int", some ⟨"order", "id"⟩⟩], []⟩
    let catalog : Catalog :=
      ⟨["order_line"], fun _ => .ok metadata, fun _ => .ok "Int"⟩
    let broken : Catalog :=
      { catalog with
        tables := ["order_line", "gone", "lost"]
        tableMetadata := fun table =>
          if table = "order_line" then .ok metadata
          else .error (.unknownTable table) }
    (∃ gateway definition,
      build catalog .standard = .ok gateway ∧
      gateway.resolvers.validateAgainst gateway.model = .ok () ∧
      ⟨"Query", "orderLineGetPage"⟩ ∈ gateway.resolvers.keys ∧
      gateway.model.hasField "Query" "orderLineGetPage" = true ∧
      gateway.model.field? "OrderLine" "order_id_order" =
        some definition ∧
      definition.params.entries ≠ [] ∧
      ⟨"OrderLine", "order_id_order"⟩ ∈ gateway.resolvers.keys) ∧
    build broken .standard = .error (.driver (.unknownTable "gone")) := by
  intro metadata catalog broken
  refine ⟨?_, ?_⟩
  · have built : build catalog .standard =
        .ok (ofMetadata catalog .standard [metadata]) :=
      build_of_metadata .standard rfl
    obtain ⟨valid, named, registered⟩ :=
      (build_agrees catalog .standard).2.2 _ built
    have listed :
        ⟨"Query", "orderLineGetPage"⟩ ∈
          (ofMetadata catalog .standard [metadata]).resolvers.keys := by
      decide +kernel
    have fieldFound :
        (ofMetadata catalog .standard [metadata]).model.field?
            "OrderLine" "order_id_order" =
          some (Compiler.foreignFieldOf
            (⟨"order_id", "int", some ⟨"order", "id"⟩⟩, ⟨"order", "id"⟩)) := by
      decide +kernel
    have parametrized :
        (Compiler.foreignFieldOf
          (⟨"order_id", "int", some ⟨"order", "id"⟩⟩,
            ⟨"order", "id"⟩)).params.entries ≠ [] := by
      decide +kernel
    have namedField := named ⟨"Query", "orderLineGetPage"⟩ listed
    have registeredField :=
      registered "OrderLine" "order_id_order" _ fieldFound parametrized
    exact ⟨_, _, built, valid, listed, namedField, fieldFound,
      parametrized, registeredField⟩
  · apply (build_agrees broken .standard).2.1 ["order_line"] "gone" ["lost"]
    · rfl
    · intro earlier member
      rw [List.mem_singleton.mp member]
      exact ⟨metadata, rfl⟩
    · rfl

end Gateway

end TableGateway

import TableGateway.Proofs.Assembly.Build
import TableGateway.Proofs.Assembly.Calls
import TableGateway.Proofs.Schema.Work
import TableGateway.Store.Basic

/-!
# From a builder to a gateway

A builder begins with what a catalog determines, takes calls, and is finished.
Calls fail only over a key that is taken, and finishing only over a key that is
no field. A gateway that comes about has the last thing written by hand under
every key, and otherwise what the builder began with. The main statement is
`GatewayBuilder.assembles`.
-/

namespace TableGateway

/-! ## Beginnings -/

namespace GatewayBuilder

/-- A builder as it comes from a catalog. -/
structure Begins (catalog : Catalog) (config : GatewayConfig)
    (start : GatewayBuilder) : Prop where
  config_eq : start.config = config
  unrendered : start.compiler.rendered = none
  generated : ∃ tables, catalog.allMetadata = .ok tables ∧
    ∀ key, start.registry.handler? key =
      (lastWrite key (Registry.registrations tables)).map (·.handler)

/-- A builder of a catalog has gone over the metadata of all its tables. -/
theorem exists_tables_of_ofCatalog {catalog : Catalog}
    {config : GatewayConfig} {start : GatewayBuilder}
    (begun : ofCatalog catalog config = .ok start) :
    ∃ tables, catalog.allMetadata = .ok tables ∧
      start = ⟨config, Gateway.compiled catalog tables,
        Gateway.registered config tables, .allowAll⟩ := by
  unfold ofCatalog Compiler.build at begun
  cases found : catalog.allMetadata with
  | error fault =>
      rw [found] at begun
      cases begun
  | ok tables =>
      have registryEq :
          (Registry.empty config.defaultPageLimit).synthesize catalog =
            (.ok (), Gateway.registered config tables) :=
        Registry.registerTables_of_metadataOf catalog catalog.tables found _
      rw [found, registryEq] at begun
      exact ⟨tables, rfl, (Except.ok.inj begun).symm⟩

theorem begins_of_ofCatalog {catalog : Catalog} {config : GatewayConfig}
    {start : GatewayBuilder} (begun : ofCatalog catalog config = .ok start) :
    Begins catalog config start := by
  obtain ⟨tables, found, rfl⟩ := exists_tables_of_ofCatalog begun
  exact {
    config_eq := rfl
    unrendered := Compiler.rendered_mapAll catalog tables .fresh
    generated :=
      ⟨tables, found, Gateway.handler?_ofMetadata catalog config tables⟩ }

end GatewayBuilder

/-! ## Handlers that stay -/

/-- Under strict registration a handler stays, whatever calls succeed. -/
theorem BuilderCall.handler?_applyAll_of_strict {start builder : GatewayBuilder}
    {calls : List BuilderCall}
    (strict : start.config.strictRegistration = true)
    (applied : applyAll start calls = .ok builder)
    {key : ResolverKey} {handler : Handler}
    (found : start.registry.handler? key = some handler) :
    builder.registry.handler? key = some handler := by
  have extended := GatewayBuilder.extends_applyAll applied
  have taken : start.registry.contains key = true := by
    have containsEq : start.registry.contains key =
        (start.registry.handler? key).isSome := rfl
    rw [containsEq, found]
    rfl
  have notWritten :
      lastWrite key (calls.filterMap (·.handlerWrite?)) = none := by
    cases written : lastWrite key (calls.filterMap (·.handlerWrite?)) with
    | none => rfl
    | some manual =>
        exfalso
        obtain ⟨call, callMember, callWrite⟩ :=
          List.mem_filterMap.mp (mem_of_lastWrite written)
        cases call with
        | field typeName definition => cases callWrite
        | inputField input name type => cases callWrite
        | authorizer chosen => cases callWrite
        | resolver callKey callHandler =>
            cases callWrite
            obtain ⟨before, after, rfl⟩ := List.append_of_mem callMember
            have failed := (applyAll_eq_error_iff start _ _).mpr
              ⟨strict, before, key, manual, after, rfl,
                exists_applyAll_of_append applied, Or.inl taken, rfl⟩
            rw [failed] at applied
            cases applied
  rw [extended.handler?_eq, notWritten, Option.none_or, found]

/-! ## Completion -/

/-- A gateway runs a handler for a key whenever the authorizer in charge allows
it, whatever the database is. -/
def Gateway.Runs (gateway : Gateway) (key : ResolverKey)
    (handler : Handler) : Prop :=
  ∀ (State : Type) (driver : Driver State) (depth : Nat) (call : FieldCall)
    (session : Session State),
    call.key = key →
    session.authorizer.validate (gateway.resolvers.invocation call) = true →
    gateway.resolve driver (depth + 1) call session =
      Session.leave (gateway.resolvers.invocation call)
        ((handler (gateway.resolvers.invocation call)).run driver
          (gateway.resolvers.resolve driver depth)
          ((session.check (gateway.resolvers.invocation call)).2.record
            (.entered (gateway.resolvers.invocation call))))

theorem Gateway.runs_of_handler? {gateway : Gateway} {key : ResolverKey}
    {handler : Handler}
    (found : gateway.resolvers.handler? key = some handler) :
    gateway.Runs key handler := by
  intro State driver depth call session sameKey allowed
  subst sameKey
  exact ResolverMap.resolve_of_allowed driver found allowed depth

/-- The check of a map reports the first key that is no field of the model. -/
theorem ResolverMap.validateAgainst_eq_error_iff (map : ResolverMap)
    (model : SchemaModel) (fault : ResolverError) :
    map.validateAgainst model = .error fault ↔
      ∃ before key after,
        map.keys = before ++ key :: after ∧
        (∀ earlier ∈ before,
          model.hasField earlier.owner earlier.field = true) ∧
        model.hasField key.owner key.field = false ∧
        fault = .unknownField key := by
  have foundIff : map.validateAgainst model = .error fault ↔
      ∃ key, (map.keys.find? fun key =>
          !model.hasField key.owner key.field) = some key ∧
        fault = .unknownField key := by
    unfold validateAgainst
    cases map.keys.find? fun key =>
        !model.hasField key.owner key.field with
    | none => simp
    | some key => simp [eq_comm]
  rw [foundIff]
  simp only [List.find?_eq_some_iff_append, Bool.not_not,
    Bool.not_eq_true']
  constructor
  · rintro ⟨key, ⟨missing, before, after, split, earlier⟩, faultEq⟩
    exact ⟨before, key, after, split, earlier, missing, faultEq⟩
  · rintro ⟨before, key, after, split, earlier, missing, faultEq⟩
    exact ⟨key, ⟨missing, before, after, split, earlier⟩, faultEq⟩

namespace GatewayBuilder

/-- Finishing fails exactly when resolvers are checked and one of them belongs
to no field. -/
theorem finish_eq_error_iff (builder : GatewayBuilder)
    (fault : GatewayError) :
    builder.finish = .error fault ↔
      builder.config.validateResolvers = true ∧
        ∃ before key after,
          builder.registry.keys = before ++ key :: after ∧
          (∀ earlier ∈ before,
            builder.compiler.model.hasField earlier.owner earlier.field =
              true) ∧
          builder.compiler.model.hasField key.owner key.field = false ∧
          fault = .resolver (.unknownField key) := by
  have checked (reason : ResolverError) :=
    builder.registry.resolvers.validateAgainst_eq_error_iff
      builder.compiler.model reason
  have keysEq : builder.registry.resolvers.keys = builder.registry.keys := rfl
  rw [keysEq] at checked
  have failedIff : builder.finish = .error fault ↔
      ∃ reason, builder.validate = .error reason ∧
        fault = .resolver reason := by
    unfold finish
    cases builder.validate with
    | ok _ => simp
    | error reason => simp [eq_comm]
  rw [failedIff]
  unfold validate
  cases builder.config.validateResolvers with
  | false => simp
  | true =>
      simp only [if_true, true_and, checked]
      constructor
      · rintro ⟨_, ⟨before, key, after, split, earlier, missing, rfl⟩, rfl⟩
        exact ⟨before, key, after, split, earlier, missing, rfl⟩
      · rintro ⟨before, key, after, split, earlier, missing, rfl⟩
        exact ⟨_, ⟨before, key, after, split, earlier, missing, rfl⟩, rfl⟩

/-- What a gateway is that was finished after some calls on a builder. -/
structure Completes (start : GatewayBuilder) (calls : List BuilderCall)
    (gateway : Gateway) : Prop where
  sdl_eq : gateway.sdl = gateway.model.sdl
  has_field : ∀ typeName field definition,
    lastWrite ⟨typeName, field⟩ (calls.filterMap (·.fieldWrite?)) =
      some definition →
    gateway.model.field? typeName field = some definition
  has_inputField : ∀ input name type,
    lastWrite (input, name) (calls.filterMap (·.inputWrite?)) = some type →
    (gateway.model.inputFields? input).bind (·.get? name) = some type
  mem_keys_iff : ∀ key, key ∈ gateway.resolvers.keys ↔
    key ∈ start.registry.keys ∨
      key ∈ (calls.filterMap (·.handlerWrite?)).map Prod.fst
  runs_manual : ∀ key handler,
    lastWrite key (calls.filterMap (·.handlerWrite?)) = some handler →
    gateway.Runs key handler
  runs_generated : ∀ key handler,
    key ∉ (calls.filterMap (·.handlerWrite?)).map Prod.fst →
    start.registry.handler? key = some handler →
    gateway.Runs key handler
  runs_strict : start.config.strictRegistration = true → ∀ key handler,
    start.registry.handler? key = some handler →
    gateway.Runs key handler

theorem completes_of_finish {start builder : GatewayBuilder}
    {calls : List BuilderCall} {gateway : Gateway}
    (unrendered : start.compiler.rendered = none)
    (applied : BuilderCall.applyAll start calls = .ok builder)
    (finished : builder.finish = .ok gateway) :
    start.Completes calls gateway := by
  have extended := extends_applyAll applied
  have rendered : builder.compiler.rendered = none :=
    extended.rendered_eq.trans unrendered
  unfold finish at finished
  cases valid : builder.validate with
  | error reason =>
      rw [valid] at finished
      cases finished
  | ok _ =>
      rw [valid] at finished
      cases finished
      exact {
        sdl_eq := by
          unfold Compiler.render
          rw [rendered]
        has_field := by
          intro typeName field definition last
          have fieldEq := extended.fieldAt?_eq ⟨typeName, field⟩
          rw [last, Option.some_or] at fieldEq
          exact fieldEq
        has_inputField := by
          intro input name type last
          have fieldEq := extended.inputFieldAt?_eq (input, name)
          rw [last, Option.some_or] at fieldEq
          exact fieldEq
        mem_keys_iff := by
          intro key
          have keyOf (registry : Registry) : key ∈ registry.keys ↔
              registry.contains key = true :=
            HandlerTable.mem_allKeys_iff registry.handlers key
          rw [keyOf start.registry, ← extended.contains_iff key]
          exact keyOf builder.registry
        runs_manual := by
          intro key handler last
          have handlerEq := extended.handler?_eq key
          rw [last, Option.some_or] at handlerEq
          exact Gateway.runs_of_handler? handlerEq
        runs_generated := by
          intro key handler notManual found
          have noWrite :
              lastWrite key (calls.filterMap (·.handlerWrite?)) = none := by
            cases written :
                lastWrite key (calls.filterMap (·.handlerWrite?)) with
            | none => rfl
            | some manual =>
                exact absurd
                  (List.mem_map_of_mem (mem_of_lastWrite written)) notManual
          have handlerEq := extended.handler?_eq key
          rw [noWrite, Option.none_or, found] at handlerEq
          exact Gateway.runs_of_handler? handlerEq
        runs_strict := by
          intro strict key handler found
          exact Gateway.runs_of_handler?
            (BuilderCall.handler?_applyAll_of_strict strict applied found) }

/-- A builder from a catalog has the generated resolvers and no text yet. From
any such beginning, and after any calls:

* without strict registration no call fails; with it, exactly those calls fail
  that give a handler to a key which is taken;
* finishing fails exactly when keys are checked and one of them is no field, and
  reports the first;
* a finished gateway has what was written by hand last and otherwise what was
  there at the beginning, and its text is that of its model. -/
theorem assembles :
    (∀ catalog config start, ofCatalog catalog config = .ok start →
      Begins catalog config start) ∧
    ∀ (start : GatewayBuilder) (calls : List BuilderCall),
      start.compiler.rendered = none →
      (start.config.strictRegistration = false →
        ∃ builder, BuilderCall.applyAll start calls = .ok builder) ∧
      (∀ fault, BuilderCall.applyAll start calls = .error fault ↔
        start.config.strictRegistration = true ∧
          ∃ before key handler after,
            calls = before ++ .resolver key handler :: after ∧
            (∃ builder, BuilderCall.applyAll start before = .ok builder) ∧
            (start.registry.contains key = true ∨
              key ∈ (before.filterMap (·.handlerWrite?)).map Prod.fst) ∧
            fault = .resolver (.duplicateResolver key)) ∧
      ∀ builder, BuilderCall.applyAll start calls = .ok builder →
        (∀ fault, builder.finish = .error fault ↔
          start.config.validateResolvers = true ∧
            ∃ before key after,
              builder.registry.keys = before ++ key :: after ∧
              (∀ earlier ∈ before,
                builder.compiler.model.hasField
                  earlier.owner earlier.field = true) ∧
              builder.compiler.model.hasField key.owner key.field = false ∧
              fault = .resolver (.unknownField key)) ∧
        ∀ gateway, builder.finish = .ok gateway →
          start.Completes calls gateway := by
  refine ⟨fun catalog config start begun => begins_of_ofCatalog begun, ?_⟩
  intro start calls unrendered
  have failsIff := BuilderCall.applyAll_eq_error_iff start calls
  refine ⟨?_, failsIff, ?_⟩
  · intro notStrict
    cases applied : BuilderCall.applyAll start calls with
    | ok builder => exact ⟨builder, rfl⟩
    | error fault =>
        obtain ⟨strict, _⟩ := (failsIff fault).mp applied
        rw [notStrict] at strict
        cases strict
  · intro builder applied
    refine ⟨?_, ?_⟩
    · intro fault
      rw [finish_eq_error_iff, (extends_applyAll applied).config_eq]
    · intro gateway finished
      exact completes_of_finish unrendered applied finished

/-- One table, a query made by hand, and a generated query answered by hand.
Strict registration refuses the latter; a query that was only given a resolver
is no field. -/
theorem assembles_overridden :
    let metadata : TableMetadata := ⟨"foo", [⟨"id", "serial", none⟩], []⟩
    let catalog : Catalog :=
      ⟨["foo"], fun _ => .ok metadata, fun _ => .ok "Int"⟩
    let start (config : GatewayConfig) : GatewayBuilder :=
      ⟨config, Gateway.compiled catalog [metadata],
        Gateway.registered config [metadata], .allowAll⟩
    let manual : Handler := fun _ => .answer .null
    let calls : List BuilderCall :=
      [.field "Query" (.plain "now" .int),
        .resolver ⟨"Query", "fooGetPage"⟩ manual,
        .resolver ⟨"Query", "now"⟩ manual]
    (∃ builder gateway,
      ofCatalog catalog .standard = .ok (start .standard) ∧
      (start .standard).compiler.rendered = none ∧
      BuilderCall.applyAll (start .standard) calls = .ok builder ∧
      builder.finish = .ok gateway ∧
      gateway.model.field? "Query" "now" = some (.plain "now" .int) ∧
      gateway.Runs ⟨"Query", "fooGetPage"⟩ manual ∧
      gateway.Runs ⟨"Query", "fooGetFirst"⟩
        (GeneratedResolver.getFirst "foo").handler) ∧
    BuilderCall.applyAll (start .strict) calls =
      .error (.resolver (.duplicateResolver ⟨"Query", "fooGetPage"⟩)) ∧
    ∃ builder,
      BuilderCall.applyAll (start .standard)
          [.resolver ⟨"Query", "gone"⟩ manual] =
        .ok builder ∧
      builder.finish =
        .error (.resolver (.unknownField ⟨"Query", "gone"⟩)) := by
  intro metadata catalog start manual calls
  obtain ⟨begins, completes⟩ := assembles
  have begun : ofCatalog catalog .standard = .ok (start .standard) := rfl
  have beginning := begins catalog .standard (start .standard) begun
  have unrendered (config : GatewayConfig) :
      (start config).compiler.rendered = none :=
    beginning.unrendered
  have getFirst :
      (start .standard).registry.handler? ⟨"Query", "fooGetFirst"⟩ =
        some (GeneratedResolver.getFirst "foo").handler := by
    obtain ⟨tables, found, handlerEq⟩ := beginning.generated
    cases found
    have last : lastWrite ⟨"Query", "fooGetFirst"⟩
        (Registry.registrations [metadata]) = some (.getFirst "foo") := by
      decide +kernel
    rw [handlerEq, last]
    rfl
  refine ⟨?_, ?_, ?_⟩
  · let final : GatewayBuilder :=
      { (start .standard).field "Query" (.plain "now" .int) with
        registry :=
          ((start .standard).registry.put ⟨"Query", "fooGetPage"⟩ manual).put
            ⟨"Query", "now"⟩ manual }
    have applied :
        BuilderCall.applyAll (start .standard) calls = .ok final := rfl
    have valid : final.validate = .ok () := by decide +kernel
    obtain ⟨gateway, finished⟩ : ∃ gateway, final.finish = .ok gateway := by
      unfold finish
      rw [valid]
      exact ⟨_, rfl⟩
    have completed :=
      ((completes (start .standard) calls (unrendered _)).2.2 final
        applied).2 gateway finished
    refine ⟨final, gateway, begun, unrendered _, applied, finished, ?_, ?_,
      ?_⟩
    · exact completed.has_field _ _ _ (by decide)
    · exact completed.runs_manual _ _ rfl
    · exact completed.runs_generated _ _ (by decide) getFirst
  · rw [(completes (start .strict) calls (unrendered _)).2.1]
    have taken :
        (start .strict).registry.contains ⟨"Query", "fooGetPage"⟩ = true := by
      decide +kernel
    exact ⟨rfl, [.field "Query" (.plain "now" .int)], _, _, _, rfl, ⟨_, rfl⟩,
      Or.inl taken, rfl⟩
  · let final : GatewayBuilder :=
      { start .standard with
        registry := (start .standard).registry.put ⟨"Query", "gone"⟩ manual }
    have applied : BuilderCall.applyAll (start .standard)
        [.resolver ⟨"Query", "gone"⟩ manual] = .ok final := rfl
    refine ⟨final, applied, ?_⟩
    rw [((completes (start .standard) _ (unrendered _)).2.2 final applied).1]
    refine ⟨rfl, [⟨"Query", "fooGetPage"⟩, ⟨"Query", "fooGetFirst"⟩],
      ⟨"Query", "gone"⟩, [⟨"Mutation", "fooPutItem"⟩], ?_, ?_, ?_, rfl⟩
    · decide +kernel
    · decide +kernel
    · decide +kernel

end GatewayBuilder

end TableGateway

import TableGateway.Gateway
import TableGateway.Proofs.Schema.FieldWrites
import TableGateway.Proofs.Resolver.Registrations

/-!
# Calls on a builder

Between its beginning and its end a builder takes calls, which write fields,
input fields and handlers. A builder after some calls has what the one before
them had, under the last write of every key (`GatewayBuilder.extends_applyAll`),
and calls fail at the first key that is taken under strict registration
(`BuilderCall.applyAll_eq_error_iff`).
-/

namespace TableGateway

/-! ## Calls -/

/-- A call on a builder that is not finished. -/
inductive BuilderCall where
  | field (typeName : String) (definition : FieldDefinition)
  | inputField (input name : String) (type : TypeRef)
  | resolver (key : ResolverKey) (handler : Handler)
  | authorizer (chosen : Authorizer)

namespace BuilderCall

def apply (builder : GatewayBuilder) :
    BuilderCall → Except GatewayError GatewayBuilder
  | field typeName definition => .ok (builder.field typeName definition)
  | inputField input name type => .ok (builder.inputField input name type)
  | resolver key handler => builder.resolver key handler
  | authorizer chosen => .ok (builder.withAuthorizer chosen)

/-- Make calls in order, up to the first that fails. -/
def applyAll (builder : GatewayBuilder) :
    List BuilderCall → Except GatewayError GatewayBuilder
  | [] => .ok builder
  | call :: rest =>
      match call.apply builder with
      | .error fault => .error fault
      | .ok next => applyAll next rest

def fieldWrite? : BuilderCall → Option (ResolverKey × FieldDefinition)
  | field typeName definition => some (fieldWrite typeName definition)
  | _ => none

def inputWrite? : BuilderCall → Option ((String × String) × TypeRef)
  | inputField input name type => some ((input, name), type)
  | _ => none

def handlerWrite? : BuilderCall → Option (ResolverKey × Handler)
  | resolver key handler => some (key, handler)
  | _ => none

theorem applyAll_cons_of_ok {builder next : GatewayBuilder}
    {call : BuilderCall} (applied : call.apply builder = .ok next)
    (rest : List BuilderCall) :
    applyAll builder (call :: rest) = applyAll next rest := by
  rw [applyAll, applied]

theorem applyAll_append (builder : GatewayBuilder)
    (first second : List BuilderCall) :
    applyAll builder (first ++ second) =
      (applyAll builder first).bind (applyAll · second) := by
  induction first generalizing builder with
  | nil => rfl
  | cons call rest inductionHypothesis =>
      rw [List.cons_append, applyAll, applyAll]
      cases call.apply builder with
      | error fault => rfl
      | ok next => exact inductionHypothesis next

/-- Calls after a failed one do not count. -/
theorem applyAll_of_error {builder middle : GatewayBuilder}
    {before : List BuilderCall} {call : BuilderCall} {fault : GatewayError}
    (earlier : applyAll builder before = .ok middle)
    (failed : call.apply middle = .error fault)
    (after : List BuilderCall) :
    applyAll builder (before ++ call :: after) = .error fault := by
  rw [applyAll_append, earlier]
  change applyAll middle (call :: after) = .error fault
  rw [applyAll, failed]

theorem exists_applyAll_of_append {builder final : GatewayBuilder}
    {first second : List BuilderCall}
    (applied : applyAll builder (first ++ second) = .ok final) :
    ∃ middle, applyAll builder first = .ok middle := by
  rw [applyAll_append] at applied
  cases earlier : applyAll builder first with
  | error fault =>
      rw [earlier] at applied
      cases applied
  | ok middle => exact ⟨middle, rfl⟩

/-- If calls fail, it is at one of them, after all earlier ones succeeded. -/
theorem exists_call_of_error {builder : GatewayBuilder}
    {calls : List BuilderCall} {fault : GatewayError}
    (failed : applyAll builder calls = .error fault) :
    ∃ before call after middle,
      calls = before ++ call :: after ∧
        applyAll builder before = .ok middle ∧
        call.apply middle = .error fault := by
  induction calls generalizing builder with
  | nil => cases failed
  | cons first rest inductionHypothesis =>
      rw [applyAll] at failed
      cases applied : first.apply builder with
      | error reason =>
          rw [applied] at failed
          cases failed
          exact ⟨[], first, rest, builder, rfl, rfl, applied⟩
      | ok next =>
          rw [applied] at failed
          obtain ⟨before, call, after, middle, rfl, earlier, callFailed⟩ :=
            inductionHypothesis failed
          refine ⟨first :: before, call, after, middle, rfl, ?_, callFailed⟩
          rw [applyAll_cons_of_ok applied]
          exact earlier

/-- Only a handler for a key that is taken is refused, and only under strict
registration. -/
theorem apply_eq_error_iff (builder : GatewayBuilder) (call : BuilderCall)
    (fault : GatewayError) :
    call.apply builder = .error fault ↔
      builder.config.strictRegistration = true ∧
        ∃ key handler, call = .resolver key handler ∧
          builder.registry.contains key = true ∧
          fault = .resolver (.duplicateResolver key) := by
  cases call with
  | field typeName definition => simp [apply]
  | inputField input name type => simp [apply]
  | authorizer chosen => simp [apply]
  | resolver key handler =>
      unfold apply GatewayBuilder.resolver Registry.tryAdd
      dsimp only
      cases strict : builder.config.strictRegistration with
      | false => simp
      | true =>
          cases taken : builder.registry.contains key with
          | false => simp +contextual [taken]
          | true =>
              constructor
              · intro failed
                cases failed
                exact ⟨rfl, key, handler, rfl, taken, rfl⟩
              · rintro ⟨_, _, _, callEq, _, rfl⟩
                cases callEq
                rfl

end BuilderCall

/-! ## Builders after calls -/

namespace GatewayBuilder

open BuilderCall

/-- What a builder has after some calls on an earlier one. -/
structure Extends (start : GatewayBuilder) (calls : List BuilderCall)
    (builder : GatewayBuilder) : Prop where
  config_eq : builder.config = start.config
  rendered_eq : builder.compiler.rendered = start.compiler.rendered
  defaultLimit_eq :
    builder.registry.defaultLimit = start.registry.defaultLimit
  fieldAt?_eq : ∀ key,
    builder.compiler.model.fieldAt? key =
      (lastWrite key (calls.filterMap (·.fieldWrite?))).or
        (start.compiler.model.fieldAt? key)
  inputFieldAt?_eq : ∀ place,
    builder.compiler.model.inputFieldAt? place =
      (lastWrite place (calls.filterMap (·.inputWrite?))).or
        (start.compiler.model.inputFieldAt? place)
  handler?_eq : ∀ key,
    builder.registry.handler? key =
      (lastWrite key (calls.filterMap (·.handlerWrite?))).or
        (start.registry.handler? key)

theorem extends_nil (start : GatewayBuilder) : start.Extends [] start where
  config_eq := rfl
  rendered_eq := rfl
  defaultLimit_eq := rfl
  fieldAt?_eq _ := rfl
  inputFieldAt?_eq _ := rfl
  handler?_eq _ := rfl

theorem Extends.append {start middle final : GatewayBuilder}
    {first second : List BuilderCall}
    (firstExtends : start.Extends first middle)
    (secondExtends : middle.Extends second final) :
    start.Extends (first ++ second) final where
  config_eq := secondExtends.config_eq.trans firstExtends.config_eq
  rendered_eq := secondExtends.rendered_eq.trans firstExtends.rendered_eq
  defaultLimit_eq :=
    secondExtends.defaultLimit_eq.trans firstExtends.defaultLimit_eq
  fieldAt?_eq key := by
    rw [secondExtends.fieldAt?_eq, firstExtends.fieldAt?_eq,
      List.filterMap_append, lastWrite_append, Option.or_assoc]
  inputFieldAt?_eq place := by
    rw [secondExtends.inputFieldAt?_eq, firstExtends.inputFieldAt?_eq,
      List.filterMap_append, lastWrite_append, Option.or_assoc]
  handler?_eq key := by
    rw [secondExtends.handler?_eq, firstExtends.handler?_eq,
      List.filterMap_append, lastWrite_append, Option.or_assoc]

theorem extends_field (start : GatewayBuilder) (typeName : String)
    (definition : FieldDefinition) :
    start.Extends [.field typeName definition]
      (start.field typeName definition) :=
  { start.extends_nil with
    fieldAt?_eq :=
      start.compiler.model.fieldAt?_setField typeName definition }

theorem extends_inputField (start : GatewayBuilder) (input name : String)
    (type : TypeRef) :
    start.Extends [.inputField input name type]
      (start.inputField input name type) :=
  { start.extends_nil with
    inputFieldAt?_eq := by
      intro place
      refine (SchemaModel.inputFieldAt?_setInputField _ _ _ _ _).trans ?_
      have written :
          [BuilderCall.inputField input name type].filterMap
              (·.inputWrite?) =
            [((input, name), type)] := rfl
      rw [written, lastWrite_cons, lastWrite_nil, Option.none_or]
      by_cases same : place = (input, name)
      · simp [same]
      · simp [same] }

theorem extends_put (start : GatewayBuilder) (key : ResolverKey)
    (handler : Handler) :
    start.Extends [.resolver key handler]
      { start with registry := start.registry.put key handler } :=
  { start.extends_nil with
    handler?_eq := by
      intro other
      refine (HandlerTable.handler?_put _ _ _ _).trans ?_
      have written :
          [BuilderCall.resolver key handler].filterMap
              (·.handlerWrite?) =
            [(key, handler)] := rfl
      rw [written, lastWrite_cons, lastWrite_nil, Option.none_or]
      by_cases same : other = key
      · simp [same]
      · simp only [if_neg same, Option.none_or]
        rfl }

theorem extends_apply {start next : GatewayBuilder} {call : BuilderCall}
    (applied : call.apply start = .ok next) :
    start.Extends [call] next := by
  cases call with
  | field typeName definition =>
      cases applied
      exact start.extends_field typeName definition
  | inputField input name type =>
      cases applied
      exact start.extends_inputField input name type
  | authorizer chosen =>
      cases applied
      exact { start.extends_nil with }
  | resolver key handler =>
      unfold apply resolver Registry.tryAdd at applied
      dsimp only at applied
      cases strict : start.config.strictRegistration with
      | false =>
          rw [strict] at applied
          cases applied
          exact start.extends_put key handler
      | true =>
          rw [strict] at applied
          cases taken : start.registry.contains key with
          | true =>
              rw [taken] at applied
              cases applied
          | false =>
              rw [taken] at applied
              cases applied
              exact start.extends_put key handler

theorem extends_applyAll {start builder : GatewayBuilder}
    {calls : List BuilderCall}
    (applied : applyAll start calls = .ok builder) :
    start.Extends calls builder := by
  induction calls generalizing start with
  | nil =>
      cases applied
      exact extends_nil _
  | cons call rest inductionHypothesis =>
      rw [applyAll] at applied
      cases callApplied : call.apply start with
      | error fault =>
          rw [callApplied] at applied
          cases applied
      | ok next =>
          rw [callApplied] at applied
          exact (extends_apply callApplied).append
            (inductionHypothesis applied)

theorem Extends.contains_iff {start builder : GatewayBuilder}
    {calls : List BuilderCall} (extended : start.Extends calls builder)
    (key : ResolverKey) :
    builder.registry.contains key = true ↔
      start.registry.contains key = true ∨
        key ∈ (calls.filterMap (·.handlerWrite?)).map Prod.fst := by
  have written := isSome_lastWrite_iff key
    (calls.filterMap (·.handlerWrite?))
  have containsEq (registry : Registry) :
      registry.contains key = (registry.handler? key).isSome := rfl
  rw [containsEq, containsEq, extended.handler?_eq, Option.isSome_or,
    Bool.or_eq_true, written, or_comm]
  apply or_congr_right
  constructor
  · rintro ⟨handler, member⟩
    exact List.mem_map.mpr ⟨_, member, rfl⟩
  · intro member
    obtain ⟨⟨_, handler⟩, entryMember, rfl⟩ := List.mem_map.mp member
    exact ⟨handler, entryMember⟩

end GatewayBuilder

/-- Calls fail exactly when registration is strict and one of them gives a
handler to a key that is taken by then, from the beginning or by an earlier
call. -/
theorem BuilderCall.applyAll_eq_error_iff (start : GatewayBuilder)
    (calls : List BuilderCall) (fault : GatewayError) :
    applyAll start calls = .error fault ↔
      start.config.strictRegistration = true ∧
        ∃ before key handler after,
          calls = before ++ .resolver key handler :: after ∧
          (∃ builder, applyAll start before = .ok builder) ∧
          (start.registry.contains key = true ∨
            key ∈ (before.filterMap (·.handlerWrite?)).map Prod.fst) ∧
          fault = .resolver (.duplicateResolver key) := by
  constructor
  · intro failed
    obtain ⟨before, call, after, middle, callsEq, earlier, callFailed⟩ :=
      exists_call_of_error failed
    have extended := GatewayBuilder.extends_applyAll earlier
    obtain ⟨strict, key, handler, rfl, taken, faultEq⟩ :=
      (apply_eq_error_iff _ _ _).mp callFailed
    exact ⟨extended.config_eq ▸ strict, before, key, handler, after, callsEq,
      ⟨middle, earlier⟩, (extended.contains_iff key).mp taken, faultEq⟩
  · rintro ⟨strict, before, key, handler, after, rfl, ⟨middle, earlier⟩,
      taken, faultEq⟩
    have extended := GatewayBuilder.extends_applyAll earlier
    refine applyAll_of_error earlier ?_ after
    exact (apply_eq_error_iff _ _ _).mpr
      ⟨extended.config_eq ▸ strict, key, handler, rfl,
        (extended.contains_iff key).mpr taken, faultEq⟩

end TableGateway

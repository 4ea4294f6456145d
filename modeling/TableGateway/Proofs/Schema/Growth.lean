import TableGateway.Proofs.Schema.Operations

/-!
# What operations make of a compiler

Operations only add to the model of a compiler. Types, inputs and fields keep
their places, and fields are stored under their own names; an operation that
fails leaves everything as it was (`Compiler.runAll_grows`). An operation that is
made twice in a row, while the driver says the same, leaves what it leaves when
it is made once (`CompilerOperation.step_step`).
-/

namespace TableGateway

/-! ## Growth of a model -/

namespace SchemaModel

/-- Nothing was taken from a model and nothing has changed its place in it, and
fields under their own names have stayed so. -/
structure GrowsTo (before after : SchemaModel) : Prop where
  types : before.types.keys <+: after.types.keys
  fields : ∀ typeName,
    (before.fieldsOf typeName).keys <+: (after.fieldsOf typeName).keys
  inputs : before.inputs.keys <+: after.inputs.keys
  inputFields : ∀ input,
    (before.inputFieldsOf input).keys <+: (after.inputFieldsOf input).keys
  named : before.FieldsNamed → after.FieldsNamed

theorem GrowsTo.refl (model : SchemaModel) : model.GrowsTo model where
  types := List.prefix_rfl
  fields _ := List.prefix_rfl
  inputs := List.prefix_rfl
  inputFields _ := List.prefix_rfl
  named := id

theorem GrowsTo.trans {before middle after : SchemaModel}
    (first : before.GrowsTo middle) (second : middle.GrowsTo after) :
    before.GrowsTo after where
  types := first.types.trans second.types
  fields typeName := (first.fields typeName).trans (second.fields typeName)
  inputs := first.inputs.trans second.inputs
  inputFields input :=
    (first.inputFields input).trans (second.inputFields input)
  named := second.named ∘ first.named

/-- A field that is written is written under its own name. -/
theorem FieldsNamed.writeAll {model : SchemaModel}
    (named : model.FieldsNamed) (writes : List ModelWrite) :
    (model.writeAll writes).FieldsNamed := by
  rw [fieldsNamed_iff] at named ⊢
  intro key field found
  rw [fieldAt?_writeAll, Option.or_eq_some_iff] at found
  rcases found with written | ⟨_, kept⟩
  · obtain ⟨change, _, changeWrites⟩ :=
      List.mem_filterMap.mp (mem_of_lastWrite written)
    cases change with
    | field typeName definition =>
        obtain ⟨rfl, rfl⟩ := Prod.mk.inj (Option.some.inj changeWrites)
        rfl
    | type name => cases changeWrites
    | input name => cases changeWrites
    | inputField input name type => cases changeWrites
  · exact named key field kept

theorem growsTo_writeAll (model : SchemaModel) (writes : List ModelWrite) :
    model.GrowsTo (model.writeAll writes) where
  types := by
    rw [types_writeAll, OrderedMap.keys_writeSections]
    exact List.prefix_append _ _
  fields typeName := by
    rw [fieldsOf_writeAll, OrderedMap.keys_insertAll]
    exact List.prefix_append _ _
  inputs := by
    rw [inputs_writeAll, OrderedMap.keys_writeSections]
    exact List.prefix_append _ _
  inputFields input := by
    rw [inputFieldsOf_writeAll, OrderedMap.keys_insertAll]
    exact List.prefix_append _ _
  named named := named.writeAll writes

end SchemaModel

/-! ## One operation -/

namespace CompilerOperation

section Step

variable (catalog : Catalog) (operation : CompilerOperation)
  (compiler : Compiler)

theorem step_grows :
    compiler.model.GrowsTo (operation.step catalog compiler).2.model := by
  cases operation.effect catalog with
  | fails fault cause law =>
      rw [law]
      exact .refl _
  | works work sound law =>
      rw [law]
      exact compiler.model.growsTo_writeAll work.writes
  | renders text kept sound law =>
      rw [law]
      exact .refl _

variable {catalog operation} in
/-- An operation fails with its error, if it has one, and with no other. -/
theorem step_fails_iff {fault : DriverError} :
    (operation.step catalog compiler).1 = .error fault ↔
      operation.FailsWith catalog fault := by
  cases operation.effect catalog with
  | fails actual cause law =>
      rw [law, cause, Except.error.injEq, eq_comm]
  | works work sound law =>
      rw [law]
      exact iff_of_false nofun (sound fault)
  | renders text kept sound law =>
      rw [law]
      exact iff_of_false nofun (sound fault)

variable {catalog operation} in
/-- An operation that fails has changed nothing. -/
theorem step_unchanged {fault : DriverError}
    (failed : operation.FailsWith catalog fault) :
    (operation.step catalog compiler).2 = compiler := by
  cases operation.effect catalog with
  | fails actual cause law => rw [law]
  | works work sound law => exact absurd failed (sound fault)
  | renders text kept sound law => exact absurd failed (sound fault)

/-- A catalog whose second table is unknown: the first one is not compiled
either. -/
example :
    build.step ⟨["customer", "parcel"], fun name =>
        if name = "customer" then .ok ⟨name, [⟨"id", "serial", none⟩], []⟩
        else .error (.unknownTable name),
        fun _ => .ok "Int"⟩ .fresh =
      (.error (.unknownTable "parcel"), .fresh) := rfl

end Step

/-- The same operation once more answers the same and changes nothing. So a
catalog or a table that is compiled once more leaves the model, the report and
the text as they are, all in the same order, even where tables or columns get in
each other's way. -/
theorem step_step (catalog : Catalog) (operation : CompilerOperation)
    (compiler : Compiler) :
    operation.step catalog (operation.step catalog compiler).2 =
      operation.step catalog compiler := by
  cases operation.effect catalog with
  | fails fault cause law => rw [law compiler, law compiler]
  | works work sound law => rw [law, law, Compiler.carryOut_carryOut]
  | renders text kept sound law => rw [law, law, kept]

end CompilerOperation

/-! ## Many operations -/

theorem Compiler.growsTo_runAll (compiler : Compiler)
    (requests : List CompilerRequest) :
    compiler.model.GrowsTo (compiler.runAll requests).model := by
  induction requests generalizing compiler with
  | nil => exact .refl _
  | cons request rest inductionHypothesis =>
      exact (request.operation.step_grows request.catalog compiler).trans
        (inductionHypothesis _)

/-- Whatever is asked of a compiler, its model only grows, and that of a fresh
one has all fields under their own names. At any time an operation fails exactly
with the error of the first table that it needs and that cannot be told about,
and then it changes nothing: not the model, not the report and not the text. -/
theorem Compiler.runAll_grows (requests : List CompilerRequest)
    (compiler : Compiler) :
    compiler.model.GrowsTo (compiler.runAll requests).model ∧
    (fresh.runAll requests).model.FieldsNamed ∧
    ∀ catalog operation fault,
      ((CompilerOperation.step catalog operation
          (compiler.runAll requests)).1 = .error fault ↔
        operation.FailsWith catalog fault) ∧
      (operation.FailsWith catalog fault →
        (operation.step catalog (compiler.runAll requests)).2 =
          compiler.runAll requests) := by
  have freshNamed : fresh.model.FieldsNamed := by decide
  refine ⟨compiler.growsTo_runAll requests,
    (fresh.growsTo_runAll requests).named freshNamed, ?_⟩
  intro catalog operation fault
  exact ⟨CompilerOperation.step_fails_iff _,
    CompilerOperation.step_unchanged _⟩

end TableGateway

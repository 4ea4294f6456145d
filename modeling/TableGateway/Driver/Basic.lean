import TableGateway.Arguments
import TableGateway.Driver.Metadata

/-!
# Drivers

A driver answers for a database: it tells about its structure, and it reads and
writes records. Requests for records are values, so that what a resolver asks
for can be spoken of apart from the driver that answers. A request does nothing
until it is polled, and it is polled until it is answered; a driver that answers
at once leaves the fields `delay` and `work` as they are.
-/

namespace TableGateway

/-- A request for the records of a table, or for what identifies them. -/
inductive DataRequest where
  | primaryKey (table : String)
  | pageTotal (table : String) (arguments : ParsedArguments)
  | page (table : String) (arguments : ParsedArguments)
  | firstOf (table : String) (arguments : ParsedArguments)
  | putItem (table : String) (input : Members)

/-- What a request is answered by unless it fails: the name of the key column,
the number of records, some records, perhaps one record, or the identifiers of
the records that a write has added. -/
abbrev DataRequest.Answer : DataRequest → Type
  | primaryKey _ => String
  | pageTotal _ _ => Nat
  | page _ _ => List Json
  | firstOf _ _ => Option Json
  | putItem _ _ => List Json

/-- How long a request has to be polled. Whether the next poll brings the answer
may depend on the state that it finds. -/
inductive Delay (State : Type) where
  | ended
  | more (resume : State → Delay State)

/-- A driver for databases with a given type of states. A request for records is
answered in the state that the last of its polls finds. -/
structure Driver (State : Type) where
  /-- The structure of the database. -/
  catalog : State → Catalog
  /-- The column that identifies the records of a table. -/
  primaryKey : String → State → Except DriverError String
  /-- The number of records that arguments select. -/
  pageTotal : String → ParsedArguments → State →
    Except DriverError Nat × State
  /-- The page of records that arguments select. -/
  page : String → ParsedArguments → State →
    Except DriverError (List Json) × State
  /-- The first record that arguments select. -/
  firstOf : String → ParsedArguments → State →
    Except DriverError (Option Json) × State
  /-- Write a record and report the identifiers given to new ones. -/
  putItem : String → Members → State →
    Except DriverError (List Json) × State
  /-- The delay of a request whose first poll finds a state. -/
  delay : DataRequest → State → Delay State := fun _ _ => .ended
  /-- The state behind a poll that brings no answer, with all that others have
  done to it in the meantime. -/
  work : DataRequest → State → State := fun _ state => state

namespace Driver

variable {State : Type}

/-- The delay of any request. The key column is told without a poll. -/
def delayOf (driver : Driver State) : DataRequest → State → Delay State
  | .primaryKey _, _ => .ended
  | request, state => driver.delay request state

/-- Some state finds a request with a delay. -/
def Delays (driver : Driver State) (request : DataRequest) : Prop :=
  ∃ state, driver.delayOf request state ≠ .ended

/-- What the last poll of a request brings, and the state behind it. -/
def answer (driver : Driver State) :
    (request : DataRequest) → State →
      Except DriverError request.Answer × State
  | .primaryKey table, state => (driver.primaryKey table state, state)
  | .pageTotal table arguments, state =>
      driver.pageTotal table arguments state
  | .page table arguments, state => driver.page table arguments state
  | .firstOf table arguments, state => driver.firstOf table arguments state
  | .putItem table input, state => driver.putItem table input state

end Driver

end TableGateway

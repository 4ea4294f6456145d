import TableGateway.Driver.Basic
import TableGateway.Resolver.Authorizer

/-!
# Programs of resolvers

What a handler does is a value: a tree of requests to the driver, of calls to
other resolvers, and of changes of the authorizer, each followed by what is
done with the answer. Nothing happens until a program is run in a session.
-/

namespace TableGateway

/-- A computation that may use the driver and the resolver map. -/
inductive Program (result : Type) where
  /-- Stop with a result. -/
  | done (value : result)
  /-- Look at the structure of the database. -/
  | inspect (next : Catalog → Program result)
  /-- Put a request to the driver and wait for the answer. -/
  | ask (request : DataRequest)
      (next : Except DriverError request.Answer → Program result)
  /-- Put two requests to the driver and wait for both answers, or for the first
  failure. -/
  | join (first second : DataRequest)
      (next : Except DriverError (first.Answer × second.Answer) →
        Program result)
  /-- Resolve another field through the same resolver map. -/
  | resolve (call : FieldCall) (next : Outcome → Program result)
  /-- Put another authorizer in charge. -/
  | install (authorizer : Authorizer) (next : Program result)
  /-- Leave a note. -/
  | note (text : String) (next : Program result)

namespace Program

/-- Run one program after another. -/
def bind {first second : Type} :
    Program first → (first → Program second) → Program second
  | done value, continuation => continuation value
  | inspect next, continuation =>
      inspect fun catalog => (next catalog).bind continuation
  | ask request next, continuation =>
      ask request fun answer => (next answer).bind continuation
  | join first second next, continuation =>
      join first second fun answers => (next answers).bind continuation
  | resolve call next, continuation =>
      resolve call fun outcome => (next outcome).bind continuation
  | install authorizer next, continuation =>
      install authorizer (next.bind continuation)
  | note text next, continuation =>
      note text (next.bind continuation)

/-- Stop with a value. -/
def answer (value : Json) : Program Outcome :=
  done (.ok value)

/-- Stop with an error. -/
def fail (fault : ResolverError) : Program Outcome :=
  done (.error fault)

/-- Put a request to the driver and go on with its answer; an error of the
driver is the result. -/
def attempt (request : DataRequest)
    (next : request.Answer → Program Outcome) : Program Outcome :=
  ask request fun
    | .error fault => fail (.driver fault)
    | .ok answer => next answer

/-- Put two requests to the driver at the same time and go on with both answers;
the first error of the driver is the result, and the other request is given
up. -/
def attemptBoth (first second : DataRequest)
    (next : first.Answer → second.Answer → Program Outcome) :
    Program Outcome :=
  join first second fun
    | .error fault => fail (.driver fault)
    | .ok (answer, other) => next answer other

/-- Read the arguments of a field and go on with them; an error of an
expression is the result. -/
def withArguments (table : String) (arguments : Arguments)
    (next : ParsedArguments → Program Outcome) : Program Outcome :=
  match ParsedArguments.parse table arguments with
  | .error fault => fail (.expression fault)
  | .ok parsed => next parsed

end Program

/-- What answers for a field. -/
abbrev Handler := Invocation → Program Outcome

end TableGateway

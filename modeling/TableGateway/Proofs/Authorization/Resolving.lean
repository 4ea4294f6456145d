import TableGateway.Proofs.Authorization.Audit
import TableGateway.Proofs.Resolver.Polling

/-!
# What resolving leaves behind

Four facts about every call of a resolver map, at every depth and from every
session: the trail goes on in an audited way, nothing is taken away from it, a
result does not change when calls may nest deeper, and the handlers of the map
matter only for the invocations that they were entered with. Each is proved for
programs first, from the same fact about nested calls, and then for calls by
induction on the depth.
-/

namespace TableGateway

section Auditing

variable {State : Type} {driver : Driver State} {start : AuditState State}

/-- The trail of a session is admitted, and no decision is waiting. -/
def Session.Audited (driver : Driver State) (start : AuditState State)
    (session : Session State) (running : List Invocation) : Prop :=
  AuditRun driver start session.trail
    ⟨session.database, session.authorizer, none, running⟩

/-- A result whose trail is audited. Where there is no result, some of the
handlers that were entered on the way have not been left. -/
def AuditedResult {result : Type} (driver : Driver State)
    (start : AuditState State) (running : List Invocation) :
    Option result × Session State → Prop
  | (some _, session) => session.Audited driver start running
  | (none, session) =>
      ∃ inner, session.Audited driver start (inner ++ running)

namespace Session.Audited

variable {session : Session State} {running : List Invocation}

theorem install (audited : session.Audited driver start running)
    (authorizer : Authorizer) :
    (session.install authorizer).Audited driver start running :=
  AuditRun.snoc audited (.installed authorizer)

theorem check (audited : session.Audited driver start running)
    (invocation : Invocation) :
    AuditRun driver start (session.check invocation).2.trail
      ⟨session.database, (session.check invocation).2.authorizer,
        some ⟨session.authorizer, invocation⟩, running⟩ := by
  have decided := AuditRun.snoc audited (.checked invocation)
  unfold Session.check
  cases session.authorizer.successor invocation with
  | none => exact decided
  | some successor => exact decided.snoc (.installed successor)

theorem refuse (audited : session.Audited driver start running)
    {invocation : Invocation}
    (refused : session.authorizer.validate invocation = false) :
    ((session.check invocation).2.record
      (.refused session.authorizer invocation)).Audited
        driver start running := by
  have decided := audited.check invocation
  rw [← session.database_check invocation] at decided
  exact decided.snoc (.refused refused)

theorem enter (audited : session.Audited driver start running)
    {invocation : Invocation}
    (allowed : session.authorizer.validate invocation = true) :
    ((session.check invocation).2.record (.entered invocation)).Audited
      driver start (invocation :: running) := by
  have decided := audited.check invocation
  rw [← session.database_check invocation] at decided
  exact decided.snoc (.entered allowed)

variable {invocation : Invocation} {outer : List Invocation}
  {request first second : DataRequest}

/-- A poll without an answer. -/
theorem wait (audited : session.Audited driver start (invocation :: outer))
    (delays : driver.Delays request) :
    (session.wait driver request).Audited driver start
      (invocation :: outer) :=
  AuditRun.snoc audited (.waited delays)

/-- A poll with an answer. -/
theorem receive
    (audited : session.Audited driver start (invocation :: outer))
    (request : DataRequest) :
    (session.receive driver request).2.Audited driver start
      (invocation :: outer) :=
  AuditRun.snoc audited (.requested request)

theorem await {delay : Delay State}
    (audited : session.Audited driver start (invocation :: outer))
    (delays : delay ≠ .ended → driver.Delays request) :
    (session.await driver request delay).2.Audited driver start
      (invocation :: outer) := by
  induction delay generalizing session with
  | ended => exact audited.receive request
  | more resume inductionHypothesis =>
      have delaysOn := delays (by simp)
      exact inductionHypothesis _ (audited.wait delaysOn) fun _ => delaysOn

theorem ask (audited : session.Audited driver start (invocation :: outer))
    (request : DataRequest) :
    (session.ask driver request).2.Audited driver start
      (invocation :: outer) :=
  audited.await fun delayed => ⟨_, delayed⟩

theorem takeTurns {delay : Delay State} {resume : State → Delay State}
    (audited : session.Audited driver start (invocation :: outer))
    (firstDelays : delay ≠ .ended → driver.Delays first)
    (secondDelays : ∀ state, resume state ≠ .ended → driver.Delays second) :
    (session.takeTurns driver first second delay resume).2.Audited
      driver start (invocation :: outer) := by
  induction delay generalizing session resume with
  | ended =>
      have received := audited.receive first
      unfold Session.takeTurns
      cases answered : session.receive driver first with
      | mk result after =>
          rw [answered] at received
          cases result with
          | error fault => exact received
          | ok answer => exact received.await (secondDelays _)
  | more resumeFirst inductionHypothesis =>
      have firstDelaysOn := firstDelays (by simp)
      have waited := audited.wait firstDelaysOn
      unfold Session.takeTurns
      dsimp only
      cases turn : resume (session.wait driver first).database with
      | ended =>
          have received := waited.receive second
          dsimp only
          cases answered :
              (session.wait driver first).receive driver second with
          | mk result after =>
              rw [answered] at received
              cases result with
              | error fault => exact received
              | ok answer => exact received.await fun _ => firstDelaysOn
      | more resumeLater =>
          have secondDelaysOn :=
            secondDelays (session.wait driver first).database
              (by simp [turn])
          exact inductionHypothesis _ (waited.wait secondDelaysOn)
            (fun _ => firstDelaysOn) fun _ _ => secondDelaysOn

theorem join (audited : session.Audited driver start (invocation :: outer))
    (first second : DataRequest) :
    (session.join driver first second).2.Audited driver start
      (invocation :: outer) :=
  audited.takeTurns (fun delayed => ⟨_, delayed⟩)
    fun _ delayed => ⟨_, delayed⟩

end Session.Audited

/-- Leaving a handler gives its place back to those around it. -/
theorem AuditedResult.leave {result : Type} {running : List Invocation}
    {invocation : Invocation}
    {outcome : Option result × Session State}
    (audited :
      AuditedResult driver start (invocation :: running) outcome) :
    AuditedResult driver start running
      (Session.leave invocation outcome) := by
  obtain ⟨value, session⟩ := outcome
  cases value with
  | none =>
      obtain ⟨inner, sessionAudited⟩ := audited
      exact ⟨inner ++ [invocation], by simpa using sessionAudited⟩
  | some value => exact AuditRun.snoc audited .left

theorem Program.audited_run {nested : NestedResolve State}
    (nestedAudited : ∀ call session running,
      session.Audited driver start running →
        AuditedResult driver start running (nested call session))
    {result : Type} (program : Program result)
    {invocation : Invocation} {outer : List Invocation}
    {session : Session State}
    (audited : session.Audited driver start (invocation :: outer)) :
    AuditedResult driver start (invocation :: outer)
      (program.run driver nested session) := by
  induction program generalizing session with
  | done value => exact audited
  | inspect next inductionHypothesis =>
      exact inductionHypothesis _ audited
  | ask request next inductionHypothesis =>
      exact inductionHypothesis _ (audited.ask request)
  | join first second next inductionHypothesis =>
      exact inductionHypothesis _ (audited.join first second)
  | resolve call next inductionHypothesis =>
      have nestedResult := nestedAudited call session _ audited
      unfold Program.run
      cases outcomeEq : nested call session with
      | mk outcome after =>
          rw [outcomeEq] at nestedResult
          cases outcome with
          | none => exact nestedResult
          | some value => exact inductionHypothesis value nestedResult
  | install authorizer next inductionHypothesis =>
      exact inductionHypothesis (audited.install authorizer)
  | note text next inductionHypothesis =>
      exact inductionHypothesis (AuditRun.snoc audited (.noted text))

theorem ResolverMap.audited_resolve (map : ResolverMap) (depth : Nat)
    (call : FieldCall) (session : Session State)
    (running : List Invocation)
    (audited : session.Audited driver start running) :
    AuditedResult driver start running
      (map.resolve driver depth call session) := by
  induction depth generalizing call session running with
  | zero => exact ⟨[], audited⟩
  | succ depth inductionHypothesis =>
      cases found : map.handler? call.key with
      | none =>
          rw [ResolverMap.resolve_of_absent driver found]
          exact audited
      | some handler =>
          cases decision :
              session.authorizer.validate (map.invocation call) with
          | false =>
              rw [ResolverMap.resolve_of_refused driver found decision]
              exact audited.refuse decision
          | true =>
              rw [ResolverMap.resolve_of_allowed driver found decision]
              apply AuditedResult.leave
              exact Program.audited_run inductionHypothesis _
                (audited.enter decision)

end Auditing

/-! ## The trail only grows -/

section Growth

variable {State : Type}

theorem Session.trail_prefix_record
    (session : Session State) (event : AuditEvent) :
    session.trail <+: (session.record event).trail :=
  List.prefix_append _ _

theorem Session.trail_prefix_check
    (session : Session State) (invocation : Invocation) :
    session.trail <+: (session.check invocation).2.trail := by
  unfold Session.check
  cases session.authorizer.successor invocation with
  | none => exact session.trail_prefix_record _
  | some successor =>
      exact (session.trail_prefix_record _).trans
        (Session.trail_prefix_record _ _)

theorem Session.trail_prefix_leave {result : Type}
    (invocation : Invocation) (outcome : Option result × Session State) :
    outcome.2.trail <+: (Session.leave invocation outcome).2.trail := by
  obtain ⟨value, session⟩ := outcome
  cases value with
  | none => exact List.prefix_refl _
  | some value => exact session.trail_prefix_record _

theorem Program.trail_prefix_run (driver : Driver State)
    {nested : NestedResolve State}
    (nestedGrows : ∀ call session,
      session.trail <+: (nested call session).2.trail)
    {result : Type} (program : Program result) (session : Session State) :
    session.trail <+: (program.run driver nested session).2.trail := by
  induction program generalizing session with
  | done value => exact List.prefix_refl _
  | inspect next inductionHypothesis =>
      exact inductionHypothesis _ session
  | ask request next inductionHypothesis =>
      have asked : session.PolledSince (fun _ => True)
          (session.ask driver request).2 :=
        session.polledSince_ask driver trivial
      exact asked.trail_prefix.trans (inductionHypothesis _ _)
  | join first second next inductionHypothesis =>
      have joined : session.PolledSince (fun _ => True)
          (session.join driver first second).2 :=
        session.polledSince_join driver trivial trivial
      exact joined.trail_prefix.trans (inductionHypothesis _ _)
  | resolve call next inductionHypothesis =>
      have grown := nestedGrows call session
      unfold Program.run
      cases outcomeEq : nested call session with
      | mk outcome after =>
          rw [outcomeEq] at grown
          cases outcome with
          | none => exact grown
          | some value => exact grown.trans (inductionHypothesis value _)
  | install authorizer next inductionHypothesis =>
      have installed : session.trail <+: (session.install authorizer).trail :=
        List.prefix_append _ _
      exact installed.trans (inductionHypothesis _)
  | note text next inductionHypothesis =>
      exact (session.trail_prefix_record _).trans (inductionHypothesis _)

theorem ResolverMap.trail_prefix_resolve (driver : Driver State)
    (map : ResolverMap) (depth : Nat) (call : FieldCall) (session : Session State) :
    session.trail <+: (map.resolve driver depth call session).2.trail := by
  induction depth generalizing call session with
  | zero => exact List.prefix_refl _
  | succ depth inductionHypothesis =>
      have checked := session.trail_prefix_check (map.invocation call)
      cases found : map.handler? call.key with
      | none =>
          simp only [ResolverMap.resolve_of_absent driver found,
            List.prefix_refl]
      | some handler =>
          cases decision :
              session.authorizer.validate (map.invocation call) with
          | false =>
              rw [ResolverMap.resolve_of_refused driver found decision]
              exact checked.trans (Session.trail_prefix_record _ _)
          | true =>
              rw [ResolverMap.resolve_of_allowed driver found decision]
              refine List.IsPrefix.trans ?_ (Session.trail_prefix_leave _ _)
              exact (checked.trans (Session.trail_prefix_record _ _)).trans
                (Program.trail_prefix_run driver inductionHypothesis _ _)

end Growth

/-! ## Depth -/

section Depth

variable {State : Type}

theorem Program.run_eq_of_finished (driver : Driver State)
    {nested deeper : NestedResolve State}
    (nestedEq : ∀ call session,
      (nested call session).1 ≠ none →
        deeper call session = nested call session)
    {result : Type} (program : Program result) (session : Session State)
    (finished : (program.run driver nested session).1 ≠ none) :
    program.run driver deeper session =
      program.run driver nested session := by
  induction program generalizing session with
  | done value => rfl
  | inspect next inductionHypothesis =>
      exact inductionHypothesis _ session finished
  | ask request next inductionHypothesis =>
      exact inductionHypothesis _ _ finished
  | join first second next inductionHypothesis =>
      exact inductionHypothesis _ _ finished
  | resolve call next inductionHypothesis =>
      unfold Program.run at finished ⊢
      have callEq := nestedEq call session
      cases outcomeEq : nested call session with
      | mk outcome after =>
          rw [outcomeEq] at finished callEq
          cases outcome with
          | none => exact absurd rfl finished
          | some value =>
              rw [callEq (by simp)]
              exact inductionHypothesis value after finished
  | install authorizer next inductionHypothesis =>
      exact inductionHypothesis _ finished
  | note text next inductionHypothesis =>
      exact inductionHypothesis _ finished

theorem Session.leave_fst {result : Type} (invocation : Invocation)
    (outcome : Option result × Session State) :
    (Session.leave invocation outcome).1 = outcome.1 := by
  obtain ⟨value, session⟩ := outcome
  cases value with
  | none => rfl
  | some value => rfl

/-- A call that has a result has the same one when it may nest deeper. -/
theorem ResolverMap.resolve_succ_of_finished (driver : Driver State)
    (map : ResolverMap) (depth : Nat) (call : FieldCall)
    (session : Session State)
    (finished : (map.resolve driver depth call session).1 ≠ none) :
    map.resolve driver (depth + 1) call session =
      map.resolve driver depth call session := by
  induction depth generalizing call session with
  | zero => exact absurd rfl finished
  | succ depth inductionHypothesis =>
      cases found : map.handler? call.key with
      | none =>
          rw [ResolverMap.resolve_of_absent driver found,
            ResolverMap.resolve_of_absent driver found]
      | some handler =>
          cases decision :
              session.authorizer.validate (map.invocation call) with
          | false =>
              rw [ResolverMap.resolve_of_refused driver found decision,
                ResolverMap.resolve_of_refused driver found decision]
          | true =>
              rw [ResolverMap.resolve_of_allowed driver found decision]
                at finished ⊢
              rw [ResolverMap.resolve_of_allowed driver found decision]
              rw [Session.leave_fst] at finished
              rw [Program.run_eq_of_finished driver inductionHypothesis
                _ _ finished]

theorem ResolverMap.resolve_of_le (driver : Driver State)
    (map : ResolverMap) {depth deeper : Nat} (order : depth ≤ deeper)
    (call : FieldCall) (session : Session State)
    (finished : (map.resolve driver depth call session).1 ≠ none) :
    map.resolve driver deeper call session =
      map.resolve driver depth call session := by
  induction order with
  | refl => rfl
  | step _ inductionHypothesis =>
      rw [map.resolve_succ_of_finished driver _ call session
        (inductionHypothesis ▸ finished), inductionHypothesis]

end Depth

/-! ## The handlers that matter -/

section Agreement

variable {State : Type} {used : Invocation → Prop}

/-- Two maps with the same keys whose handlers do the same for certain
invocations of their own keys. What a handler does for any other invocation is
left open. -/
structure ResolverMap.AgreesOn (used : Invocation → Prop)
    (map other : ResolverMap) : Prop where
  keys : other.keys = map.keys
  defaultLimit : other.defaultLimit = map.defaultLimit
  handlers : ∀ key handler, map.handler? key = some handler →
    ∃ replacement, other.handler? key = some replacement ∧
      ∀ invocation, used invocation → invocation.call.key = key →
        replacement invocation = handler invocation

namespace ResolverMap.AgreesOn

variable {map other : ResolverMap}

theorem invocation (agreement : map.AgreesOn used other)
    (call : FieldCall) :
    other.invocation call = map.invocation call := by
  unfold ResolverMap.invocation
  rw [agreement.keys, agreement.defaultLimit]

theorem absent (agreement : map.AgreesOn used other) {key : ResolverKey}
    (absent : map.handler? key = none) :
    other.handler? key = none := by
  have notMember : key ∉ map.keys := by
    intro member
    have present := (HandlerTable.mem_allKeys_iff _ _).mp member
    unfold HandlerTable.hasKey at present
    rw [show HandlerTable.handler? map.handlers key = none from absent]
      at present
    cases present
  rw [← agreement.keys] at notMember
  have missing :=
    fun present =>
      notMember ((HandlerTable.mem_allKeys_iff _ _).mpr present)
  unfold HandlerTable.hasKey at missing
  exact Option.not_isSome_iff_eq_none.mp missing

end ResolverMap.AgreesOn

theorem Program.run_eq_of_nested_eq (driver : Driver State)
    {nested other : NestedResolve State}
    (nestedGrows : ∀ call session,
      session.trail <+: (nested call session).2.trail)
    (nestedEq : ∀ call session,
      (∀ invocation,
        .entered invocation ∈ (nested call session).2.trail →
          used invocation) →
      other call session = nested call session)
    {result : Type} (program : Program result) (session : Session State)
    (enteredUsed : ∀ invocation,
      .entered invocation ∈
          (program.run driver nested session).2.trail →
        used invocation) :
    program.run driver other session =
      program.run driver nested session := by
  induction program generalizing session with
  | done value => rfl
  | inspect next inductionHypothesis =>
      exact inductionHypothesis _ session enteredUsed
  | ask request next inductionHypothesis =>
      exact inductionHypothesis _ _ enteredUsed
  | join first second next inductionHypothesis =>
      exact inductionHypothesis _ _ enteredUsed
  | resolve call next inductionHypothesis =>
      unfold Program.run at enteredUsed ⊢
      have callEq := nestedEq call session
      cases outcomeEq : nested call session with
      | mk outcome after =>
          rw [outcomeEq] at enteredUsed callEq
          cases outcome with
          | none => rw [callEq enteredUsed]
          | some value =>
              have grown :=
                Program.trail_prefix_run driver nestedGrows
                  (next value) after
              rw [callEq fun invocation entered =>
                enteredUsed invocation (grown.subset entered)]
              exact inductionHypothesis value after enteredUsed
  | install authorizer next inductionHypothesis =>
      exact inductionHypothesis _ enteredUsed
  | note text next inductionHypothesis =>
      exact inductionHypothesis _ enteredUsed

/-- A call comes to the same through two maps that agree on the invocations
whose handlers were entered through one of them. -/
theorem ResolverMap.resolve_eq_of_agreesOn (driver : Driver State)
    {map other : ResolverMap} (agreement : map.AgreesOn used other) (depth : Nat)
    (call : FieldCall) (session : Session State)
    (enteredUsed : ∀ invocation,
      .entered invocation ∈
          (map.resolve driver depth call session).2.trail →
        used invocation) :
    other.resolve driver depth call session =
      map.resolve driver depth call session := by
  induction depth generalizing call session with
  | zero => rfl
  | succ depth inductionHypothesis =>
      cases found : map.handler? call.key with
      | none =>
          rw [ResolverMap.resolve_of_absent driver found,
            ResolverMap.resolve_of_absent driver (agreement.absent found)]
      | some handler =>
          obtain ⟨replacement, otherFound, sameProgram⟩ :=
            agreement.handlers call.key handler found
          have invocationEq := agreement.invocation call
          cases decision :
              session.authorizer.validate (map.invocation call) with
          | false =>
              rw [ResolverMap.resolve_of_refused driver found decision,
                ResolverMap.resolve_of_refused driver otherFound
                  (invocationEq ▸ decision), invocationEq]
          | true =>
              rw [ResolverMap.resolve_of_allowed driver found decision]
                at enteredUsed ⊢
              rw [ResolverMap.resolve_of_allowed driver otherFound
                (invocationEq ▸ decision), invocationEq]
              have runGrows :=
                Program.trail_prefix_run driver
                  (map.trail_prefix_resolve driver depth)
                  (handler (map.invocation call))
                  ((session.check (map.invocation call)).2.record
                    (.entered (map.invocation call)))
              have leaveGrows :=
                Session.trail_prefix_leave (map.invocation call)
                  ((handler (map.invocation call)).run driver
                    (map.resolve driver depth)
                    ((session.check (map.invocation call)).2.record
                      (.entered (map.invocation call))))
              have invocationUsed : used (map.invocation call) := by
                apply enteredUsed
                apply (runGrows.trans leaveGrows).subset
                exact List.mem_append_right _ (List.mem_singleton.mpr rfl)
              rw [sameProgram (map.invocation call) invocationUsed rfl,
                Program.run_eq_of_nested_eq driver
                  (map.trail_prefix_resolve driver depth)
                  inductionHypothesis]
              intro invocation entered
              exact enteredUsed invocation (leaveGrows.subset entered)

end Agreement

end TableGateway

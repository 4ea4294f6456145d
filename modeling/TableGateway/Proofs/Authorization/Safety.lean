import TableGateway.Proofs.Authorization.Runs
import TableGateway.Store.Basic

/-!
# Authorization is safe

The main statement is `runAll_authorized`, about every run of any commands. It is
put together from the facts about runs and from the three laws of a single call.
-/

namespace TableGateway

variable {State : Type}

/-- What a call of a map comes to in a session: to nothing but an error if its key
has no handler, to the answer of the authorizer in charge when it begins if that
one refuses it, and otherwise to what the handler of its key does. -/
structure ResolverMap.IsGuarded (driver : Driver State) (map : ResolverMap)
    (call : FieldCall) (session : Session State) (nesting : Nat) : Prop where
  absent : map.handler? call.key = none →
    map.resolve driver (nesting + 1) call session =
      (some (.error (.notFound call.key)), session)
  refused : ∀ handler, map.handler? call.key = some handler →
    session.authorizer.validate (map.invocation call) = false →
    ∃ (after : Session State) (changes : List Authorizer),
      map.resolve driver (nesting + 1) call session =
        (some (session.authorizer.rejected (map.invocation call)), after) ∧
      after.database = session.database ∧
      after.trail =
        session.trail ++
          .checked session.authorizer (map.invocation call) false ::
          changes.map .installed ++
          [.refused session.authorizer (map.invocation call)]
  allowed : ∀ handler, map.handler? call.key = some handler →
    session.authorizer.validate (map.invocation call) = true →
    map.resolve driver (nesting + 1) call session =
      Session.leave (map.invocation call)
        ((handler (map.invocation call)).run driver
          (map.resolve driver nesting)
          ((session.check (map.invocation call)).2.record
            (.entered (map.invocation call))))

/-- Every call is guarded by the authorizer in charge. -/
theorem ResolverMap.isGuarded (driver : Driver State) (map : ResolverMap)
    (call : FieldCall) (session : Session State) (nesting : Nat) :
    map.IsGuarded driver call session nesting where
  absent missing :=
    ResolverMap.resolve_of_absent driver missing nesting session
  refused handler found refused := by
    obtain ⟨changes, trailEq⟩ := session.trail_check (map.invocation call)
    refine ⟨_, changes,
      ResolverMap.resolve_of_refused driver found refused nesting,
      session.database_check _, ?_⟩
    rw [refused] at trailEq
    rw [Session.trail_record, trailEq]
  allowed handler found allowed :=
    ResolverMap.resolve_of_allowed driver found allowed nesting

namespace GatewayCommand

/-- A run of commands, from a fresh session to a final one, in which nothing is
done without authorization. -/
structure RunsAuthorized (driver : Driver State) (depth : Nat)
    (database : State) (authorizer : Authorizer)
    (commands : List GatewayCommand) (final : Session State) : Prop where
  /-- The trail is admitted, so that the database changes only by the requests of
  handlers that are running, and a handler runs only on a decision that was made
  when its call began. -/
  audited : ∃ running,
    final.Audited driver ⟨database, authorizer, none, []⟩ running
  /-- The event before a handler is entered, changes of the authorizer apart, is
  the decision of the authorizer then in charge to allow the same invocation. -/
  checked_before : ∀ before invocation after,
    final.trail = before ++ .entered invocation :: after →
    ∃ (earlier : List AuditEvent) (changes : List Authorizer),
      before =
        earlier ++
          .checked (inChargeAfter authorizer earlier) invocation true ::
          changes.map .installed ∧
      (inChargeAfter authorizer earlier).validate invocation = true
  /-- Every request comes from inside a handler that was entered before. -/
  requested_inside : ∀ before request after,
    final.trail = before ++ .requested request :: after →
    ∃ place invocation outer,
      AuditRun driver ⟨database, authorizer, none, []⟩ before place ∧
        place.running = invocation :: outer ∧
        .entered invocation ∈ before
  /-- Handlers play no part in the run except for the invocations that are entered
  under their own keys. -/
  depends_on_entered : ∀ others,
    List.Forall₂
      (AgreesOn fun invocation => .entered invocation ∈ final.trail)
      commands others →
    runAll driver depth others (.start database authorizer) =
      runAll driver depth commands (.start database authorizer)
  /-- Every call, from every session, is guarded. -/
  guarded : ∀ (map : ResolverMap) (call : FieldCall)
    (session : Session State) (nesting : Nat),
    map.IsGuarded driver call session nesting

/-- Every run of any commands from a fresh session is authorized, whatever the
driver, the database and the first authorizer are. -/
theorem runAll_authorized (driver : Driver State) (depth : Nat)
    (database : State) (authorizer : Authorizer)
    (commands : List GatewayCommand) :
    RunsAuthorized driver depth database authorizer commands
      (runAll driver depth commands (.start database authorizer)).2 := by
  let start : Session State := .start database authorizer
  have startAudited :
      start.Audited driver ⟨database, authorizer, none, []⟩ [] :=
    AuditRun.nil
  obtain ⟨running, finalAudited⟩ :=
    audited_runAll depth commands startAudited
  refine ⟨⟨running, finalAudited⟩, ?checked, ?requested, ?depends, ?guarded⟩
  case checked =>
    intro before invocation after trailEq
    unfold Session.Audited at finalAudited
    rw [trailEq] at finalAudited
    exact finalAudited.checked_of_entered rfl
  case requested =>
    intro before request after trailEq
    unfold Session.Audited at finalAudited
    rw [trailEq] at finalAudited
    exact finalAudited.running_of_requested rfl
  case depends =>
    intro others agreement
    exact runAll_eq_of_agreesOn agreement fun _ entered => entered
  case guarded =>
    exact fun map call session nesting =>
      map.isGuarded driver call session nesting

/-! ## A refused delegation -/

/-- Two handlers, of which the open one delegates to the secret one. -/
def delegation (secretAnswer : Json) : ResolverMap where
  handlers :=
    HandlerTable.put
      (HandlerTable.put .empty ⟨"Query", "open"⟩ fun invocation =>
        .ask (.primaryKey "t") fun _ =>
          .resolve { invocation.call with key := ⟨"Query", "secret"⟩ } .done)
      ⟨"Query", "secret"⟩ fun _ => .answer secretAnswer
  defaultLimit := none

theorem agreesOn_delegation {used : Invocation → Prop} (left right : Json)
    (unused : ∀ invocation, used invocation →
      invocation.call.key ≠ ⟨"Query", "secret"⟩) :
    (delegation left).AgreesOn used (delegation right) where
  keys := rfl
  defaultLimit := rfl
  handlers := by
    intro key handler found
    unfold ResolverMap.handler? delegation at found ⊢
    rw [HandlerTable.handler?_put] at found ⊢
    by_cases secret : key = ⟨"Query", "secret"⟩
    · refine ⟨_, if_pos secret, ?_⟩
      intro invocation isUsed keyEq
      exact absurd (keyEq.trans secret) (unused invocation isUsed)
    · rw [if_neg secret] at found ⊢
      exact ⟨handler, found, fun _ _ _ => rfl⟩

/-- A delegated call is refused although the call around it is allowed. -/
theorem runAll_authorized_delegation :
    let map := delegation (.bool true)
    let call (field : String) : FieldCall :=
      ⟨⟨"Query", field⟩, .null, [], ⟨[], []⟩⟩
    let invocation := map.invocation (call "open")
    let refused := map.invocation (call "secret")
    let guard :=
      Authorizer.ofTest fun invocation => invocation.call.key.field == "open"
    let start : Session Store := .start .empty guard
    let commands := [GatewayCommand.resolve map (call "open")]
    let final := (runAll Store.driver 2 commands start).2
    final.trail =
      [.checked guard invocation true, .entered invocation,
        .requested (.primaryKey "t"), .checked guard refused false,
        .refused guard refused, .left invocation] ∧
    (∃ (earlier : List AuditEvent) (changes : List Authorizer),
      [.checked guard invocation true] =
        earlier ++
          .checked (inChargeAfter guard earlier) invocation true ::
          changes.map .installed ∧
      (inChargeAfter guard earlier).validate invocation = true) ∧
    (∃ place inner outer,
      AuditRun Store.driver ⟨.empty, guard, none, []⟩
          [.checked guard invocation true, .entered invocation] place ∧
        place.running = inner :: outer ∧
        .entered inner ∈
          [AuditEvent.checked guard invocation true, .entered invocation]) ∧
    runAll Store.driver 2
        [.resolve (delegation (.bool false)) (call "open")] start =
      runAll Store.driver 2 commands start ∧
    (map.resolve Store.driver 1 (call "missing") start).1 =
      some (.error (.notFound ⟨"Query", "missing"⟩)) ∧
    (map.resolve Store.driver 1 (call "secret") start).1 =
      some (.ok .null) ∧
    (map.resolve Store.driver 2 (call "open") start).1 = some (.ok .null) := by
  intro map call invocation refused guard start commands final
  have authorized :=
    runAll_authorized Store.driver 2 .empty guard commands
  have trailEq : final.trail =
      [.checked guard invocation true, .entered invocation,
        .requested (.primaryKey "t"), .checked guard refused false,
        .refused guard refused, .left invocation] := rfl
  refine ⟨trailEq, ?_, ?_, ?_, ?_, ?_, ?_⟩
  · exact authorized.checked_before [.checked guard invocation true]
      invocation _ trailEq
  · exact authorized.requested_inside
      [.checked guard invocation true, .entered invocation] _ _ trailEq
  · apply authorized.depends_on_entered
    refine .cons (.resolve _ (agreesOn_delegation _ _ ?_)) .nil
    intro other entered
    have member : AuditEvent.entered other ∈ final.trail := entered
    rw [trailEq] at member
    simp only [List.mem_cons, AuditEvent.entered.injEq, reduceCtorEq,
      List.not_mem_nil, or_false, false_or] at member
    subst member
    decide
  · rw [(authorized.guarded map (call "missing") start 0).absent rfl]
  · obtain ⟨_, _, resultEq, _⟩ :=
      (authorized.guarded map (call "secret") start 0).refused _ rfl rfl
    rw [resultEq]
    rfl
  · rw [(authorized.guarded map (call "open") start 1).allowed _ rfl rfl]
    rfl

end GatewayCommand

end TableGateway

import Mathlib.Data.List.Induction
import TableGateway.Resolver.Session

/-!
# Auditing the trail of a session

An auditor reads a trail from its beginning and knows at every place the
database, the authorizer in charge, the decision that has not been acted on
yet, and the handlers that are running. `AuditStep` says which event may come
next: a handler is entered only on a decision of the authorizer in charge that
allows its invocation, and requests reach the driver only while a handler is
running; each poll changes the database in the way of the driver. The main
statements, `AuditRun.checked_of_entered` and `AuditRun.running_of_requested`,
say what must have come before such an event.
-/

namespace TableGateway

/-- An authorizer's decision about an invocation. -/
structure Decision where
  authorizer : Authorizer
  invocation : Invocation

/-- What is known at a place of a trail. -/
structure AuditState (State : Type) where
  database : State
  /-- The authorizer in charge. -/
  inCharge : Authorizer
  /-- The decision that has not been acted on yet. -/
  pending : Option Decision
  /-- The invocations whose handlers are running, the innermost first. -/
  running : List Invocation

section Steps

variable {State : Type}

/-- The events that a trail admits at a place. After a decision nothing but
another authorizer may come before the handler or the answer in its place. -/
inductive AuditStep (driver : Driver State) :
    AuditState State → AuditEvent → AuditState State → Prop
  | checked {database : State} {inCharge : Authorizer}
      {running : List Invocation} (invocation : Invocation) :
      AuditStep driver
        ⟨database, inCharge, none, running⟩
        (.checked inCharge invocation (inCharge.validate invocation))
        ⟨database, inCharge, some ⟨inCharge, invocation⟩, running⟩
  | installed {database : State} {inCharge : Authorizer}
      {pending : Option Decision} {running : List Invocation}
      (authorizer : Authorizer) :
      AuditStep driver
        ⟨database, inCharge, pending, running⟩
        (.installed authorizer)
        ⟨database, authorizer, pending, running⟩
  | refused {database : State} {inCharge authorizer : Authorizer}
      {invocation : Invocation} {running : List Invocation} :
      authorizer.validate invocation = false →
      AuditStep driver
        ⟨database, inCharge, some ⟨authorizer, invocation⟩, running⟩
        (.refused authorizer invocation)
        ⟨database, inCharge, none, running⟩
  | entered {database : State} {inCharge authorizer : Authorizer}
      {invocation : Invocation} {running : List Invocation} :
      authorizer.validate invocation = true →
      AuditStep driver
        ⟨database, inCharge, some ⟨authorizer, invocation⟩, running⟩
        (.entered invocation)
        ⟨database, inCharge, none, invocation :: running⟩
  | left {database : State} {inCharge : Authorizer}
      {invocation : Invocation} {running : List Invocation} :
      AuditStep driver
        ⟨database, inCharge, none, invocation :: running⟩
        (.left invocation)
        ⟨database, inCharge, none, running⟩
  | requested {database : State} {inCharge : Authorizer}
      {invocation : Invocation} {running : List Invocation}
      (request : DataRequest) :
      AuditStep driver
        ⟨database, inCharge, none, invocation :: running⟩
        (.requested request)
        ⟨(driver.answer request database).2, inCharge, none,
          invocation :: running⟩
  | waited {database : State} {inCharge : Authorizer}
      {invocation : Invocation} {running : List Invocation}
      {request : DataRequest} :
      driver.Delays request →
      AuditStep driver
        ⟨database, inCharge, none, invocation :: running⟩
        (.requested request)
        ⟨driver.work request database, inCharge, none,
          invocation :: running⟩
  | noted {database : State} {inCharge : Authorizer}
      {invocation : Invocation} {running : List Invocation}
      (text : String) :
      AuditStep driver
        ⟨database, inCharge, none, invocation :: running⟩
        (.noted text)
        ⟨database, inCharge, none, invocation :: running⟩

/-- A trail that is admitted event by event. -/
inductive AuditRun (driver : Driver State) (start : AuditState State) :
    List AuditEvent → AuditState State → Prop
  | nil : AuditRun driver start [] start
  | snoc {events : List AuditEvent} {event : AuditEvent}
      {middle final : AuditState State} :
      AuditRun driver start events middle →
      AuditStep driver middle event final →
      AuditRun driver start (events ++ [event]) final

end Steps

/-! ## What an admitted trail tells -/

/-- The authorizer in charge after some events. -/
def inChargeAfter (first : Authorizer) (events : List AuditEvent) :
    Authorizer :=
  events.foldl
    (fun current event =>
      match event with
      | .installed authorizer => authorizer
      | _ => current)
    first

section Reading

variable {State : Type} {driver : Driver State}
  {start final : AuditState State} {events : List AuditEvent}

theorem AuditRun.inCharge_eq (admitted : AuditRun driver start events final) :
    final.inCharge = inChargeAfter start.inCharge events := by
  induction admitted with
  | nil => rfl
  | snoc _ step inductionHypothesis =>
      unfold inChargeAfter at inductionHypothesis ⊢
      rw [List.foldl_append, ← inductionHypothesis]
      cases step <;> rfl

/-- A decision that waits to be acted on was made by the authorizer in charge,
and only authorizers have been installed since. -/
theorem AuditRun.checked_of_pending {decision : Decision}
    (admitted : AuditRun driver start events final)
    (idle : start.pending = none)
    (pending : final.pending = some decision) :
    ∃ (earlier : List AuditEvent) (changes : List Authorizer),
      events =
        earlier ++
          .checked decision.authorizer decision.invocation
            (decision.authorizer.validate decision.invocation) ::
          changes.map .installed ∧
      decision.authorizer = inChargeAfter start.inCharge earlier := by
  induction admitted with
  | nil =>
      rw [idle] at pending
      cases pending
  | snoc earlierAdmitted step inductionHypothesis =>
      cases step with
      | checked invocation =>
          cases pending
          exact ⟨_, [], rfl, earlierAdmitted.inCharge_eq⟩
      | installed authorizer =>
          obtain ⟨earlier, changes, eventsEq, inCharge⟩ :=
            inductionHypothesis pending
          refine ⟨earlier, changes ++ [authorizer], ?_, inCharge⟩
          simp [eventsEq]
      | refused _ => cases pending
      | entered _ => cases pending
      | left => cases pending
      | requested _ => cases pending
      | waited _ => cases pending
      | noted _ => cases pending

theorem AuditRun.entered_of_running {invocation : Invocation}
    (admitted : AuditRun driver start events final)
    (idle : start.running = [])
    (member : invocation ∈ final.running) :
    .entered invocation ∈ events := by
  induction admitted with
  | nil =>
      rw [idle] at member
      cases member
  | snoc _ step inductionHypothesis =>
      apply List.mem_append.mpr
      cases step with
      | entered _ =>
          rcases List.mem_cons.mp member with rfl | outerMember
          · exact Or.inr (List.mem_singleton.mpr rfl)
          · exact Or.inl (inductionHypothesis outerMember)
      | left =>
          exact Or.inl (inductionHypothesis (List.mem_cons_of_mem _ member))
      | checked _ => exact Or.inl (inductionHypothesis member)
      | installed _ => exact Or.inl (inductionHypothesis member)
      | refused _ => exact Or.inl (inductionHypothesis member)
      | requested _ => exact Or.inl (inductionHypothesis member)
      | waited _ => exact Or.inl (inductionHypothesis member)
      | noted _ => exact Or.inl (inductionHypothesis member)

/-- An admitted trail is admitted up to each of its events. -/
theorem AuditRun.exists_step {before after : List AuditEvent}
    {event : AuditEvent}
    (admitted : AuditRun driver start (before ++ event :: after) final) :
    ∃ place next,
      AuditRun driver start before place ∧
        AuditStep driver place event next := by
  induction after using List.reverseRecOn generalizing final with
  | nil =>
      generalize eventsEq : before ++ [event] = all at admitted
      cases admitted with
      | nil => simp at eventsEq
      | snoc beforeAdmitted step =>
          obtain ⟨beforeEq, eventEq⟩ := List.append_inj' eventsEq rfl
          cases eventEq
          subst beforeEq
          exact ⟨_, _, beforeAdmitted, step⟩
  | append_singleton rest last inductionHypothesis =>
      generalize eventsEq : before ++ event :: (rest ++ [last]) = all
        at admitted
      cases admitted with
      | nil => simp at eventsEq
      | snoc restAdmitted _ =>
          rw [← List.cons_append, ← List.append_assoc] at eventsEq
          obtain ⟨restEq, _⟩ := List.append_inj' eventsEq rfl
          exact inductionHypothesis (restEq ▸ restAdmitted)

/-- Before a handler is entered the authorizer in charge has allowed its
invocation, and only authorizers have been installed since. -/
theorem AuditRun.checked_of_entered {before after : List AuditEvent}
    {invocation : Invocation}
    (admitted :
      AuditRun driver start (before ++ .entered invocation :: after) final)
    (idle : start.pending = none) :
    ∃ (earlier : List AuditEvent) (changes : List Authorizer),
      before =
        earlier ++
          .checked (inChargeAfter start.inCharge earlier) invocation true ::
          changes.map .installed ∧
      (inChargeAfter start.inCharge earlier).validate invocation = true := by
  obtain ⟨place, next, beforeAdmitted, step⟩ := admitted.exists_step
  cases step with
  | entered allowed =>
      obtain ⟨earlier, changes, beforeEq, authorizerEq⟩ :=
        beforeAdmitted.checked_of_pending idle rfl
      dsimp only at beforeEq authorizerEq
      rw [allowed, authorizerEq] at beforeEq
      exact ⟨earlier, changes, beforeEq, authorizerEq ▸ allowed⟩

/-- A request is put to the driver from inside a handler that was entered
before. -/
theorem AuditRun.running_of_requested {before after : List AuditEvent}
    {request : DataRequest}
    (admitted :
      AuditRun driver start (before ++ .requested request :: after) final)
    (idle : start.running = []) :
    ∃ place invocation outer,
      AuditRun driver start before place ∧
        place.running = invocation :: outer ∧
        .entered invocation ∈ before := by
  obtain ⟨place, next, beforeAdmitted, step⟩ := admitted.exists_step
  have running : ∃ invocation outer,
      place.running = invocation :: outer := by
    cases step with
    | requested _ => exact ⟨_, _, rfl⟩
    | waited _ => exact ⟨_, _, rfl⟩
  obtain ⟨invocation, outer, runningEq⟩ := running
  refine ⟨place, invocation, outer, beforeAdmitted, runningEq, ?_⟩
  apply beforeAdmitted.entered_of_running idle
  rw [runningEq]
  exact List.mem_cons_self

end Reading

end TableGateway

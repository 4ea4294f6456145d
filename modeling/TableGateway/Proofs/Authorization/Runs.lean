import Mathlib.Data.List.Forall2
import TableGateway.Proofs.Authorization.Resolving

/-!
# Runs of a gateway

From outside, fields are resolved through the maps of a gateway and
authorizers are put in charge, in any order. A run executes such commands on
one session. What holds of single calls holds of runs: the trail is audited,
it only grows, and handlers matter only for the invocations they are entered
with.
-/

namespace TableGateway

/-- A use of a gateway from outside. Several maps may share the place of the
authorizer. -/
inductive GatewayCommand where
  /-- Resolve a field through a map. -/
  | resolve (map : ResolverMap) (call : FieldCall)
  /-- Put another authorizer in charge. -/
  | install (authorizer : Authorizer)

namespace GatewayCommand

variable {State : Type}

/-- Execute commands in order, up to the first call without a result. -/
def runAll (driver : Driver State) (depth : Nat) :
    List GatewayCommand → Session State → List Outcome × Session State
  | [], session => ([], session)
  | .install authorizer :: rest, session =>
      runAll driver depth rest (session.install authorizer)
  | .resolve map call :: rest, session =>
      match map.resolve driver depth call session with
      | (none, after) => ([], after)
      | (some outcome, after) =>
          let (outcomes, final) := runAll driver depth rest after
          (outcome :: outcomes, final)

/-- Two commands that differ at most in what handlers do for invocations other
than the used ones. -/
inductive AgreesOn (used : Invocation → Prop) :
    GatewayCommand → GatewayCommand → Prop
  | resolve {map other : ResolverMap} (call : FieldCall) :
      map.AgreesOn used other →
      AgreesOn used (.resolve map call) (.resolve other call)
  | install (authorizer : Authorizer) :
      AgreesOn used (.install authorizer) (.install authorizer)

theorem audited_runAll {driver : Driver State} {start : AuditState State}
    (depth : Nat) (commands : List GatewayCommand)
    {session : Session State}
    (audited : session.Audited driver start []) :
    ∃ running,
      (runAll driver depth commands session).2.Audited
        driver start running := by
  induction commands generalizing session with
  | nil => exact ⟨[], audited⟩
  | cons command rest inductionHypothesis =>
      cases command with
      | install authorizer =>
          exact inductionHypothesis (audited.install authorizer)
      | resolve map call =>
          have callAudited :=
            map.audited_resolve depth call session [] audited
          unfold runAll
          cases resultEq : map.resolve driver depth call session with
          | mk outcome after =>
              rw [resultEq] at callAudited
              cases outcome with
              | none =>
                  obtain ⟨inner, afterAudited⟩ := callAudited
                  exact ⟨_, afterAudited⟩
              | some outcome => exact inductionHypothesis callAudited

theorem trail_prefix_runAll (driver : Driver State) (depth : Nat)
    (commands : List GatewayCommand) (session : Session State) :
    session.trail <+: (runAll driver depth commands session).2.trail := by
  induction commands generalizing session with
  | nil => exact List.prefix_refl _
  | cons command rest inductionHypothesis =>
      cases command with
      | install authorizer =>
          exact (session.trail_prefix_record _).trans
            (inductionHypothesis (session.install authorizer))
      | resolve map call =>
          have grown :=
            map.trail_prefix_resolve driver depth call session
          unfold runAll
          cases resultEq : map.resolve driver depth call session with
          | mk outcome after =>
              rw [resultEq] at grown
              cases outcome with
              | none => exact grown
              | some outcome => exact grown.trans (inductionHypothesis after)

theorem runAll_eq_of_agreesOn {driver : Driver State} {depth : Nat}
    {used : Invocation → Prop} {commands others : List GatewayCommand}
    (agreement : List.Forall₂ (AgreesOn used) commands others)
    {session : Session State}
    (enteredUsed : ∀ invocation,
      .entered invocation ∈ (runAll driver depth commands session).2.trail →
        used invocation) :
    runAll driver depth others session =
      runAll driver depth commands session := by
  induction agreement generalizing session with
  | nil => rfl
  | @cons _ _ rest _ commandAgrees _ inductionHypothesis =>
      cases commandAgrees with
      | install authorizer => exact inductionHypothesis enteredUsed
      | @resolve map other call mapAgrees =>
          have callEq :=
            ResolverMap.resolve_eq_of_agreesOn driver mapAgrees depth call
              session
          unfold runAll at enteredUsed ⊢
          cases resultEq : map.resolve driver depth call session with
          | mk outcome after =>
              rw [resultEq] at callEq enteredUsed
              cases outcome with
              | none => rw [callEq enteredUsed]
              | some outcome =>
                  have grown := trail_prefix_runAll driver depth rest after
                  rw [callEq fun invocation entered =>
                    enteredUsed invocation (grown.subset entered)]
                  dsimp only
                  rw [inductionHypothesis enteredUsed]

end GatewayCommand

end TableGateway

import TableGateway.Resolver.Invocation

/-!
# Authorizers

Every resolver runs behind an authorizer, which sees the whole invocation. It
decides whether the handler may run, and it has an answer for when it may not.
An authorizer may hand over to another one once it has decided; the decision,
and the answer that goes with it, remain its own.
-/

namespace TableGateway

/-- Decides about invocations. -/
structure Authorizer where
  /-- Whether the handler may run. -/
  validate : Invocation → Bool
  /-- The answer in place of the handler's. -/
  rejected : Invocation → Outcome
  /-- The authorizer that takes over after the decision, if any. -/
  successor : Invocation → Option Authorizer

namespace Authorizer

/-- The authorizer that decides by a test and answers null when it fails. -/
def ofTest (validate : Invocation → Bool) : Authorizer :=
  ⟨validate, fun _ => .ok .null, fun _ => none⟩

/-- The authorizer that lets every handler run. -/
def allowAll : Authorizer :=
  ofTest fun _ => true

/-- Give an authorizer another answer for invocations that it refuses. -/
def withRejected (authorizer : Authorizer)
    (rejected : Invocation → Outcome) : Authorizer :=
  { authorizer with rejected := rejected }

def withSuccessor (authorizer : Authorizer)
    (successor : Invocation → Option Authorizer) : Authorizer :=
  { authorizer with successor := successor }

end Authorizer

end TableGateway

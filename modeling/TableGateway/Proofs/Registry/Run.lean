import Mathlib.Data.List.Forall2
import Mathlib.Logic.Function.Basic
import TableGateway.Proofs.Authorization.Resolving
import TableGateway.Proofs.Registry.KeyOrder

/-!
# Runs of a registry

Handlers are registered, maps are taken from the registry and copied, fields
are resolved through any of these maps, and authorizers are put in charge
through the registry or any map. Maps keep the handlers that they were taken
with, while all of them refer to one place for the authorizer. A history says
what such a run comes to, by the commands alone; `Follows.runAll` says that
every run follows its history.
-/

namespace TableGateway

/-! ## Worlds -/

/-- A resolver map in someone's hands, and the place where it finds the
authorizer. -/
structure HeldMap where
  map : ResolverMap
  place : Nat

/-- A registry with all maps taken from it so far. Authorizers stand in places
that the registry and its maps refer to. -/
structure RegistryWorld (State : Type) where
  registry : Registry
  place : Nat
  held : List HeldMap
  authorizers : Nat → Authorizer
  database : State
  trail : List AuditEvent

/-- What an authorizer can be installed through. -/
inductive Holder where
  | registry
  | map (index : Nat)

/-- A use of a registry and its maps. -/
inductive RegistryCommand where
  /-- Register a handler in place of an earlier one. -/
  | add (key : ResolverKey) (handler : Handler)
  /-- Register a handler if the key is free. -/
  | tryAdd (key : ResolverKey) (handler : Handler)
  | takeMap
  | copyMap (index : Nat)
  | install (holder : Holder) (authorizer : Authorizer)
  | resolve (index : Nat) (call : FieldCall)

inductive RegistryAnswer where
  | replaced (earlier : Bool)
  | tried (result : Except ResolverError Unit)
  | resolved (outcome : Option Outcome)
  | done

namespace RegistryWorld

variable {State : Type}

def fresh (limit : Option Nat) (place : Nat)
    (authorizers : Nat → Authorizer) (database : State) :
    RegistryWorld State :=
  ⟨.empty limit, place, [], authorizers, database, []⟩

/-- The world as it is seen from a place. -/
def session (world : RegistryWorld State) (place : Nat) : Session State :=
  ⟨world.database, world.authorizers place, world.trail⟩

/-- The world after something was done from a place. -/
def withSession (world : RegistryWorld State) (place : Nat)
    (session : Session State) : RegistryWorld State :=
  { world with
    authorizers := Function.update world.authorizers place session.authorizer
    database := session.database
    trail := session.trail }

@[simp]
theorem session_withSession (world : RegistryWorld State) (place : Nat)
    (session : Session State) :
    (world.withSession place session).session place = session := by
  unfold RegistryWorld.session withSession
  dsimp only
  rw [Function.update_self]

@[simp]
theorem withSession_session (world : RegistryWorld State) (place : Nat) :
    world.withSession place (world.session place) = world := by
  unfold withSession RegistryWorld.session
  dsimp only
  rw [Function.update_eq_self]

def placeOf? (world : RegistryWorld State) : Holder → Option Nat
  | .registry => some world.place
  | .map index => world.held[index]?.map (·.place)

/-- Carry out a command. A map that does not exist changes nothing. -/
def step (driver : Driver State) (depth : Nat) :
    RegistryCommand → RegistryWorld State →
      RegistryAnswer × RegistryWorld State
  | .add key handler, world =>
      let (earlier, registry) := world.registry.add key handler
      (.replaced earlier, { world with registry := registry })
  | .tryAdd key handler, world =>
      match world.registry.tryAdd key handler with
      | .error fault => (.tried (.error fault), world)
      | .ok registry => (.tried (.ok ()), { world with registry := registry })
  | .takeMap, world =>
      (.done, { world with
        held := world.held ++ [⟨world.registry.resolvers, world.place⟩] })
  | .copyMap index, world =>
      (.done, { world with
        held := world.held ++ world.held[index]?.toList })
  | .install holder authorizer, world =>
      match world.placeOf? holder with
      | none => (.done, world)
      | some place =>
          (.done, world.withSession place
            ((world.session place).install authorizer))
  | .resolve index call, world =>
      match world.held[index]? with
      | none => (.done, world)
      | some holder =>
          let (outcome, after) :=
            holder.map.resolve driver depth call (world.session holder.place)
          (.resolved outcome, world.withSession holder.place after)

def runAll (driver : Driver State) (depth : Nat)
    (commands : List RegistryCommand) (world : RegistryWorld State) :
    RegistryWorld State :=
  commands.foldl
    (fun current command => (step driver depth command current).2) world

end RegistryWorld

/-! ## Histories -/

/-- What was registered so far, and what had been registered when each of the
maps was taken. -/
structure RegistryHistory where
  writes : List (ResolverKey × Handler)
  taken : List (List (ResolverKey × Handler))

namespace RegistryHistory

/-- The keys that were ever registered, as often as they were. -/
def keys (history : RegistryHistory) : List ResolverKey :=
  history.writes.map Prod.fst

def step (history : RegistryHistory) : RegistryCommand → RegistryHistory
  | .add key handler =>
      { history with writes := history.writes ++ [(key, handler)] }
  | .tryAdd key handler =>
      if key ∈ history.keys then history
      else { history with writes := history.writes ++ [(key, handler)] }
  | .takeMap => { history with taken := history.taken ++ [history.writes] }
  | .copyMap index =>
      { history with taken := history.taken ++ history.taken[index]?.toList }
  | .install _ _ => history
  | .resolve _ _ => history

def ofCommands (commands : List RegistryCommand) : RegistryHistory :=
  commands.foldl step ⟨[], []⟩

end RegistryHistory

/-! ## Runs follow their histories -/

theorem exists_getElem?_of_forall₂ {left right : Type}
    {relation : left → right → Prop} {lefts : List left}
    {rights : List right} (related : List.Forall₂ relation lefts rights)
    {index : Nat} {item : left} (found : lefts[index]? = some item) :
    ∃ other, rights[index]? = some other ∧ relation item other := by
  induction related generalizing index with
  | nil => cases found
  | cons headRelated _ inductionHypothesis =>
      cases index with
      | zero =>
          cases found
          exact ⟨_, rfl, headRelated⟩
      | succ index => exact inductionHypothesis found

/-- A map that was taken after some writes, and finds the authorizer in a
given place. -/
structure HeldMap.Reflects (place : Nat) (holder : HeldMap)
    (writes : List (ResolverKey × Handler)) : Prop where
  holds : HandlerTable.Holds holder.map.handlers writes
  samePlace : holder.place = place

namespace RegistryWorld

variable {State : Type}

/-- A world that a history describes. The registry holds what was written, each
map what was written when it was taken, and all of them refer to one place,
whose authorizer is the one that the trail tells of. -/
structure Follows (driver : Driver State) (opening : AuditState State)
    (history : RegistryHistory) (world : RegistryWorld State) : Prop where
  registered : HandlerTable.Holds world.registry.handlers history.writes
  maps :
    List.Forall₂ (HeldMap.Reflects world.place) world.held history.taken
  audited : ∃ running,
    (world.session world.place).Audited driver opening running

namespace Follows

variable {driver : Driver State} {opening : AuditState State}
  {history : RegistryHistory} {world : RegistryWorld State}

theorem contains_iff (follows : Follows driver opening history world)
    (key : ResolverKey) :
    world.registry.contains key = true ↔ key ∈ history.keys :=
  follows.registered.hasKey_iff key

theorem place_eq (follows : Follows driver opening history world)
    {holder : Holder} {place : Nat}
    (found : world.placeOf? holder = some place) :
    place = world.place := by
  cases holder with
  | registry => exact (Option.some.inj found).symm
  | map index =>
      obtain ⟨holder, heldFound, rfl⟩ := Option.map_eq_some_iff.mp found
      obtain ⟨_, _, reflects⟩ :=
        exists_getElem?_of_forall₂ follows.maps heldFound
      exact reflects.samePlace

/-- The authorizer in the common place is the last one that was installed. -/
theorem authorizer_eq (follows : Follows driver opening history world) :
    (world.session world.place).authorizer =
      inChargeAfter opening.inCharge world.trail := by
  obtain ⟨_, audited⟩ := follows.audited
  exact audited.inCharge_eq

theorem withSession (follows : Follows driver opening history world)
    {session : Session State} {running : List Invocation}
    (audited : session.Audited driver opening running) :
    Follows driver opening history
      (world.withSession world.place session) where
  registered := follows.registered
  maps := follows.maps
  audited := by
    refine ⟨running, ?_⟩
    have samePlace :
        (world.withSession world.place session).place = world.place := rfl
    rw [samePlace, session_withSession]
    exact audited

theorem put (follows : Follows driver opening history world)
    (key : ResolverKey) (handler : Handler) :
    Follows driver opening
      { history with writes := history.writes ++ [(key, handler)] }
      { world with registry := world.registry.put key handler } where
  registered := follows.registered.put key handler
  maps := follows.maps
  audited := follows.audited

theorem step (follows : Follows driver opening history world)
    (depth : Nat) (command : RegistryCommand) :
    Follows driver opening (history.step command)
      (RegistryWorld.step driver depth command world).2 := by
  cases command with
  | add key handler => exact follows.put key handler
  | tryAdd key handler =>
      have taken := follows.contains_iff key
      unfold RegistryHistory.step RegistryWorld.step Registry.tryAdd
      dsimp only
      by_cases present : key ∈ history.keys
      · rw [if_pos present, if_pos (taken.mpr present)]
        exact follows
      · rw [if_neg present, if_neg fun contained =>
          present (taken.mp contained)]
        exact follows.put key handler
  | takeMap =>
      exact {
        registered := follows.registered
        maps := List.rel_append follows.maps
          (.cons ⟨follows.registered, rfl⟩ .nil)
        audited := follows.audited }
  | copyMap index =>
      refine {
        registered := follows.registered
        maps := List.rel_append follows.maps ?_
        audited := follows.audited }
      cases found : world.held[index]? with
      | none =>
          have missing : history.taken[index]? = none := by
            rw [List.getElem?_eq_none_iff] at found ⊢
            rw [← follows.maps.length_eq]
            exact found
          rw [missing]
          exact .nil
      | some holder =>
          obtain ⟨writes, writesFound, reflects⟩ :=
            exists_getElem?_of_forall₂ follows.maps found
          rw [writesFound]
          exact .cons reflects .nil
  | install holder authorizer =>
      unfold RegistryWorld.step
      dsimp only
      cases found : world.placeOf? holder with
      | none => exact follows
      | some place =>
          obtain ⟨running, audited⟩ := follows.audited
          rw [follows.place_eq found]
          exact follows.withSession (audited.install authorizer)
  | resolve index call =>
      unfold RegistryWorld.step
      dsimp only
      cases found : world.held[index]? with
      | none => exact follows
      | some holder =>
          obtain ⟨_, _, reflects⟩ :=
            exists_getElem?_of_forall₂ follows.maps found
          obtain ⟨running, audited⟩ := follows.audited
          have callAudited :=
            holder.map.audited_resolve depth call _ running audited
          dsimp only
          rw [reflects.samePlace]
          cases resultEq : holder.map.resolve driver depth call
            (world.session world.place) with
          | mk outcome after =>
              rw [resultEq] at callAudited
              cases outcome with
              | some value => exact follows.withSession callAudited
              | none =>
                  obtain ⟨inner, afterAudited⟩ := callAudited
                  exact follows.withSession afterAudited

theorem runAll (follows : Follows driver opening history world)
    (depth : Nat) (commands : List RegistryCommand) :
    Follows driver opening
      (commands.foldl RegistryHistory.step history)
      (RegistryWorld.runAll driver depth commands world) := by
  induction commands generalizing history world with
  | nil => exact follows
  | cons command rest inductionHypothesis =>
      exact inductionHypothesis (follows.step depth command)

end Follows

theorem follows_fresh (driver : Driver State) (limit : Option Nat)
    (place : Nat) (authorizers : Nat → Authorizer) (database : State) :
    Follows driver ⟨database, authorizers place, none, []⟩ ⟨[], []⟩
      (fresh limit place authorizers database) where
  registered := HandlerTable.holds_empty
  maps := .nil
  audited := ⟨[], AuditRun.nil⟩

/-! ## Maps stay as they are -/

theorem held_prefix_step (driver : Driver State) (depth : Nat)
    (command : RegistryCommand) (world : RegistryWorld State) :
    world.held <+: (step driver depth command world).2.held := by
  cases command with
  | add key handler => exact List.prefix_refl _
  | tryAdd key handler =>
      unfold step
      dsimp only
      cases world.registry.tryAdd key handler with
      | error fault => exact List.prefix_refl _
      | ok registry => exact List.prefix_refl _
  | takeMap => exact List.prefix_append _ _
  | copyMap index => exact List.prefix_append _ _
  | install holder authorizer =>
      unfold step
      dsimp only
      cases world.placeOf? holder with
      | none => exact List.prefix_refl _
      | some place => exact List.prefix_refl _
  | resolve index call =>
      unfold step
      dsimp only
      cases world.held[index]? with
      | none => exact List.prefix_refl _
      | some holder => exact List.prefix_refl _

theorem held_prefix_runAll (driver : Driver State) (depth : Nat)
    (commands : List RegistryCommand) (world : RegistryWorld State) :
    world.held <+: (runAll driver depth commands world).held := by
  induction commands generalizing world with
  | nil => exact List.prefix_refl _
  | cons command rest inductionHypothesis =>
      exact (held_prefix_step driver depth command world).trans
        (inductionHypothesis _)

end RegistryWorld

end TableGateway

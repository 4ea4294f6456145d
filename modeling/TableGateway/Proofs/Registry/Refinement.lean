import TableGateway.Proofs.Registry.Run
import TableGateway.Store.Basic

/-!
# A registry is a map of last writes with snapshots

What the registry and each of its maps answer, at any point of any run, is
determined by the writes so far, by the writes when the map was taken, and by
the authorizer that was installed last. The main statement is
`RegistryWorld.runAll_refines`.
-/

namespace TableGateway

/-! ## Calls and keys of a map -/

namespace ResolverMap

variable {State : Type} (driver : Driver State) {map : ResolverMap}
  {call : FieldCall}

/-- A call of a key with a handler begins with the decision of the authorizer
in charge. -/
theorem checked_prefix_resolve {handler : Handler}
    (found : map.handler? call.key = some handler) (depth : Nat)
    (session : Session State) :
    session.trail ++
        [.checked session.authorizer (map.invocation call)
          (session.authorizer.validate (map.invocation call))] <+:
      (map.resolve driver (depth + 1) call session).2.trail := by
  obtain ⟨changes, checkedEq⟩ := session.trail_check (map.invocation call)
  have checked :
      session.trail ++
          [.checked session.authorizer (map.invocation call)
            (session.authorizer.validate (map.invocation call))] <+:
        (session.check (map.invocation call)).2.trail := by
    rw [checkedEq]
    exact ⟨changes.map .installed, by simp⟩
  refine checked.trans ?_
  cases decision : session.authorizer.validate (map.invocation call) with
  | false =>
      rw [resolve_of_refused driver found decision]
      exact Session.trail_prefix_record _ _
  | true =>
      rw [resolve_of_allowed driver found decision]
      refine List.IsPrefix.trans ?_ (Session.trail_prefix_leave _ _)
      exact (Session.trail_prefix_record _ _).trans
        (Program.trail_prefix_run driver
          (map.trail_prefix_resolve driver depth) _ _)

/-- Only a key without a handler is not found before anything happens. -/
theorem resolve_eq_notFound_iff (depth : Nat) (session : Session State) :
    map.resolve driver (depth + 1) call session =
        (some (.error (.notFound call.key)), session) ↔
      map.handler? call.key = none := by
  constructor
  · intro notFound
    cases found : map.handler? call.key with
    | none => rfl
    | some handler =>
        have longer := checked_prefix_resolve driver found depth session
        rw [notFound] at longer
        have lengths := longer.length_le
        rw [List.length_append, List.length_singleton] at lengths
        exact absurd lengths (Nat.not_succ_le_self _)
  · intro absent
    exact resolve_of_absent driver absent depth session

end ResolverMap

namespace RegistryWorld

variable {State : Type} {driver : Driver State}

/-! ## What a map answers -/

theorem step_resolve {world : RegistryWorld State} {index : Nat}
    {holder : HeldMap} (found : world.held[index]? = some holder)
    (depth : Nat) (call : FieldCall) :
    step driver depth (.resolve index call) world =
      (.resolved (holder.map.resolve driver depth call
          (world.session holder.place)).1,
        world.withSession holder.place (holder.map.resolve driver depth call
          (world.session holder.place)).2) := by
  unfold step
  dsimp only
  rw [found]

/-- What a map comes to in a world if it was taken after some writes, and an
authorizer is in charge. Its keys are those written, and the ways to ask for
them agree. Resolving such a key consults the authorizer in charge, and either
answers for it or runs the last handler written. -/
structure Serves (driver : Driver State) (depth : Nat)
    (world : RegistryWorld State) (inCharge : Authorizer) (index : Nat)
    (map : ResolverMap) (writes : List (ResolverKey × Handler)) :
    Prop where
  keys_eq : map.keys = groupedKeys (writes.map Prod.fst)
  size_eq : map.size = (writes.map Prod.fst).toFinset.card
  mem_keys_iff : ∀ key, key ∈ map.keys ↔ key ∈ writes.map Prod.fst
  contains_iff : ∀ key,
    map.contains key = true ↔ key ∈ writes.map Prod.fst
  get?_iff : ∀ key,
    (map.get? key).isSome = true ↔ key ∈ writes.map Prod.fst
  notFound_iff : ∀ call : FieldCall,
    step driver (depth + 1) (.resolve index call) world =
        (.resolved (some (.error (.notFound call.key))), world) ↔
      call.key ∉ writes.map Prod.fst
  consults : ∀ call : FieldCall, call.key ∈ writes.map Prod.fst →
    world.trail ++
        [.checked inCharge (map.invocation call)
          (inCharge.validate (map.invocation call))] <+:
      (step driver (depth + 1) (.resolve index call) world).2.trail
  refuses : ∀ call : FieldCall, call.key ∈ writes.map Prod.fst →
    inCharge.validate (map.invocation call) = false →
    (step driver (depth + 1) (.resolve index call) world).1 =
      .resolved (some (inCharge.rejected (map.invocation call)))
  runs : ∀ (call : FieldCall) (handler : Handler),
    lastWrite call.key writes = some handler →
    inCharge.validate (map.invocation call) = true →
    let checked :=
      ((world.session world.place).check (map.invocation call)).2
    let outcome :=
      Session.leave (map.invocation call)
        ((handler (map.invocation call)).run driver
          (map.resolve driver depth)
          (checked.record (.entered (map.invocation call))))
    step driver (depth + 1) (.resolve index call) world =
      (.resolved outcome.1, world.withSession world.place outcome.2)

theorem Follows.serves {opening : AuditState State}
    {history : RegistryHistory} {world : RegistryWorld State}
    (follows : Follows driver opening history world) (depth : Nat)
    {index : Nat} {holder : HeldMap}
    {writes : List (ResolverKey × Handler)}
    (found : world.held[index]? = some holder)
    (reflects : holder.Reflects world.place writes) :
    Serves driver depth world (inChargeAfter opening.inCharge world.trail)
      index holder.map writes := by
  obtain ⟨holds, samePlace⟩ := reflects
  have handlerEq : ∀ key, holder.map.handler? key = lastWrite key writes :=
    holds.handler?_eq
  have containsIff : ∀ key,
      holder.map.contains key = true ↔ key ∈ writes.map Prod.fst :=
    holds.hasKey_iff
  have absentIff : ∀ key,
      holder.map.handler? key = none ↔ key ∉ writes.map Prod.fst := by
    intro key
    rw [← containsIff]
    unfold ResolverMap.contains
    exact Option.not_isSome_iff_eq_none.symm
  have exists_handler : ∀ {key}, key ∈ writes.map Prod.fst →
      ∃ handler, holder.map.handler? key = some handler := by
    intro key written
    rw [← containsIff] at written
    exact Option.isSome_iff_exists.mp written
  have stepEq (call : FieldCall) :=
    @step_resolve _ driver _ _ _ found (depth + 1) call
  rw [samePlace] at stepEq
  rw [← follows.authorizer_eq]
  exact {
    keys_eq := holds.allKeys_eq
    size_eq := holds.count_eq
    mem_keys_iff := fun key =>
      (HandlerTable.mem_allKeys_iff _ key).trans (holds.hasKey_iff key)
    contains_iff := containsIff
    get?_iff := by
      intro key
      rw [← containsIff]
      unfold ResolverMap.get?
      cases holder.map.contains key with
      | false => simp
      | true => simp
    notFound_iff := by
      intro call
      rw [← absentIff, ← ResolverMap.resolve_eq_notFound_iff driver depth
        (world.session world.place), stepEq]
      constructor
      · intro same
        obtain ⟨answerEq, worldEq⟩ := Prod.mk.inj same
        have sessionEq :=
          congrArg (fun after => after.session world.place) worldEq
        rw [session_withSession] at sessionEq
        exact Prod.ext (RegistryAnswer.resolved.inj answerEq) sessionEq
      · intro same
        rw [same, withSession_session]
    consults := by
      intro call written
      obtain ⟨handler, handlerFound⟩ := exists_handler written
      rw [stepEq]
      exact ResolverMap.checked_prefix_resolve driver handlerFound depth
        (world.session world.place)
    refuses := by
      intro call written refused
      obtain ⟨handler, handlerFound⟩ := exists_handler written
      rw [stepEq, ResolverMap.resolve_of_refused driver handlerFound refused]
    runs := by
      intro call handler last allowed checked outcome
      rw [← handlerEq] at last
      rw [stepEq, ResolverMap.resolve_of_allowed driver last allowed] }

/-! ## Other commands -/

/-- Registering tells whether the key is taken; asked to respect that, it
refuses such a key. -/
theorem step_add_of_follows {opening : AuditState State}
    {history : RegistryHistory} {world : RegistryWorld State}
    (follows : Follows driver opening history world) (depth : Nat)
    (key : ResolverKey) (handler : Handler) :
    (step driver depth (.add key handler) world).1 =
        .replaced (decide (key ∈ history.keys)) ∧
      step driver depth (.tryAdd key handler) world =
        if key ∈ history.keys then
          (.tried (.error (.duplicateResolver key)), world)
        else
          (.tried (.ok ()),
            (step driver depth (.add key handler) world).2) := by
  have takenEq :
      world.registry.contains key = decide (key ∈ history.keys) := by
    rw [Bool.eq_iff_iff, follows.contains_iff, decide_eq_true_iff]
  refine ⟨congrArg RegistryAnswer.replaced takenEq, ?_⟩
  unfold step Registry.tryAdd
  dsimp only
  rw [takenEq]
  by_cases taken : key ∈ history.keys
  · simp [taken]
  · simp [taken, Registry.add]

theorem inChargeAfter_step_install (first : Authorizer) (depth : Nat)
    {holder : Holder} (authorizer : Authorizer)
    {world : RegistryWorld State}
    (isHolder : (world.placeOf? holder).isSome = true) :
    inChargeAfter first
        (step driver depth (.install holder authorizer) world).2.trail =
      authorizer := by
  obtain ⟨place, placeEq⟩ := Option.isSome_iff_exists.mp isHolder
  have trailEq :
      (step driver depth (.install holder authorizer) world).2.trail =
        world.trail ++ [.installed authorizer] := by
    unfold step
    dsimp only
    rw [placeEq]
    rfl
  rw [trailEq]
  unfold inChargeAfter
  rw [List.foldl_append]
  rfl

/-- A map that has been taken stays as it is. -/
theorem getElem?_held_runAll (depth : Nat) {world : RegistryWorld State}
    {index : Nat} {holder : HeldMap}
    (found : world.held[index]? = some holder)
    (later : List RegistryCommand) :
    (runAll driver depth later world).held[index]? = some holder := by
  obtain ⟨added, heldEq⟩ := held_prefix_runAll driver depth later world
  have inRange : index < world.held.length :=
    (List.getElem?_eq_some_iff.mp found).1
  rw [← heldEq, List.getElem?_append_left inRange]
  exact found

/-! ## Runs -/

/-- After any commands, given to a new registry by any holders:

* registering tells whether the key was registered before, and under `tryAdd`
  such a key is an error that changes nothing;
* the registry holds as many keys as were registered and differ, in the order of
  first registration, owners first;
* whoever installs an authorizer puts it in charge for all;
* every map serves what had been registered when it was taken, under the
  authorizer that was installed last, and stays the same whatever follows. -/
theorem runAll_refines (driver : Driver State) (depth : Nat)
    (limit : Option Nat) (place : Nat) (authorizers : Nat → Authorizer)
    (database : State) (commands : List RegistryCommand) :
    let world :=
      runAll driver (depth + 1) commands
        (fresh limit place authorizers database)
    let history := RegistryHistory.ofCommands commands
    let inCharge := inChargeAfter (authorizers place) world.trail
    (∀ key handler,
      (step driver (depth + 1) (.add key handler) world).1 =
          .replaced (decide (key ∈ history.keys)) ∧
        step driver (depth + 1) (.tryAdd key handler) world =
          if key ∈ history.keys then
            (.tried (.error (.duplicateResolver key)), world)
          else
            (.tried (.ok ()),
              (step driver (depth + 1) (.add key handler) world).2)) ∧
    world.registry.size = history.keys.toFinset.card ∧
    world.registry.keys = groupedKeys history.keys ∧
    (∀ key, world.registry.contains key = true ↔ key ∈ history.keys) ∧
    (∀ key, key ∈ world.registry.keys ↔ key ∈ history.keys) ∧
    (∀ holder authorizer, (world.placeOf? holder).isSome = true →
      inChargeAfter (authorizers place)
          (step driver (depth + 1) (.install holder authorizer)
            world).2.trail =
        authorizer) ∧
    world.held.length = history.taken.length ∧
    ∀ index holder, world.held[index]? = some holder →
      ∃ writes, history.taken[index]? = some writes ∧
        Serves driver depth world inCharge index holder.map writes ∧
        ∀ later,
          (runAll driver (depth + 1) later world).held[index]? =
            some holder := by
  intro world history inCharge
  have follows :
      Follows driver ⟨database, authorizers place, none, []⟩ history world :=
    (follows_fresh driver limit place authorizers database).runAll
      (depth + 1) commands
  have registered := follows.registered
  have keyIff (key : ResolverKey) :
      key ∈ world.registry.keys ↔ key ∈ history.keys :=
    (HandlerTable.mem_allKeys_iff _ key).trans (registered.hasKey_iff key)
  refine ⟨step_add_of_follows follows (depth + 1), registered.count_eq,
    registered.allKeys_eq, follows.contains_iff, keyIff, ?_,
    follows.maps.length_eq, ?_⟩
  · intro holder authorizer isHolder
    exact inChargeAfter_step_install _ (depth + 1) authorizer isHolder
  · intro index holder found
    obtain ⟨writes, writesFound, reflects⟩ :=
      exists_getElem?_of_forall₂ follows.maps found
    exact ⟨writes, writesFound, follows.serves depth found reflects,
      getElem?_held_runAll (depth + 1) found⟩

/-! ## An old map and a new one -/

def constantHandler (value : Int) : Handler :=
  fun _ => .answer (.ofInt value)

def rootGuard : Authorizer :=
  .ofTest fun invocation => invocation.call.parent.isNull

/-- A key is registered twice, a map is taken each time, and the first map is
copied; then the first map brings in a guard. -/
def twoMaps : List RegistryCommand :=
  [.add ⟨"Query", "a"⟩ (constantHandler 1), .takeMap,
    .add ⟨"Query", "a"⟩ (constantHandler 2), .takeMap, .copyMap 0,
    .install (.map 0) rootGuard]

theorem runAll_refines_twoMaps :
    let world :=
      runAll Store.driver 1 twoMaps
        (fresh none 0 (fun _ => .allowAll) .empty)
    let call (field : String) (parent : Json) : FieldCall :=
      ⟨⟨"Query", field⟩, parent, [], ⟨[], []⟩⟩
    step Store.driver 1 (.tryAdd ⟨"Query", "a"⟩ (constantHandler 3)) world =
        (.tried (.error (.duplicateResolver ⟨"Query", "a"⟩)), world) ∧
    world.registry.keys = [⟨"Query", "a"⟩] ∧
    inChargeAfter .allowAll
        (step Store.driver 1 (.install (.map 2) .allowAll) world).2.trail =
      .allowAll ∧
    (step Store.driver 1 (.resolve 2 (call "a" .null)) world).1 =
        .resolved (some (.ok (.ofInt 1))) ∧
    (step Store.driver 1 (.resolve 1 (call "a" .null)) world).1 =
        .resolved (some (.ok (.ofInt 2))) ∧
    (step Store.driver 1 (.resolve 2 (call "a" (.bool true))) world).1 =
        .resolved (some (.ok .null)) ∧
    step Store.driver 1 (.resolve 2 (call "b" .null)) world =
        (.resolved (some (.error (.notFound ⟨"Query", "b"⟩))), world) := by
  intro world call
  obtain ⟨adding, _, keysEq, _, _, installing, _, serving⟩ :=
    runAll_refines Store.driver 0 none 0 (fun _ => .allowAll) .empty twoMaps
  obtain ⟨newWrites, newTaken, newServes, _⟩ := serving 1 _ rfl
  obtain ⟨oldWrites, oldTaken, oldServes, _⟩ := serving 2 _ rfl
  have newWritesEq : newWrites =
      [(⟨"Query", "a"⟩, constantHandler 1),
        (⟨"Query", "a"⟩, constantHandler 2)] :=
    (Option.some.inj newTaken).symm
  have oldWritesEq : oldWrites =
      [(⟨"Query", "a"⟩, constantHandler 1)] :=
    (Option.some.inj oldTaken).symm
  subst newWritesEq oldWritesEq
  have registered :
      (⟨"Query", "a"⟩ : ResolverKey) ∈
        (RegistryHistory.ofCommands twoMaps).keys := by
    exact List.mem_cons_self
  refine ⟨?_, ?_, ?_, ?_, ?_, ?_, ?_⟩
  · rw [(adding ⟨"Query", "a"⟩ (constantHandler 3)).2, if_pos registered]
  · rw [keysEq]
    rfl
  · exact installing (.map 2) .allowAll rfl
  · rw [oldServes.runs (call "a" .null) (constantHandler 1) rfl rfl]
    rfl
  · rw [newServes.runs (call "a" .null) (constantHandler 2) rfl rfl]
    rfl
  · rw [oldServes.refuses (call "a" (.bool true)) List.mem_cons_self rfl]
    rfl
  · exact (oldServes.notFound_iff (call "b" .null)).mpr (by decide)

end RegistryWorld

end TableGateway

import TableGateway.Proofs.Assembly.Completion
import TableGateway.Proofs.Assembly.Delivery
import TableGateway.Proofs.Resolver.PageLimits

/-!
# The page limit of a gateway

A gateway with a page limit applies it to every page that it generates, unless
the caller has an entry for a limit. What such an entry says is left to the
driver: a number is the limit, and anything else sets none. The main statement
is `Gateway.Assembled.boundsPage`.
-/

namespace TableGateway

/-! ## Bounded pages -/

namespace Store

/-- A page that keeps to a limit: to that of the caller if it is a number, to
the one by default if the caller has no entry for a limit. Only an entry that is
no number lets all records behind the offset through. The total is that of every
page of the same resolver without a limit by default, whatever its pagination
says. -/
structure BoundsPage (store : Store) (resolver : GeneratedResolver)
    (parent : Json) (arguments : Arguments) (size total : Nat)
    (items : List Json) : Prop where
  given : ∀ limit,
    (arguments.pagination resolver.table).limit? = some limit →
      items.length ≤ limit
  unasked :
    (arguments.pagination resolver.table).contains "limit" = false →
      items.length ≤ size
  unread :
    (arguments.pagination resolver.table).contains "limit" = true →
    (arguments.pagination resolver.table).limit? = none →
      items.length =
        total - (arguments.pagination resolver.table).offset?.getD 0
  total_eq : ∀ text, ∃ others,
    store.Resolves resolver parent (arguments.withPagination text)
      (.ok (Crud.pageValue resolver.table total others)) ∧
    ((Pagination.parse text resolver.table).limit? = none →
      (Pagination.parse text resolver.table).offset? = none →
      others.length = total)

variable {nested : NestedResolve Store} {session : Session Store}
  {arguments : Arguments} {resolver : GeneratedResolver} {parent : Json}
  {size : Nat}

/-- A page that is fetched for unread arguments is bounded, if what the resolver
comes to without a limit by default is fetched in the same way. -/
theorem exists_boundsPage_of_run {arguments : OrderedMembers}
    {narrow : ParsedArguments → ParsedArguments}
    (keeps : ParsedArguments.KeepsPagination narrow)
    (resolves : ∀ others,
      session.database.Resolves resolver parent others
        (session.database.argumentsOutcome resolver.table others narrow))
    (readable : size ≤ wordMax) {value : Json}
    (returned :
      ((Program.withArguments resolver.table arguments fun parsed =>
          Crud.fetchPage (some size) resolver.table (narrow parsed)).run
            driver nested session).1 =
        some (.ok value)) :
    ∃ total items,
      value = Crud.pageValue resolver.table total items ∧
        session.database.BoundsPage resolver parent arguments size total
          items := by
  obtain ⟨parsed, stored, read, known, valueEq⟩ := exists_page_of_run returned
  have length := ParsedArguments.length_stretch_withDefaultLimit
    (narrow parsed)
    ((narrow parsed).select (session.database.rows resolver.table)) readable
  rw [keeps.paging_eq, ParsedArguments.paging_of_parse read,
    ParsedArguments.length_select] at length
  refine ⟨_, _, valueEq, ?_, ?_, ?_, ?_⟩
  · intro limit given
    rw [length, Pagination.limitOr?_of_limit? given]
    exact Nat.min_le_left _ _
  · intro unasked
    rw [length, Pagination.limitOr?, unasked]
    exact Nat.min_le_left _ _
  · intro asked unread
    rw [length, Pagination.limitOr?, if_pos asked, unread]
  · intro text
    obtain ⟨others, outcome, whole⟩ :=
      argumentsOutcome_withPagination keeps known read text
    have resolved := resolves (Arguments.withPagination arguments text)
    rw [outcome] at resolved
    exact ⟨others, resolved, whole⟩

/-- The page of a parent that refers to nothing is empty. -/
theorem boundsPage_emptyPage {store : Store} {relation : Relation}
    (absent : relation.key? parent = none) (arguments : Arguments)
    (size : Nat) :
    store.BoundsPage (.reverse relation) parent arguments size 0 [] := by
  refine ⟨fun _ _ => Nat.zero_le _, fun _ => Nat.zero_le _,
    fun _ _ => (Nat.zero_sub _).symm, ?_⟩
  intro text
  refine ⟨[], ?_, fun _ _ => rfl⟩
  intro nested session invocation _ parentEq _ _
  have answered :=
    relation.followPage_of_no_key (parentEq.symm ▸ absent)
  exact congrArg (fun program => (program.run driver nested session).1)
    answered

/-- Every page of a generated resolver is bounded. -/
theorem exists_boundsPage (paged : resolver.isPaged = true)
    {invocation : Invocation} (limited : invocation.defaultLimit = some size)
    (readable : size ≤ wordMax) {arguments : OrderedMembers}
    (given : invocation.call.arguments = arguments) {value : Json}
    (returned :
      ((resolver.handler invocation).run driver nested session).1 =
        some (.ok value)) :
    ∃ total items,
      value = Crud.pageValue resolver.table total items ∧
        session.database.BoundsPage resolver invocation.call.parent
          arguments size total items := by
  cases resolver with
  | getPage table =>
      have handlerEq : (GeneratedResolver.getPage table).handler invocation =
          Crud.getPage (some size) table arguments := by
        rw [← limited, ← given]
        rfl
      rw [handlerEq] at returned
      exact exists_boundsPage_of_run ParsedArguments.keepsPagination_id
        (resolves_getPage session.database table invocation.call.parent)
        readable returned
  | reverse relation =>
      -- A parent without a key is answered without reading the arguments.
      cases found : relation.key? invocation.call.parent with
      | none =>
          have handlerEq :
              (GeneratedResolver.reverse relation).handler invocation =
                .answer (Crud.emptyPage relation.table) :=
            relation.followPage_of_no_key found
          rw [handlerEq] at returned
          cases returned
          exact ⟨0, [], rfl, boundsPage_emptyPage found _ _⟩
      | some text =>
          have handlerEq :
              (GeneratedResolver.reverse relation).handler invocation =
                .withArguments relation.table arguments
                  fun parsed => Crud.fetchPage (some size) relation.table
                    (relation.narrowed text parsed) := by
            rw [← limited, ← given]
            exact relation.followPage_of_key found
          rw [handlerEq] at returned
          exact exists_boundsPage_of_run
            (relation.keepsPagination_narrowed text)
            (resolves_reverse session.database relation found)
            readable returned
  | getFirst table => nomatch paged
  | putItem table => nomatch paged
  | foreign relation => nomatch paged

end Store

/-! ## Gateways with a limit -/

/-- A call whose arguments stand in the order of their names. -/
structure OrderedCall extends FieldCall where
  ascending : Members.Ascending arguments

/-- The arguments, with their order. -/
def OrderedCall.orderedArguments (call : OrderedCall) : OrderedMembers :=
  ⟨call.arguments, call.ascending⟩

namespace Gateway

/-- A gateway that comes of a catalog and of some calls on its builder. -/
def Assembled (gateway : Gateway) (catalog : Catalog)
    (config : GatewayConfig) (calls : List BuilderCall) : Prop :=
  ∃ start builder, GatewayBuilder.ofCatalog catalog config = .ok start ∧
    BuilderCall.applyAll start calls = .ok builder ∧
    builder.finish = .ok gateway

/-- The gateway that a catalog determines is one without calls. -/
theorem assembled_of_build {gateway : Gateway} {catalog : Catalog}
    {config : GatewayConfig} (built : build catalog config = .ok gateway) :
    gateway.Assembled catalog config [] := by
  unfold build at built
  cases begun : GatewayBuilder.ofCatalog catalog config with
  | error fault =>
      rw [begun] at built
      cases built
  | ok start =>
      rw [begun] at built
      exact ⟨start, start, begun, rfl, built⟩

namespace Assembled

variable {gateway : Gateway} {catalog : Catalog} {config : GatewayConfig}
  {calls : List BuilderCall}
  (assembled : gateway.Assembled catalog config calls)

include assembled

/-- No call changes the limit by default. -/
theorem defaultLimit_eq :
    gateway.resolvers.defaultLimit = config.defaultPageLimit := by
  obtain ⟨start, builder, begun, applied, finished⟩ := assembled
  obtain ⟨tables, _, rfl⟩ := GatewayBuilder.exists_tables_of_ofCatalog begun
  have kept := (GatewayBuilder.extends_applyAll applied).defaultLimit_eq
  unfold GatewayBuilder.finish at finished
  cases valid : builder.validate with
  | error reason =>
      rw [valid] at finished
      cases finished
  | ok _ =>
      rw [valid] at finished
      cases finished
      exact kept.trans (Registry.defaultLimit_putAll _ _)

/-- A generated resolver stays in charge of its key, unless a call puts another
one in its place. -/
theorem runs_generated {tables : List TableMetadata}
    (found : catalog.allMetadata = .ok tables) {key : ResolverKey}
    {resolver : GeneratedResolver}
    (registered : lastWrite key (Registry.registrations tables) =
      some resolver)
    (kept : key ∉ (calls.filterMap (·.handlerWrite?)).map Prod.fst) :
    gateway.Runs key resolver.handler := by
  obtain ⟨start, builder, begun, applied, finished⟩ := assembled
  have begins := GatewayBuilder.begins_of_ofCatalog begun
  have completes :=
    GatewayBuilder.completes_of_finish begins.unrendered applied finished
  obtain ⟨sameTables, sameFound, generated⟩ := begins.generated
  obtain rfl : sameTables = tables :=
    Except.ok.inj (sameFound.symm.trans found)
  apply completes.runs_generated key _ kept
  rw [generated, registered, Option.map_some]

/-- Whenever an allowed call of a generated resolver of pages succeeds, the page
keeps to the limit. -/
theorem boundsPage {size : Nat}
    (configured : config.defaultPageLimit = some size)
    (readable : size ≤ wordMax) {tables : List TableMetadata}
    (found : catalog.allMetadata = .ok tables) {call : OrderedCall}
    {resolver : GeneratedResolver} (paged : resolver.isPaged = true)
    (registered : lastWrite call.key (Registry.registrations tables) =
      some resolver)
    (kept : call.key ∉ (calls.filterMap (·.handlerWrite?)).map Prod.fst)
    {depth : Nat} {session after : Session Store} {value : Json}
    (allowed : session.authorizer.validate
      (gateway.resolvers.invocation call.toFieldCall) = true)
    (returned : gateway.resolve Store.driver depth call.toFieldCall session =
      (some (.ok value), after)) :
    ∃ total items,
      value = Crud.pageValue resolver.table total items ∧
        session.database.BoundsPage resolver call.parent call.arguments size
          total items := by
  have runs := assembled.runs_generated found registered kept
  have limited :
      (gateway.resolvers.invocation call.toFieldCall).defaultLimit =
        some size :=
    assembled.defaultLimit_eq.trans configured
  cases depth with
  | zero => nomatch returned
  | succ depth =>
      rw [runs Store Store.driver depth call.toFieldCall session rfl allowed]
        at returned
      obtain ⟨inner, ran, _⟩ := Session.exists_of_leave_eq_some returned
      have given :
          (gateway.resolvers.invocation call.toFieldCall).call.arguments =
            call.orderedArguments := rfl
      have bounded := Store.exists_boundsPage paged limited readable given
        (congrArg Prod.fst ran)
      rw [Session.database_record, Session.database_check] at bounded
      exact bounded

end Assembled

/-! ## Pages of people -/

/-- Pages of two people at most. -/
def peopleConfig : GatewayConfig :=
  GatewayConfig.standard.withDefaultPageLimit 2

def peoplePage (arguments : Arguments) : FieldCall :=
  ⟨⟨"Query", "personGetPage"⟩, .null, arguments, ⟨[], []⟩⟩

/-- Without an entry for a limit the page is bounded. -/
theorem Assembled.boundsPage_people :
    let call : OrderedCall :=
      ⟨peoplePage [("filter", .string "id >= 2")], by decide⟩
    ∃ (gateway : Gateway) (total : Nat) (items : List Json)
      (after : Session Store),
      gateway.Assembled Store.peopleStore.catalog peopleConfig [] ∧
      gateway.resolve Store.driver 1 call.toFieldCall
          (.start Store.peopleStore .allowAll) =
        (some (.ok (Crud.pageValue "person" total items)), after) ∧
      Store.peopleStore.BoundsPage (.getPage "person") .null call.arguments 2
        total items := by
  intro call
  have found : Store.peopleStore.catalog.allMetadata =
      .ok [Store.peopleTable.metadata] := rfl
  have assembled := assembled_of_build (build_of_metadata peopleConfig found)
  obtain ⟨value, after, returned⟩ : ∃ value after,
      (ofMetadata Store.peopleStore.catalog peopleConfig
          [Store.peopleTable.metadata]).resolve Store.driver 1
            call.toFieldCall (.start Store.peopleStore .allowAll) =
        (some (.ok value), after) :=
    ⟨_, _, rfl⟩
  have registered : lastWrite call.key
      (Registry.registrations [Store.peopleTable.metadata]) =
        some (.getPage "person") := by
    decide +kernel
  obtain ⟨total, items, rfl, bounded⟩ :=
    assembled.boundsPage rfl (by decide) found rfl registered
      List.not_mem_nil rfl returned
  exact ⟨_, total, items, after, assembled, returned, bounded⟩

/-- An entry that is no number sets no limit. -/
theorem not_limited_limitAll :
    ∃ (gateway : Gateway) (after : Session Store),
      build Store.peopleStore.catalog peopleConfig = .ok gateway ∧
      gateway.resolve Store.driver 1
          (peoplePage [("pagination", .string "limit=all")])
          (.start Store.peopleStore .allowAll) =
        (some (.ok (Crud.pageValue "person" 4 Store.peopleRows)), after) ∧
      (Pagination.parse "limit=all" "person").limit? = none ∧
      ¬Store.peopleRows.length ≤ 2 := by
  have found : Store.peopleStore.catalog.allMetadata =
      .ok [Store.peopleTable.metadata] := rfl
  refine ⟨_, _, build_of_metadata peopleConfig found, rfl, ?_, ?_⟩
  · decide
  · decide

end Gateway

end TableGateway

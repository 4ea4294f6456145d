import TableGateway.Proofs.Assembly.PageLimits
import TableGateway.Proofs.Authorization.Resolving
import TableGateway.Proofs.Resolver.KeyClauses
import TableGateway.Proofs.Store.KeyRuns

/-!
# Foreign keys and reverse relations are inverse

A child finds its parent by a clause with the literal of its own key, and a
parent finds its children by a clause with the literal of its own key. Both
clauses come to the same, although each compares a value of JSON with a text
that is made of the other one. The main statement is
`Link.traverses_both_ways`.
-/

namespace TableGateway

/-! ## Calls without arguments -/

/-- The request to the driver that an event is, if it is one. -/
def AuditEvent.request? : AuditEvent → Option DataRequest
  | requested request => some request
  | _ => none

namespace Session

variable {State : Type}

/-- The requests that have been polled, in order. -/
def requests (session : Session State) : List DataRequest :=
  session.trail.filterMap (·.request?)

theorem requests_check (session : Session State) (invocation : Invocation) :
    (session.check invocation).2.requests = session.requests := by
  obtain ⟨changes, trailEq⟩ := session.trail_check invocation
  unfold requests
  rw [trailEq, List.filterMap_append, List.filterMap_cons,
    List.filterMap_map]
  simp [AuditEvent.request?]

theorem requests_leave {result : Type} (invocation : Invocation)
    (outcome : Option result × Session State) :
    (leave invocation outcome).2.requests = outcome.2.requests := by
  obtain ⟨_ | value, session⟩ := outcome
  · rfl
  · simp [leave, requests, AuditEvent.request?]

end Session

/-- An allowed call comes to what the handler of its key comes to, and puts the
same requests to the driver. -/
theorem Gateway.Runs.exists_run {gateway : Gateway} {handler : Handler}
    (call : FieldCall) (runs : gateway.Runs call.key handler)
    {State : Type} (driver : Driver State) (depth : Nat)
    {session : Session State}
    (allowed : session.authorizer.validate
      (gateway.resolvers.invocation call) = true) :
    ∃ (nested : NestedResolve State) (entered : Session State),
      entered.database = session.database ∧
      entered.requests = session.requests ∧
      (gateway.resolve driver (depth + 1) call session).1 =
        ((handler (gateway.resolvers.invocation call)).run driver nested
          entered).1 ∧
      (gateway.resolve driver (depth + 1) call session).2.requests =
        ((handler (gateway.resolvers.invocation call)).run driver nested
          entered).2.requests := by
  have resolved := runs State driver depth call session rfl allowed
  refine ⟨_, _, ?_, ?_,
    (congrArg Prod.fst resolved).trans (Session.leave_fst _ _),
    (congrArg (·.2.requests) resolved).trans (Session.requests_leave _ _)⟩
  · rw [Session.database_record, Session.database_check]
  · rw [← session.requests_check (gateway.resolvers.invocation call)]
    simp [Session.requests, AuditEvent.request?]

/-! ## Links between tables -/

/-- A foreign key: a column of a child table that refers to a column of a parent
table. -/
structure Link where
  child : String
  column : String
  parent : String
  key : String

/-- No other generated resolver has the last word on a key, and no call on the
builder puts a handler in its place. -/
structure Store.KeepsResolver (store : Store) (calls : List BuilderCall)
    (key : ResolverKey) (resolver : GeneratedResolver) : Prop where
  generated : ∀ tables other, store.catalog.allMetadata = .ok tables →
    lastWrite key (Registry.registrations tables) = some other →
      other = resolver
  manual : key ∉ (calls.filterMap (·.handlerWrite?)).map Prod.fst

namespace Link

variable (link : Link)

/-- From a row of the child table to its parent. -/
def toParent : Relation :=
  ⟨link.column, link.parent, link.key⟩

/-- From a row of the parent table to its children. -/
def toChildren : Relation :=
  ⟨link.key, link.child, link.column⟩

def parentField : ResolverKey :=
  ⟨Naming.typeName link.child,
    Naming.foreignField link.column link.parent⟩

def childrenField : ResolverKey :=
  ⟨Naming.typeName link.parent, Naming.reverseField link.child⟩

/-- The child table of a store has the foreign key, and the parent table has the
reverse relation that belongs to it. -/
structure IsDeclared (store : Store) : Prop where
  foreign : ∃ stored, store.table? link.child = some stored ∧
    ∃ column ∈ stored.metadata.columns,
      column.name = link.column ∧
        column.foreign = some ⟨link.parent, link.key⟩
  reverse : ∃ stored, store.table? link.parent = some stored ∧
    ⟨link.child, link.column, link.key⟩ ∈ stored.metadata.reverse

/-- The names of both fields are not taken by others. -/
structure IsKept (store : Store) (calls : List BuilderCall) : Prop where
  foreign : store.KeepsResolver calls link.parentField
    (.foreign link.toParent)
  reverse : store.KeepsResolver calls link.childrenField
    (.reverse link.toChildren)

/-- Without arguments, a parent has a page of children, a child asks the driver
for the first parent that satisfies a condition, and nothing else, and the page
shows the child exactly if the parent satisfies the condition. -/
def IsInverse (gateway : Gateway) (session : Session Store)
    (record owner : Json) : Prop :=
  ∀ (depth : Nat) (context : RequestContext),
    let found := gateway.resolve Store.driver (depth + 1)
      ⟨link.parentField, record, [], context⟩ session
    ∃ items condition,
      (gateway.resolve Store.driver (depth + 1)
          ⟨link.childrenField, owner, [], context⟩ session).1 =
        some (.ok (Crud.pageValue link.child items.length items)) ∧
      found.2.requests =
        session.requests ++
          [.firstOf link.parent (.ofFilter link.parent condition)] ∧
      found.1 = some (.ok
        (((session.database.rows link.parent).find?
          condition.isSatisfied).getD .null)) ∧
      (record ∈ items ↔ condition.isSatisfied owner = true)

end Link

/-! ## Registration -/

namespace Store

variable {store : Store} {tables : List TableMetadata}

theorem metadata_mem_of_known
    (found : store.catalog.allMetadata = .ok tables) {name : String}
    {stored : StoredTable} (known : store.table? name = some stored) :
    stored.metadata ∈ tables ∧ stored.metadata.name = name := by
  have named : stored.metadata.name = name := by
    unfold table? at known
    have sameName := List.find?_some known
    exact beq_iff_eq.mp sameName
  have listed : name ∈ store.catalog.tables :=
    List.mem_map.mpr ⟨stored, List.mem_of_find?_eq_some known, named⟩
  obtain ⟨names, each⟩ := of_metadataOf found
  rw [← names] at listed
  obtain ⟨metadata, member, rfl⟩ := List.mem_map.mp listed
  obtain ⟨other, otherKnown, rfl⟩ := each metadata member
  rw [known, Option.some.injEq] at otherKnown
  rw [otherKnown]
  exact ⟨member, rfl⟩

theorem keepsResolver_of_lastWrite
    (found : store.catalog.allMetadata = .ok tables)
    {calls : List BuilderCall} {key : ResolverKey}
    {resolver : GeneratedResolver}
    (last : lastWrite key (Registry.registrations tables) = some resolver)
    (manual : key ∉ (calls.filterMap (·.handlerWrite?)).map Prod.fst) :
    store.KeepsResolver calls key resolver := by
  refine ⟨?_, manual⟩
  intro others other otherFound otherLast
  rw [found, Except.ok.injEq] at otherFound
  rw [← otherFound, last, Option.some.injEq] at otherLast
  exact otherLast.symm

theorem KeepsResolver.lastWrite_eq {calls : List BuilderCall}
    {key : ResolverKey} {resolver : GeneratedResolver}
    (kept : store.KeepsResolver calls key resolver)
    (found : store.catalog.allMetadata = .ok tables)
    (registered : (key, resolver) ∈ Registry.registrations tables) :
    lastWrite key (Registry.registrations tables) = some resolver := by
  have present := (isSome_lastWrite_iff _ _).mpr ⟨resolver, registered⟩
  obtain ⟨last, lastEq⟩ := Option.isSome_iff_exists.mp present
  rw [lastEq, kept.generated tables last found lastEq]

end Store

namespace Link

variable {link : Link} {store : Store} {tables : List TableMetadata}

theorem IsDeclared.foreign_mem (declared : link.IsDeclared store)
    (found : store.catalog.allMetadata = .ok tables) :
    (link.parentField, .foreign link.toParent) ∈
      Registry.registrations tables := by
  obtain ⟨stored, known, column, columnMember, columnName, refers⟩ :=
    declared.foreign
  obtain ⟨member, named⟩ := Store.metadata_mem_of_known found known
  have keyMember : (column, ⟨link.parent, link.key⟩) ∈
      stored.metadata.foreignKeys :=
    List.mem_filterMap.mpr ⟨column, columnMember, by rw [refers]; rfl⟩
  have resolverEq :
      stored.metadata.foreignResolver
          (column, ⟨link.parent, link.key⟩) =
        (link.parentField, .foreign link.toParent) := by
    rw [TableMetadata.foreignResolver, named, columnName]
    rfl
  apply List.mem_flatMap_of_mem member
  rw [TableMetadata.resolvers_eq, ← resolverEq]
  exact List.mem_append_right _
    (List.mem_append_left _ (List.mem_map_of_mem keyMember))

theorem IsDeclared.reverse_mem (declared : link.IsDeclared store)
    (found : store.catalog.allMetadata = .ok tables) :
    (link.childrenField, .reverse link.toChildren) ∈
      Registry.registrations tables := by
  obtain ⟨stored, known, relationMember⟩ := declared.reverse
  obtain ⟨member, named⟩ := Store.metadata_mem_of_known found known
  have resolverEq :
      stored.metadata.reverseResolver
          ⟨link.child, link.column, link.key⟩ =
        (link.childrenField, .reverse link.toChildren) := by
    rw [TableMetadata.reverseResolver, named]
    rfl
  apply List.mem_flatMap_of_mem member
  rw [← resolverEq]
  exact List.mem_append_right _ (List.mem_map_of_mem relationMember)

end Link

/-! ## Traversals -/

namespace Relation

variable (relation : Relation)

/-- The condition of a relation alone. -/
def condition (text : String) : FilterCondition :=
  ⟨relation.table, [.equal relation.column text]⟩

theorem isSatisfied_condition (text : String) (row : Json) :
    (relation.condition text).isSatisfied row =
      (FilterClause.equal relation.column text).isSatisfied row :=
  Bool.and_true _

end Relation

namespace Link

variable {link : Link} {gateway : Gateway} {session : Session Store}
  {stored : StoredTable} {record owner : Json} {left right : JoinKey}

/-- Without arguments, a parent has the page of the children that satisfy the
condition with its key. -/
theorem fst_resolve_childrenField
    (runs : gateway.Runs link.childrenField
      (GeneratedResolver.reverse link.toChildren).handler)
    (unlimited : gateway.resolvers.defaultLimit = none)
    (known : session.database.table? link.child = some stored)
    (held : owner.get? link.key = some right.toJson)
    (allowed : ∀ invocation, session.authorizer.validate invocation = true)
    (depth : Nat) (context : RequestContext) :
    let items := (session.database.rows link.child).filter
      (link.toChildren.condition right.literal).isSatisfied
    (gateway.resolve Store.driver (depth + 1)
        ⟨link.childrenField, owner, [], context⟩ session).1 =
      some (.ok (Crud.pageValue link.child items.length items)) := by
  intro items
  let call : FieldCall := ⟨link.childrenField, owner, [], context⟩
  obtain ⟨nested, entered, databaseEq, _, outcomeEq, _⟩ :=
    Gateway.Runs.exists_run call runs Store.driver depth (allowed _)
  have resolves := session.database.resolves_reverse link.toChildren
    (Relation.key?_of_held held) []
  have pageEq :
      session.database.argumentsOutcome link.child []
          (link.toChildren.narrowed right.literal) =
        .ok (Crud.pageValue link.child items.length items) := by
    change session.database.pageOutcome link.child
      (.ofFilter link.child (link.toChildren.condition right.literal)) = _
    rw [Store.pageOutcome, Store.select_of_known known]
    rfl
  rw [outcomeEq, resolves nested entered _ (by rw [databaseEq]) rfl rfl
    unlimited]
  exact congrArg some pageEq

/-- Without arguments, a child asks for the first parent that satisfies the
condition with its key, and comes to that parent or to null. -/
theorem resolve_parentField
    (runs : gateway.Runs link.parentField
      (GeneratedResolver.foreign link.toParent).handler)
    (known : session.database.table? link.parent = some stored)
    (held : record.get? link.column = some left.toJson)
    (allowed : ∀ invocation, session.authorizer.validate invocation = true)
    (depth : Nat) (context : RequestContext) :
    let condition := link.toParent.condition left.literal
    let found := gateway.resolve Store.driver (depth + 1)
      ⟨link.parentField, record, [], context⟩ session
    found.2.requests =
        session.requests ++
          [.firstOf link.parent (.ofFilter link.parent condition)] ∧
      found.1 = some (.ok
        (((session.database.rows link.parent).find?
          condition.isSatisfied).getD .null)) := by
  intro condition found
  let call : FieldCall := ⟨link.parentField, record, [], context⟩
  obtain ⟨nested, entered, databaseEq, requestsEq, outcomeEq, askedEq⟩ :=
    Gateway.Runs.exists_run call runs Store.driver depth (allowed _)
  have programEq :
      (GeneratedResolver.foreign link.toParent).handler
          (gateway.resolvers.invocation call) =
        Crud.fetchFirst link.parent (.ofFilter link.parent condition) :=
    link.toParent.followOne_of_key (Relation.key?_of_held held)
  rw [programEq] at outcomeEq askedEq
  constructor
  · refine askedEq.trans ?_
    have polled : (entered.ask Store.driver
        (.firstOf link.parent
          (.ofFilter link.parent condition))).2.requests =
        entered.requests ++
          [.firstOf link.parent (.ofFilter link.parent condition)] :=
      List.filterMap_append
    rw [Program.snd_run_fetchFirst, polled, requestsEq]
  · refine outcomeEq.trans ?_
    rw [Store.run_fetchFirst, databaseEq, Store.select_of_known known]
    dsimp only
    rw [← List.head?_filter]
    rfl

/-- Both clauses come down to whether the two keys are alike. -/
theorem isInverse_of_runs {childStored parentStored : StoredTable}
    (runsForeign : gateway.Runs link.parentField
      (GeneratedResolver.foreign link.toParent).handler)
    (runsReverse : gateway.Runs link.childrenField
      (GeneratedResolver.reverse link.toChildren).handler)
    (unlimited : gateway.resolvers.defaultLimit = none)
    (childKnown : session.database.table? link.child = some childStored)
    (parentKnown : session.database.table? link.parent = some parentStored)
    (allowed : ∀ invocation, session.authorizer.validate invocation = true)
    (member : record ∈ session.database.rows link.child)
    (recordHolds : record.get? link.column = some left.toJson)
    (ownerHolds : owner.get? link.key = some right.toJson)
    (sameKind : left.SameKind right) :
    link.IsInverse gateway session record owner := by
  intro depth context found
  obtain ⟨requestsEq, outcomeEq⟩ := resolve_parentField runsForeign
    parentKnown recordHolds allowed depth context
  refine ⟨_, _,
    fst_resolve_childrenField runsReverse unlimited childKnown ownerHolds
      allowed depth context,
    requestsEq, outcomeEq, ?_⟩
  calc
    record ∈ (session.database.rows link.child).filter
          (link.toChildren.condition right.literal).isSatisfied ↔
        (FilterClause.equal link.column right.literal).isSatisfied record =
          true := by
      rw [List.mem_filter, Relation.isSatisfied_condition]
      exact and_iff_right member
    _ ↔ left.Alike right :=
      JoinKey.isSatisfied_equal_of_held recordHolds sameKind
    _ ↔ right.Alike left := left.alike_comm right
    _ ↔ (FilterClause.equal link.key left.literal).isSatisfied owner =
          true :=
      (JoinKey.isSatisfied_equal_of_held ownerHolds sameKind.symm).symm
    _ ↔ (link.toParent.condition left.literal).isSatisfied owner = true := by
      rw [Relation.isSatisfied_condition]
      rfl

/-- For a store that declares a foreign key and the reverse relation that
belongs to it: a gateway comes about, and in every gateway of the store, without
a page limit, where other resolvers do not take the names of the two fields, the
two are inverse, for every child among the rows and every parent that hold keys
of one kind, whatever the rows are at the time of the calls. -/
theorem traverses_both_ways {store : Store}
    (declared : link.IsDeclared store) {config : GatewayConfig}
    (unlimited : config.defaultPageLimit = none) :
    (∃ gateway, Gateway.build store.catalog config = .ok gateway) ∧
    ∀ calls (gateway : Gateway),
      gateway.Assembled store.catalog config calls →
      link.IsKept store calls →
      ∀ session : Session Store, session.database.tables = store.tables →
        (∀ invocation, session.authorizer.validate invocation = true) →
        ∀ record ∈ session.database.rows link.child, ∀ (owner : Json)
          (left right : JoinKey),
          record.get? link.column = some left.toJson →
          owner.get? link.key = some right.toJson →
          left.SameKind right →
          link.IsInverse gateway session record owner := by
  obtain ⟨tables, found⟩ := store.exists_allMetadata
  refine ⟨⟨_, Gateway.build_of_metadata config found⟩, ?_⟩
  intro calls gateway assembled kept session sameTables allowed record member
    owner left right recordHolds ownerHolds sameKind
  have knownEq := Store.table?_eq_of_tables sameTables
  obtain ⟨childStored, childKnown, _⟩ := declared.foreign
  obtain ⟨parentStored, parentKnown, _⟩ := declared.reverse
  exact isInverse_of_runs
    (assembled.runs_generated found
      (kept.foreign.lastWrite_eq found (declared.foreign_mem found))
      kept.foreign.manual)
    (assembled.runs_generated found
      (kept.reverse.lastWrite_eq found (declared.reverse_mem found))
      kept.reverse.manual)
    (assembled.defaultLimit_eq.trans unlimited)
    ((knownEq _).trans childKnown) ((knownEq _).trans parentKnown)
    allowed member recordHolds ownerHolds sameKind

/-! ## Authors and their books -/

def author : TableMetadata where
  name := "author"
  columns := [⟨"id", "bigint", none⟩]
  reverse := [⟨"book", "author_id", "id"⟩]

def book : TableMetadata where
  name := "book"
  columns := [⟨"author_id", "bigint", some ⟨"author", "id"⟩⟩]
  reverse := []

def authorship : Link :=
  ⟨"book", "author_id", "author", "id"⟩

/-- A book whose author is not in the table, next to an author whose key has the
same double. -/
def library : Store :=
  (((Store.empty.withTable author "id").withTable book "author_id").setRows
    "author" [.object [("id", .ofInt 9007199254740992)]]).setRows
      "book" [.object [("author_id", .ofInt 9007199254740993)]]

theorem isDeclared_authorship : authorship.IsDeclared library where
  foreign := ⟨_, rfl, _, List.mem_singleton_self _, rfl, rfl⟩
  reverse := ⟨_, rfl, List.mem_singleton_self _⟩

theorem isKept_authorship : authorship.IsKept library [] := by
  have found : library.catalog.allMetadata = .ok [author, book] := rfl
  exact ⟨Store.keepsResolver_of_lastWrite found (by decide +kernel)
      List.not_mem_nil,
    Store.keepsResolver_of_lastWrite found (by decide +kernel)
      List.not_mem_nil⟩

/-- Beyond the integers that are exact as doubles, both ways still agree. -/
theorem traverses_both_ways_authorship :
    authorship.IsDeclared library ∧ authorship.IsKept library [] ∧
    ∃ gateway, Gateway.build library.catalog .standard = .ok gateway ∧
      authorship.IsInverse gateway (.start library .allowAll)
        (.object [("author_id", .ofInt 9007199254740993)])
        (.object [("id", .ofInt 9007199254740992)]) := by
  have unlimited : GatewayConfig.standard.defaultPageLimit = none := rfl
  obtain ⟨⟨gateway, built⟩, inverse⟩ :=
    traverses_both_ways isDeclared_authorship unlimited
  refine ⟨isDeclared_authorship, isKept_authorship, gateway, built, ?_⟩
  exact inverse [] gateway (Gateway.assembled_of_build built)
    isKept_authorship (.start library .allowAll) rfl (fun _ => rfl) _
    (List.mem_singleton_self _) _ (.integer 9007199254740993)
    (.integer 9007199254740992) rfl rfl trivial

end Link

end TableGateway

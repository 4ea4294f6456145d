import TableGateway.Proofs.Resolver.Registrations
import TableGateway.Proofs.Schema.ObjectType

/-!
# The resolvers of the relations of a table

A generated handler that follows a relation tells which one by the first thing
it does: so no two relations of a table share a handler, and a relation whose
key is taken by a later one has lost its resolver. `keepsRelations_iff` says
when that happens.
-/

namespace TableGateway

/-! ## Handlers tell relations apart -/

/-- The request that a program polls first, if it begins with one. -/
def Program.firstRequest? : Program Outcome → Option DataRequest
  | .ask request _ => some request
  | .join first _ _ => some first
  | _ => none

namespace Relation

/-- A call without arguments from a parent that holds the empty text. -/
def probe (relation : Relation) : Invocation :=
  ⟨⟨⟨"", ""⟩, .object [(relation.parentColumn, .string "")], [],
    ⟨[], []⟩⟩, [], none⟩

/-- What a relation makes of no arguments for the empty text. -/
def probeArguments (relation : Relation) : ParsedArguments :=
  relation.narrowed "" (.empty relation.table)

theorem key?_probe (relation other : Relation) :
    other.key? relation.probe.call.parent =
      if other.parentColumn = relation.parentColumn then some ""
      else none := by
  unfold key? probe
  by_cases same : other.parentColumn = relation.parentColumn
  · rw [if_pos same, same]
    simp [Json.get?, OrderedMap.findEntry, Json.literal?]
  · rw [if_neg same]
    simp [Json.get?, OrderedMap.findEntry, Ne.symm same]

theorem firstRequest?_followOne_probe (relation other : Relation) :
    (other.followOne relation.probe).firstRequest? =
      if other.parentColumn = relation.parentColumn then
        some (.firstOf other.table other.probeArguments)
      else none := by
  unfold followOne
  rw [key?_probe]
  by_cases same : other.parentColumn = relation.parentColumn
  · rw [if_pos same, if_pos same]
    rfl
  · rw [if_neg same, if_neg same]
    rfl

theorem firstRequest?_followPage_probe (relation other : Relation) :
    (other.followPage relation.probe).firstRequest? =
      if other.parentColumn = relation.parentColumn then
        some (.pageTotal other.table other.probeArguments)
      else none := by
  unfold followPage
  rw [key?_probe]
  by_cases same : other.parentColumn = relation.parentColumn
  · rw [if_pos same, if_pos same]
    rfl
  · rw [if_neg same, if_neg same]
    rfl

theorem eq_of_probeArguments_eq {relation other : Relation}
    (sameParent : relation.parentColumn = other.parentColumn)
    (sameTable : relation.table = other.table)
    (sameArguments : relation.probeArguments = other.probeArguments) :
    relation = other := by
  obtain ⟨parentColumn, table, column⟩ := relation
  obtain ⟨otherParent, otherTable, otherColumn⟩ := other
  have clausesEq :=
    congrArg
      (fun parsed : ParsedArguments => parsed.filter.map (·.clauses))
      sameArguments
  simp only [probeArguments, narrowed, ParsedArguments.empty,
    FilterCondition.empty, FilterCondition.add, FilterClause.equal,
    Option.getD_none, Option.map_some, List.nil_append, Option.some.injEq,
    List.cons.injEq, FilterClause.mk.injEq, and_true] at clausesEq
  rw [Relation.mk.injEq]
  exact ⟨sameParent, sameTable, clausesEq⟩

theorem followOne_injective : Function.Injective followOne := by
  intro relation other same
  have firstEq :=
    congrArg Program.firstRequest? (congrFun same other.probe)
  rw [firstRequest?_followOne_probe, firstRequest?_followOne_probe,
    if_pos rfl] at firstEq
  by_cases sameParent : relation.parentColumn = other.parentColumn
  · rw [if_pos sameParent, Option.some.injEq] at firstEq
    obtain ⟨sameTable, sameArguments⟩ := DataRequest.firstOf.inj firstEq
    exact eq_of_probeArguments_eq sameParent sameTable sameArguments
  · rw [if_neg sameParent] at firstEq
    cases firstEq

theorem followPage_injective : Function.Injective followPage := by
  intro relation other same
  have firstEq :=
    congrArg Program.firstRequest? (congrFun same other.probe)
  rw [firstRequest?_followPage_probe, firstRequest?_followPage_probe,
    if_pos rfl] at firstEq
  by_cases sameParent : relation.parentColumn = other.parentColumn
  · rw [if_pos sameParent, Option.some.injEq] at firstEq
    obtain ⟨sameTable, sameArguments⟩ := DataRequest.pageTotal.inj firstEq
    exact eq_of_probeArguments_eq sameParent sameTable sameArguments
  · rw [if_neg sameParent] at firstEq
    cases firstEq

end Relation

namespace GeneratedResolver

/-- Whether a resolver follows a relation. -/
def IsRelation : GeneratedResolver → Prop
  | foreign _ | reverse _ => True
  | _ => False

/-- A call without parent and arguments. -/
def rootCall : Invocation :=
  ⟨⟨⟨"", ""⟩, .null, [], ⟨[], []⟩⟩, [], none⟩

/-- The handler of a relation is that of no other generated resolver. -/
theorem eq_of_handler_eq {resolver other : GeneratedResolver}
    (follows : resolver.IsRelation)
    (same : resolver.handler = other.handler) :
    resolver = other := by
  have atRoot := congrFun same rootCall
  cases resolver with
  | getPage table => exact follows.elim
  | getFirst table => exact follows.elim
  | putItem table => exact follows.elim
  | foreign relation =>
      cases other with
      | getPage table => nomatch atRoot
      | getFirst table => nomatch atRoot
      | putItem table => nomatch atRoot
      | foreign second => rw [Relation.followOne_injective same]
      | reverse second => nomatch atRoot
  | reverse relation =>
      cases other with
      | getPage table => nomatch atRoot
      | getFirst table => nomatch atRoot
      | putItem table => nomatch atRoot
      | foreign second => nomatch atRoot
      | reverse second => rw [Relation.followPage_injective same]

end GeneratedResolver

namespace TableMetadata

variable {metadata : TableMetadata}

/-- The resolvers of the relations of a table. -/
def relationResolvers (metadata : TableMetadata) :
    List (ResolverKey × GeneratedResolver) :=
  metadata.foreignKeys.map metadata.foreignResolver ++
    metadata.reverse.map metadata.reverseResolver

theorem resolvers_eq (metadata : TableMetadata) :
    metadata.resolvers =
      metadata.rootResolvers ++ metadata.relationResolvers :=
  List.append_assoc _ _ _

theorem map_fst_relationResolvers (metadata : TableMetadata) :
    metadata.relationResolvers.map Prod.fst =
      metadata.relationFieldNames.map
        (ResolverKey.mk (Naming.typeName metadata.name)) := by
  unfold relationResolvers relationFieldNames
  simp only [List.map_append, List.map_map]
  rfl

theorem isRelation_of_mem_relationResolvers
    {entry : ResolverKey × GeneratedResolver}
    (member : entry ∈ metadata.relationResolvers) :
    entry.2.IsRelation := by
  rcases List.mem_append.mp member with inForeign | inReverse
  · obtain ⟨key, _, rfl⟩ := List.mem_map.mp inForeign
    trivial
  · obtain ⟨relation, _, rfl⟩ := List.mem_map.mp inReverse
    trivial

theorem mem_relationResolvers_of_mem_resolvers
    {entry : ResolverKey × GeneratedResolver}
    (member : entry ∈ metadata.resolvers)
    (follows : entry.2.IsRelation) :
    entry ∈ metadata.relationResolvers := by
  rw [resolvers_eq] at member
  rcases List.mem_append.mp member with inRoot | inRelations
  · simp only [rootResolvers, List.mem_cons, List.not_mem_nil,
      or_false] at inRoot
    rcases inRoot with rfl | rfl | rfl
    · exact follows.elim
    · exact follows.elim
    · exact follows.elim
  · exact inRelations

theorem foreignKeyNames_sublist (metadata : TableMetadata) :
    (metadata.foreignKeys.map (·.1.name)).Sublist
      metadata.columnNames := by
  unfold foreignKeys columnNames
  induction metadata.columns with
  | nil => exact List.Sublist.slnil
  | cons column rest inductionHypothesis =>
      cases target : column.foreign with
      | none =>
          rw [List.filterMap_cons_none (by rw [target]; rfl)]
          exact inductionHypothesis.cons _
      | some found =>
          rw [List.filterMap_cons_some (by rw [target]; rfl)]
          exact inductionHypothesis.cons_cons _

/-- The relations of a table are different ones if its columns have different
names and no reverse relation is declared twice. -/
theorem nodup_map_snd_relationResolvers
    (columnsDistinct : metadata.columnNames.Nodup)
    (reverseDistinct : metadata.reverse.Nodup) :
    (metadata.relationResolvers.map Prod.snd).Nodup := by
  unfold relationResolvers
  rw [List.map_append, List.map_map, List.map_map]
  refine List.Nodup.append ?_ ?_ ?_
  · apply List.Nodup.of_map fun resolver =>
      match resolver with
      | .foreign relation => relation.parentColumn
      | _ => ""
    rw [List.map_map]
    exact columnsDistinct.sublist metadata.foreignKeyNames_sublist
  · refine reverseDistinct.map ?_
    intro first second same
    obtain ⟨childTable, childColumn, column⟩ := first
    obtain ⟨otherTable, otherChild, otherColumn⟩ := second
    obtain ⟨sameColumn, sameTable, sameChild⟩ :=
      Relation.mk.inj (GeneratedResolver.reverse.inj same)
    rw [ReverseRelation.mk.injEq]
    exact ⟨sameTable, sameChild, sameColumn⟩
  · intro resolver inForeign inReverse
    obtain ⟨key, _, rfl⟩ := List.mem_map.mp inForeign
    obtain ⟨relation, _, same⟩ := List.mem_map.mp inReverse
    nomatch same

end TableMetadata

namespace Registry

variable {metadata : TableMetadata} {limit : Option Nat}

/-- Every foreign key and every child table of a table has a resolver that
joins exactly the columns that it declares. -/
def KeepsRelations (registry : Registry) (metadata : TableMetadata) :
    Prop :=
  (∀ key ∈ metadata.foreignKeys, ∃ place,
    registry.handler? place =
      some (Relation.mk key.1.name key.2.table key.2.column).followOne) ∧
  ∀ relation ∈ metadata.reverse, ∃ place,
    registry.handler? place =
      some
        (Relation.mk relation.column relation.childTable
          relation.childColumn).followPage

theorem keepsRelations_iff_relationResolvers (registry : Registry)
    (metadata : TableMetadata) :
    registry.KeepsRelations metadata ↔
      ∀ entry ∈ metadata.relationResolvers, ∃ place,
        registry.handler? place = some entry.2.handler := by
  unfold TableMetadata.relationResolvers KeepsRelations
  rw [List.forall_mem_append, List.forall_mem_map, List.forall_mem_map]
  rfl

theorem handler?_registerTable_empty (metadata : TableMetadata)
    (limit : Option Nat) (key : ResolverKey) :
    ((empty limit).registerTable metadata).handler? key =
      (lastWrite key metadata.resolvers).map (·.handler) := by
  refine (handler?_putAll (empty limit) metadata.resolvers key).trans ?_
  exact Option.or_none

/-- If every relation has a resolver, it has it under its own key. -/
theorem lastWrite_of_keepsRelations
    (columnsDistinct : metadata.columnNames.Nodup)
    (reverseDistinct : metadata.reverse.Nodup)
    (kept : ((empty limit).registerTable metadata).KeepsRelations metadata)
    {entry : ResolverKey × GeneratedResolver}
    (member : entry ∈ metadata.relationResolvers) :
    lastWrite entry.1 metadata.resolvers = some entry.2 := by
  have follows := TableMetadata.isRelation_of_mem_relationResolvers member
  obtain ⟨place, found⟩ :=
    (keepsRelations_iff_relationResolvers _ metadata).mp kept entry member
  rw [handler?_registerTable_empty, Option.map_eq_some_iff] at found
  obtain ⟨resolver, written, same⟩ := found
  have sameResolver :=
    GeneratedResolver.eq_of_handler_eq follows same.symm
  subst sameResolver
  have placeMember :
      (place, entry.2) ∈ metadata.relationResolvers :=
    TableMetadata.mem_relationResolvers_of_mem_resolvers
      (mem_of_lastWrite written) follows
  have sameEntry : (place, entry.2) = entry :=
    List.inj_on_of_nodup_map
      (TableMetadata.nodup_map_snd_relationResolvers columnsDistinct
        reverseDistinct)
      placeMember member rfl
  rw [← congrArg Prod.fst sameEntry]
  exact written

/-- No relation is without its resolver exactly when no two foreign keys and
child tables of the table share a field name. -/
theorem keepsRelations_iff
    (columnsDistinct : metadata.columnNames.Nodup)
    (reverseDistinct : metadata.reverse.Nodup) (limit : Option Nat) :
    ((empty limit).registerTable metadata).KeepsRelations metadata ↔
      metadata.relationFieldNames.Nodup := by
  have keyInjective :
      Function.Injective
        (ResolverKey.mk (Naming.typeName metadata.name)) :=
    fun _ _ same => (ResolverKey.mk.inj same).2
  have keysIff :
      (metadata.relationResolvers.map Prod.fst).Nodup ↔
        metadata.relationFieldNames.Nodup := by
    rw [TableMetadata.map_fst_relationResolvers]
    exact List.nodup_map_iff keyInjective
  rw [← keysIff]
  constructor
  · intro kept
    refine List.Nodup.map_on ?_
      (TableMetadata.nodup_map_snd_relationResolvers columnsDistinct
        reverseDistinct).of_map
    intro first firstMember second secondMember sameKey
    have firstWritten :=
      lastWrite_of_keepsRelations columnsDistinct reverseDistinct kept
        firstMember
    have secondWritten :=
      lastWrite_of_keepsRelations columnsDistinct reverseDistinct kept
        secondMember
    rw [sameKey, secondWritten, Option.some.injEq] at firstWritten
    exact Prod.ext sameKey firstWritten.symm
  · intro keysDistinct
    rw [keepsRelations_iff_relationResolvers]
    intro entry member
    refine ⟨entry.1, ?_⟩
    rw [handler?_registerTable_empty, TableMetadata.resolvers_eq,
      lastWrite_append, lastWrite_eq_some_of_nodup keysDistinct member]
    rfl

end Registry

end TableGateway

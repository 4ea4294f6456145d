import TableGateway.Proofs.Arguments
import TableGateway.Proofs.Resolver.Narrowing

/-!
# Keys are not filter text

A relation adds the key of a parent to the caller's clauses as one more clause,
which is demanded of the driver as it stands: no letter of a key can end its
clause, begin another one or make it blank. The main statement is
`Relation.keepsKeys`, which also says when the driver is not asked at all.
-/

namespace TableGateway

/-! ## Requests for one selection -/

/-- What a request for records selects: a table, and the arguments for it. -/
def DataRequest.selection? :
    DataRequest → Option (String × ParsedArguments)
  | pageTotal table arguments => some (table, arguments)
  | page table arguments => some (table, arguments)
  | firstOf table arguments => some (table, arguments)
  | primaryKey _ => none
  | putItem _ _ => none

namespace Program

variable {State : Type}

/-- Whenever a program runs, it leaves requests for one selection in the trail,
at least one, and nothing else. -/
def SelectsOnly (driver : Driver State) (program : Program Outcome)
    (table : String) (arguments : ParsedArguments) : Prop :=
  ∀ (nested : NestedResolve State) (session : Session State),
    ∃ requests : List DataRequest, requests ≠ [] ∧
      (program.run driver nested session).2.trail =
        session.trail ++ requests.map .requested ∧
      ∀ request ∈ requests, request.selection? = some (table, arguments)

variable (driver : Driver State) (table : String)
  (parsed : ParsedArguments)

theorem selectsOnly_fetchFirst :
    (Crud.fetchFirst table parsed).SelectsOnly driver table parsed := by
  intro nested session
  rw [snd_run_fetchFirst]
  exact session.polledSince_ask driver rfl

theorem selectsOnly_fetchPage (limit : Option Nat) :
    (Crud.fetchPage limit table parsed).SelectsOnly driver table
      (Crud.withDefaultLimit limit parsed) := by
  intro nested session
  rw [snd_run_fetchPage]
  exact session.polledSince_join driver rfl rfl

end Program

/-! ## Arguments that demand a key -/

namespace Relation

variable (relation : Relation)

/-- Arguments that have the clauses of the caller, in order, and behind them
one that demands the key as it is; the rest is what the caller has given. -/
structure Demands (text : String) (parsed arguments : ParsedArguments) :
    Prop where
  table_eq : arguments.table = relation.table
  filter_eq : arguments.filter = some ⟨relation.table,
    parsed.clauses ++ [⟨relation.column, .equal, text⟩]⟩
  rest_eq : arguments.rest = parsed.rest

theorem demands_narrowed {parsed : ParsedArguments} {given : Arguments}
    (read : ParsedArguments.parse relation.table given = .ok parsed)
    (text : String) :
    relation.Demands text parsed (relation.narrowed text parsed) where
  table_eq := (ParsedArguments.isOnTable_of_parse read).table_eq
  filter_eq := by
    unfold narrowed ParsedArguments.clauses
    cases filterEq : parsed.filter with
    | none => rfl
    | some condition =>
        have onTable := ParsedArguments.isOnTable_of_parse read
        rw [← onTable.filter_table condition filterEq]
        rfl
  rest_eq := rfl

variable {relation} {text : String} {parsed arguments : ParsedArguments}

theorem Demands.withDefaultLimit
    (demands : relation.Demands text parsed arguments)
    (limit : Option Nat) :
    relation.Demands text parsed
      (Crud.withDefaultLimit limit arguments) := by
  cases limit with
  | none => exact demands
  | some size =>
      exact ⟨demands.table_eq, demands.filter_eq, demands.rest_eq⟩

/-- The clause that demands a text is satisfied by that text alone, if the
column holds nothing but texts. -/
theorem isSatisfied_text_iff {column : String} {row : Json}
    (textual : ∀ found, row.present? column = some found →
      ∃ text, found = .string text) :
    (FilterClause.equal column text).isSatisfied row = true ↔
      row.present? column = some (.string text) := by
  have kindMatches : JoinKey.MatchesKind column (.text text) row := by
    intro found present
    obtain ⟨other, rfl⟩ := textual found present
    exact ⟨.text other, rfl, trivial⟩
  refine (JoinKey.isSatisfied_equal_iff kindMatches).trans ?_
  constructor
  · intro satisfied
    obtain ⟨other, present, alike⟩ := satisfied
    have exact : (JoinKey.text text).IsExact := trivial
    rw [(JoinKey.alike_iff_eq exact).mp alike] at present
    exact present
  · intro present
    exact ⟨.text text, present, JoinKey.alike_refl _⟩

/-- Whatever store such arguments are given to: if it knows the table, and has
nothing but texts in the column of the join, they select the rows that match the
filter of the caller and hold that very text. -/
def SelectsText (relation : Relation) (text : String)
    (parsed arguments : ParsedArguments) : Prop :=
  ∀ (store : Store) (stored : StoredTable),
    store.table? relation.table = some stored →
    (∀ row ∈ store.rows relation.table, ∀ found,
      row.present? relation.column = some found →
        ∃ other, found = .string other) →
    ∃ selected, store.select relation.table arguments = .ok selected ∧
      selected.Perm ((parsed.matching (store.rows relation.table)).filter
        (holdsValue relation.column (.string text)))

theorem Demands.matching_eq
    (demands : relation.Demands text parsed arguments) (rows : List Json) :
    arguments.matching rows =
      (parsed.matching rows).filter
        (FilterClause.equal relation.column text).isSatisfied := by
  rw [arguments.matching_eq_filter, parsed.matching_eq_filter,
    List.filter_filter]
  refine List.filter_congr fun row _ => ?_
  rw [ParsedArguments.clauses, demands.filter_eq]
  simp [FilterClause.equal, Bool.and_comm]

theorem Demands.selectsText
    (demands : relation.Demands text parsed arguments) :
    relation.SelectsText text parsed arguments := by
  intro store stored known textual
  refine ⟨_, Store.select_of_known known arguments, ?_⟩
  refine (arguments.select_perm _).trans (List.Perm.of_eq ?_)
  rw [demands.matching_eq]
  apply List.filter_congr
  intro row member
  rw [Bool.eq_iff_iff,
    isSatisfied_text_iff
      (textual row (ParsedArguments.mem_of_mem_matching member))]
  exact (JoinKey.holdsValue_iff relation.column (.text text) row).symm

end Relation

/-! ## Resolvers of relations -/

namespace Relation

/-- A resolver never reads a key as filter text. A parent without a key has an
answer of its own, faulty arguments are an error, and in both cases nothing is
asked of the driver, whatever it is. Otherwise the driver is asked, and all that
it is asked for is what the caller's clauses and the key demand. -/
structure KeepsKeys (relation : Relation) (resolver : GeneratedResolver)
    (keyless : Json) : Prop where
  without_key : ∀ {State : Type} (driver : Driver State)
    (nested : NestedResolve State) (session : Session State)
    (invocation : Invocation),
    invocation.call.parent.present? relation.parentColumn = none →
    (resolver.handler invocation).run driver nested session =
      (some (.ok keyless), session)
  faulty_arguments : ∀ {State : Type} (driver : Driver State)
    (nested : NestedResolve State) (session : Session State)
    (invocation : Invocation) (value : Json) (fault : ExpressionError),
    invocation.call.parent.present? relation.parentColumn = some value →
    ParsedArguments.parse relation.table invocation.call.arguments =
      .error fault →
    (resolver.handler invocation).run driver nested session =
      (some (.error (.expression fault)), session)
  demands_key : ∀ {State : Type} (driver : Driver State)
    (invocation : Invocation) (value : Json) (parsed : ParsedArguments),
    invocation.call.parent.present? relation.parentColumn = some value →
    ParsedArguments.parse relation.table invocation.call.arguments =
      .ok parsed →
    ∃ text arguments, value.literal? = some text ∧
      relation.Demands text parsed arguments ∧
      (resolver.handler invocation).SelectsOnly driver relation.table
        arguments ∧
      ∀ key, value = .string key →
        text = key ∧ relation.SelectsText key parsed arguments

variable (relation : Relation)

theorem Demands.selectsText_of_string {value : Json} {text : String}
    {parsed arguments : ParsedArguments}
    (demands : relation.Demands text parsed arguments)
    (literalEq : value.literal? = some text) :
    ∀ key, value = .string key →
      text = key ∧ relation.SelectsText key parsed arguments := by
  intro key valueEq
  rw [valueEq, Json.literal?, Option.some.injEq] at literalEq
  exact ⟨literalEq.symm, literalEq ▸ demands.selectsText⟩

theorem key?_of_absent {parent : Json}
    (absent : parent.present? relation.parentColumn = none) :
    relation.key? parent = none := by
  unfold Json.present? at absent
  unfold key?
  cases found : parent.get? relation.parentColumn with
  | none => rfl
  | some value =>
      rw [found] at absent
      cases value with
      | null => rfl
      | _ => nomatch absent

/-- What both resolvers of a relation do: without a key they have an answer of
their own, and otherwise they read the arguments and fetch what these select once
they are narrowed, perhaps with a limit. -/
structure Follows (relation : Relation) (handler : Handler) (keyless : Json)
    (fetch : Option Nat → ParsedArguments → Program Outcome) : Prop where
  without_key : ∀ {invocation : Invocation},
    relation.key? invocation.call.parent = none →
    handler invocation = .answer keyless
  with_key : ∀ {invocation : Invocation} {text : String},
    relation.key? invocation.call.parent = some text →
    handler invocation =
      .withArguments relation.table invocation.call.arguments fun parsed =>
        fetch invocation.defaultLimit (relation.narrowed text parsed)
  selects : ∀ {State : Type} (driver : Driver State) (limit : Option Nat)
    (text : String) (parsed arguments : ParsedArguments),
    relation.Demands text parsed arguments →
    ∃ limited, relation.Demands text parsed limited ∧
      (fetch limit arguments).SelectsOnly driver relation.table limited

theorem follows_foreign :
    relation.Follows (GeneratedResolver.foreign relation).handler .null
      (fun _ => Crud.fetchFirst relation.table) where
  without_key := relation.followOne_of_no_key
  with_key := relation.followOne_of_key
  selects driver _ _ _ arguments demands :=
    ⟨arguments, demands,
      Program.selectsOnly_fetchFirst driver relation.table arguments⟩

theorem follows_reverse :
    relation.Follows (GeneratedResolver.reverse relation).handler
      (Crud.emptyPage relation.table)
      (Crud.fetchPage · relation.table) where
  without_key := relation.followPage_of_no_key
  with_key := relation.followPage_of_key
  selects driver limit _ _ arguments demands :=
    ⟨_, demands.withDefaultLimit limit,
      Program.selectsOnly_fetchPage driver relation.table arguments limit⟩

variable {relation}

theorem Follows.keeps {resolver : GeneratedResolver} {keyless : Json}
    {fetch : Option Nat → ParsedArguments → Program Outcome}
    (follows : relation.Follows resolver.handler keyless fetch) :
    relation.KeepsKeys resolver keyless where
  without_key driver nested session invocation absent := by
    rw [follows.without_key (relation.key?_of_absent absent)]
    rfl
  faulty_arguments driver nested session invocation value fault given read := by
    obtain ⟨text, _, found⟩ := relation.exists_key given
    rw [follows.with_key found, Program.withArguments, read]
    rfl
  demands_key driver invocation value parsed given read := by
    obtain ⟨text, literalEq, found⟩ := relation.exists_key given
    obtain ⟨limited, demands, selects⟩ :=
      follows.selects driver invocation.defaultLimit text parsed _
        (relation.demands_narrowed read text)
    refine ⟨text, limited, literalEq, demands, ?_,
      demands.selectsText_of_string relation literalEq⟩
    rw [follows.with_key found, Program.withArguments, read]
    exact selects

variable (relation)

/-- Both resolvers of a relation keep the key of the parent as it is, whatever
letters it is written with; without a key they answer null and the empty
page. -/
theorem keepsKeys :
    relation.KeepsKeys (.foreign relation) .null ∧
    relation.KeepsKeys (.reverse relation)
      (Crud.emptyPage relation.table) :=
  ⟨relation.follows_foreign.keeps, relation.follows_reverse.keeps⟩

end Relation

end TableGateway

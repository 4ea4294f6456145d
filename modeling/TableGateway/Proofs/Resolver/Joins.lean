import TableGateway.Proofs.Filter.JoinKey
import TableGateway.Proofs.Store.Selecting
import TableGateway.Resolver.Synthesis

/-!
# What relations join

Over a store, both resolvers of a relation return rows of its table that
satisfy the clause of the join. The main statement is
`Relation.joinsExactly_iff`: those are the rows that hold exactly the key of
the parent unless the key is an integer, and another integer in the table has
the same double.
-/

namespace TableGateway

theorem Crud.total_eq_of_pageValue_eq {table : String} {left right : Nat}
    {leftItems rightItems : List Json}
    (same :
      pageValue table left leftItems = pageValue table right rightItems) :
    left = right := by
  have totalsEq := congrArg (fun page : Json => page.get? "total") same
  have readTotal (total : Nat) (items : List Json) :
      (pageValue table total items).get? "total" =
        some (.ofInt total) := rfl
  simp only [readTotal, Json.ofInt, Option.some.injEq, Json.number.injEq,
    Number.integer.injEq, Int.natCast_inj] at totalsEq
  exact totalsEq

namespace FilterClause

/-- Whatever holds a key satisfies the clause that demands it. -/
theorem isSatisfied_of_holdsValue {column : String} {key : JoinKey}
    {row : Json} (holds : holdsValue column key.toJson row = true) :
    (equal column key.literal).isSatisfied row = true := by
  have present := (JoinKey.holdsValue_iff column key row).mp holds
  have kindMatches : JoinKey.MatchesKind column key row := by
    intro found foundPresent
    rw [present, Option.some.injEq] at foundPresent
    exact ⟨key, foundPresent.symm, key.sameKind_refl⟩
  rw [JoinKey.isSatisfied_equal_iff kindMatches]
  exact ⟨key, present, key.alike_refl⟩

end FilterClause

namespace Relation

variable (relation : Relation) {store : Store} {parent : Json}
  {text : String} {parsed : ParsedArguments}

/-! ## The rows that a join selects -/

/-- A relation adds its clause to what its arguments match. -/
theorem matching_narrowed (rows : List Json) :
    (relation.narrowed text parsed).matching rows =
      (parsed.matching rows).filter
        (FilterClause.equal relation.column text).isSatisfied := by
  cases given : parsed.filter with
  | none =>
      have narrowedEq : (relation.narrowed text parsed).filter =
          some ((FilterCondition.empty relation.table).add
            (.equal relation.column text)) := by
        simp [narrowed, given]
      simp only [ParsedArguments.matching, narrowedEq, given]
      rw [FilterCondition.isSatisfied_add_empty]
  | some condition =>
      have narrowedEq : (relation.narrowed text parsed).filter =
          some (condition.add (.equal relation.column text)) := by
        simp [narrowed, given]
      simp only [ParsedArguments.matching, narrowedEq, given,
        List.filter_filter]
      exact List.filter_congr fun row _ => condition.isSatisfied_add _ row

theorem isSatisfied_of_mem_matching {rows : List Json} {row : Json}
    (member : row ∈ (relation.narrowed text parsed).matching rows) :
    row ∈ rows ∧
      (FilterClause.equal relation.column text).isSatisfied row = true := by
  rw [relation.matching_narrowed] at member
  obtain ⟨matched, satisfied⟩ := List.mem_filter.mp member
  exact ⟨ParsedArguments.mem_of_mem_matching matched, satisfied⟩

/-! ## Runs of the two resolvers -/

variable {nested : NestedResolve Store} {session : Session Store}
  {invocation : Invocation}

theorem followOne_of_key
    (found : relation.key? invocation.call.parent = some text) :
    relation.followOne invocation =
      .withArguments relation.table invocation.call.arguments
        fun parsed =>
          Crud.fetchFirst relation.table
            (relation.narrowed text parsed) := by
  unfold followOne
  rw [found]

theorem followPage_of_key
    (found : relation.key? invocation.call.parent = some text) :
    relation.followPage invocation =
      .withArguments relation.table invocation.call.arguments
        fun parsed =>
          Crud.fetchPage invocation.defaultLimit relation.table
            (relation.narrowed text parsed) := by
  unfold followPage
  rw [found]

theorem followOne_of_no_key
    (absent : relation.key? invocation.call.parent = none) :
    relation.followOne invocation = .answer .null := by
  unfold followOne
  rw [absent]

theorem followPage_of_no_key
    (absent : relation.key? invocation.call.parent = none) :
    relation.followPage invocation =
      .answer (Crud.emptyPage relation.table) := by
  unfold followPage
  rw [absent]

theorem mem_of_run_followOne
    (found : relation.key? invocation.call.parent = some text)
    {record : Json}
    (returned :
      ((relation.followOne invocation).run Store.driver nested session).1 =
        some (.ok record)) :
    (∃ stored, session.database.table? relation.table = some stored) ∧
      (record = .null ∨
        record ∈ session.database.rows relation.table ∧
          (FilterClause.equal relation.column text).isSatisfied record =
            true) := by
  rw [relation.followOne_of_key found] at returned
  obtain ⟨parsed, fetched⟩ :=
    Program.exists_parsed_of_run_withArguments returned
  obtain ⟨known, recordEq⟩ := Store.of_run_fetchFirst fetched
  refine ⟨known, ?_⟩
  cases selected : (relation.narrowed text parsed).select
    (session.database.rows relation.table) with
  | nil =>
      rw [selected] at recordEq
      exact .inl recordEq
  | cons first rest =>
      have member : first ∈ (relation.narrowed text parsed).select
          (session.database.rows relation.table) := by
        rw [selected]
        exact List.mem_cons_self
      rw [selected] at recordEq
      rw [show record = first from recordEq]
      exact .inr (relation.isSatisfied_of_mem_matching
        ((ParsedArguments.select_perm _ _).mem_iff.mp member))

theorem mem_of_run_followPage
    (found : relation.key? invocation.call.parent = some text)
    {page : Json}
    (returned :
      ((relation.followPage invocation).run Store.driver nested
          session).1 =
        some (.ok page)) :
    (∃ stored, session.database.table? relation.table = some stored) ∧
      ∃ total items, page = Crud.pageValue relation.table total items ∧
        ∀ item ∈ items,
          item ∈ session.database.rows relation.table ∧
            (FilterClause.equal relation.column text).isSatisfied item =
              true := by
  rw [relation.followPage_of_key found] at returned
  obtain ⟨parsed, fetched⟩ :=
    Program.exists_parsed_of_run_withArguments returned
  obtain ⟨known, total, pageEq⟩ := Store.of_run_fetchPage fetched
  refine ⟨known, total, _, pageEq, ?_⟩
  intro item member
  have selected := (ParsedArguments.stretch_sublist _ _).subset member
  have matched := (ParsedArguments.select_perm _ _).mem_iff.mp selected
  rw [ParsedArguments.matching_withDefaultLimit] at matched
  exact relation.isSatisfied_of_mem_matching matched

variable (nested session)

/-- Without arguments, a page counts the rows that satisfy the clause. -/
theorem run_followPage_of_no_arguments
    (found : relation.key? invocation.call.parent = some text)
    (noArguments : invocation.call.arguments = []) {stored : StoredTable}
    (known : session.database.table? relation.table = some stored) :
    ∃ items,
      ((relation.followPage invocation).run Store.driver nested
          session).1 =
        some (.ok (Crud.pageValue relation.table
          ((session.database.rows relation.table).countP
            (FilterClause.equal relation.column text).isSatisfied)
          items)) := by
  rw [relation.followPage_of_key found, noArguments,
    Program.withArguments_nil, Store.run_fetchPage,
    Store.select_of_known known]
  dsimp only
  rw [(ParsedArguments.select_perm _ _).length_eq,
    ParsedArguments.matching_withDefaultLimit, matching_narrowed,
    ← List.countP_eq_length_filter]
  exact ⟨_, rfl⟩

end Relation

/-! ## Exact joins -/

namespace Relation

variable (relation : Relation)

/-- Both resolvers of a relation keep to the rows that hold exactly the key, in
every session on the store and for every call from the parent: what the first
one returns is null or such a row, a page of the second one holds such rows
only, and without arguments its total is the number of such rows. -/
def JoinsExactly (store : Store) (parent : Json) (key : JoinKey) : Prop :=
  ∀ (nested : NestedResolve Store) (session : Session Store)
    (invocation : Invocation),
    session.database = store →
    invocation.call.parent = parent →
    (∀ record,
      (((GeneratedResolver.foreign relation).handler invocation).run
          Store.driver nested session).1 =
        some (.ok record) →
      record = .null ∨
        record ∈ store.rows relation.table ∧
          holdsValue relation.column key.toJson record = true) ∧
    (∀ page,
      (((GeneratedResolver.reverse relation).handler invocation).run
          Store.driver nested session).1 =
        some (.ok page) →
      ∃ total items, page = Crud.pageValue relation.table total items ∧
        ∀ item ∈ items,
          item ∈ store.rows relation.table ∧
            holdsValue relation.column key.toJson item = true) ∧
    (invocation.call.arguments = [] →
      ∀ stored, store.table? relation.table = some stored →
      ∃ items,
        (((GeneratedResolver.reverse relation).handler invocation).run
            Store.driver nested session).1 =
          some (.ok (Crud.pageValue relation.table
            ((store.rows relation.table).countP
              (holdsValue relation.column key.toJson))
            items)))

/-- No row of the table, if the store knows it, holds another key that a join
takes for the given one. -/
def TellsApart (store : Store) (key : JoinKey) : Prop :=
  ∀ stored, store.table? relation.table = some stored →
    ∀ row ∈ store.rows relation.table, ∀ other : JoinKey,
      row.present? relation.column = some other.toJson →
      other.Alike key → other = key

variable {relation} {store : Store} {parent : Json} {key : JoinKey}

theorem key?_of_held
    (held : parent.get? relation.parentColumn = some key.toJson) :
    relation.key? parent = some key.literal := by
  unfold key?
  rw [held, Option.bind_some, key.literal?_toJson]

theorem holdsValue_of_tellsApart {stored : StoredTable}
    (known : store.table? relation.table = some stored)
    (apart : relation.TellsApart store key) {row : Json}
    (member : row ∈ store.rows relation.table)
    (kindMatches : JoinKey.MatchesKind relation.column key row)
    (satisfied :
      (FilterClause.equal relation.column key.literal).isSatisfied row =
        true) :
    holdsValue relation.column key.toJson row = true := by
  obtain ⟨other, present, alike⟩ :=
    (JoinKey.isSatisfied_equal_iff kindMatches).mp satisfied
  rw [apart stored known row member other present alike] at present
  exact (JoinKey.holdsValue_iff _ _ _).mpr present

theorem joinsExactly_of_tellsApart
    (held : parent.get? relation.parentColumn = some key.toJson)
    (kindsMatch : ∀ row ∈ store.rows relation.table,
      JoinKey.MatchesKind relation.column key row)
    (apart : relation.TellsApart store key) :
    relation.JoinsExactly store parent key := by
  intro nested session invocation databaseEq parentEq
  have found : relation.key? invocation.call.parent = some key.literal := by
    rw [parentEq]
    exact key?_of_held held
  refine ⟨?_, ?_, ?_⟩
  · intro record returned
    obtain ⟨⟨stored, known⟩, nullOrMember⟩ :=
      relation.mem_of_run_followOne found returned
    rw [databaseEq] at known nullOrMember
    rcases nullOrMember with isNull | ⟨member, satisfied⟩
    · exact .inl isNull
    · exact .inr ⟨member,
        holdsValue_of_tellsApart known apart member
          (kindsMatch record member) satisfied⟩
  · intro page returned
    obtain ⟨⟨stored, known⟩, total, items, pageEq, itemsMatch⟩ :=
      relation.mem_of_run_followPage found returned
    rw [databaseEq] at known itemsMatch
    refine ⟨total, items, pageEq, ?_⟩
    intro item itemMember
    obtain ⟨member, satisfied⟩ := itemsMatch item itemMember
    exact ⟨member,
      holdsValue_of_tellsApart known apart member
        (kindsMatch item member) satisfied⟩
  · intro noArguments stored known
    rw [← databaseEq] at known
    obtain ⟨items, returned⟩ :=
      relation.run_followPage_of_no_arguments nested session found
        noArguments known
    rw [databaseEq] at known returned
    have countEq :
        (store.rows relation.table).countP
            (FilterClause.equal relation.column key.literal).isSatisfied =
          (store.rows relation.table).countP
            (holdsValue relation.column key.toJson) := by
      apply List.countP_congr
      intro row member
      constructor
      · exact holdsValue_of_tellsApart known apart member
          (kindsMatch row member)
      · exact FilterClause.isSatisfied_of_holdsValue
    rw [countEq] at returned
    exact ⟨items, returned⟩

/-- If the total is right, every row that satisfies the clause holds the
key. -/
theorem holdsValue_of_countP_eq {rows : List Json} {column : String}
    (countEq :
      rows.countP (FilterClause.equal column key.literal).isSatisfied =
        rows.countP (holdsValue column key.toJson))
    {row : Json} (member : row ∈ rows)
    (satisfied :
      (FilterClause.equal column key.literal).isSatisfied row = true) :
    holdsValue column key.toJson row = true := by
  have sublist :
      (rows.filter (holdsValue column key.toJson)).Sublist
        (rows.filter
          (FilterClause.equal column key.literal).isSatisfied) :=
    List.monotone_filter_right rows
      fun _ => FilterClause.isSatisfied_of_holdsValue
  rw [List.countP_eq_length_filter, List.countP_eq_length_filter]
    at countEq
  have filtersEq := sublist.eq_of_length countEq.symm
  have rowMember := List.mem_filter.mpr ⟨member, satisfied⟩
  rw [← filtersEq] at rowMember
  exact (List.mem_filter.mp rowMember).2

theorem tellsApart_of_joinsExactly
    (held : parent.get? relation.parentColumn = some key.toJson)
    (kindsMatch : ∀ row ∈ store.rows relation.table,
      JoinKey.MatchesKind relation.column key row)
    (joins : relation.JoinsExactly store parent key) :
    relation.TellsApart store key := by
  intro stored known row member other present alike
  let session := Session.start store .allowAll
  let invocation : Invocation :=
    ⟨⟨⟨"", ""⟩, parent, [], ⟨[], []⟩⟩, [], none⟩
  let nested : NestedResolve Store := fun _ session => (none, session)
  obtain ⟨_, _, totalExact⟩ := joins nested session invocation rfl rfl
  obtain ⟨exactItems, exactReturned⟩ := totalExact rfl stored known
  have found : relation.key? invocation.call.parent = some key.literal :=
    key?_of_held held
  obtain ⟨items, returned⟩ :=
    relation.run_followPage_of_no_arguments nested session found rfl
      known
  have samePage :=
    Except.ok.inj (Option.some.inj (returned.symm.trans exactReturned))
  have satisfied :
      (FilterClause.equal relation.column key.literal).isSatisfied row =
        true :=
    (JoinKey.isSatisfied_equal_iff (kindsMatch row member)).mpr
      ⟨other, present, alike⟩
  have holds :=
    holdsValue_of_countP_eq (Crud.total_eq_of_pageValue_eq samePage) member
      satisfied
  rw [JoinKey.holdsValue_iff, present, Option.some.injEq] at holds
  exact JoinKey.toJson_injective holds

theorem tellsApart_of_isExact (store : Store) (exact : key.IsExact) :
    relation.TellsApart store key :=
  fun _ _ _ _ _ _ alike => (JoinKey.alike_iff_eq exact).mp alike

/-- For a store, a relation and a parent that holds a key, where the column of
the join has only keys of that kind: the resolvers keep to the rows that hold
exactly the key if and only if no row of the table holds another integer with
the same double. That is so for every text, every truth value and every integer
below `2 ^ 53`, whatever the rows. -/
theorem joinsExactly_iff
    (held : parent.get? relation.parentColumn = some key.toJson)
    (kindsMatch : ∀ row ∈ store.rows relation.table,
      JoinKey.MatchesKind relation.column key row) :
    (relation.JoinsExactly store parent key ↔
      relation.TellsApart store key) ∧
    (key.IsExact → relation.JoinsExactly store parent key) := by
  have joinsIff :
      relation.JoinsExactly store parent key ↔
        relation.TellsApart store key :=
    ⟨tellsApart_of_joinsExactly held kindsMatch,
      joinsExactly_of_tellsApart held kindsMatch⟩
  exact ⟨joinsIff, fun exact =>
    joinsIff.mpr (tellsApart_of_isExact store exact)⟩

/-! ## Two integers with one double -/

/-- A relation between two columns of integers. -/
def numbered : Relation :=
  ⟨"ref", "target", "key"⟩

/-- A store with one row, whose key is `2 ^ 53`. -/
def numberedStore : Store :=
  (Store.empty.withTable
      ⟨"target", [⟨"key", "bigint", none⟩], []⟩ "key").setRows "target"
    [.object [("key", .ofInt 9007199254740992)]]

/-- A parent that refers to the integer after `2 ^ 53`. -/
def numberedParent : Json :=
  .object [("ref", .ofInt 9007199254740993)]

theorem rows_numberedStore :
    numberedStore.rows numbered.table =
      [.object [("key", .ofInt 9007199254740992)]] := rfl

theorem not_joinsExactly_numbered :
    numberedParent.get? numbered.parentColumn =
      some (JoinKey.integer 9007199254740993).toJson ∧
    (∀ row ∈ numberedStore.rows numbered.table,
      JoinKey.MatchesKind numbered.column (.integer 9007199254740993)
        row) ∧
    ¬numbered.JoinsExactly numberedStore numberedParent
      (.integer 9007199254740993) := by
  have held :
      numberedParent.get? numbered.parentColumn =
        some (JoinKey.integer 9007199254740993).toJson := rfl
  have kindsMatch :
      ∀ row ∈ numberedStore.rows numbered.table,
        JoinKey.MatchesKind numbered.column (.integer 9007199254740993)
          row := by
    intro row member found present
    rw [rows_numberedStore, List.mem_singleton] at member
    rw [member] at present
    exact ⟨.integer 9007199254740992, (Option.some.inj present).symm,
      trivial⟩
  refine ⟨held, kindsMatch, ?_⟩
  intro joins
  have apart := (joinsExactly_iff held kindsMatch).1.mp joins
  have alike :
      (JoinKey.integer 9007199254740992).Alike
        (.integer 9007199254740993) := by
    rw [JoinKey.alike_integer_iff]
    decide +kernel
  have same :=
    apart ⟨⟨"target", [⟨"key", "bigint", none⟩], []⟩, "key"⟩ rfl
      (.object [("key", .ofInt 9007199254740992)])
      (by rw [rows_numberedStore]; exact List.mem_singleton_self _)
      (.integer 9007199254740992) rfl alike
  exact absurd same (by decide)

end Relation

end TableGateway

import TableGateway.Proofs.Resolver.Joins
import TableGateway.Proofs.Store.Sorting

/-!
# Pages of relations and pages of tables

The page of a relation and the page of its table are selected by the same
arguments, but for the clause of the join. As long as all pages are asked for at
once, the one is the other without the rows that fail the clause. The main
statement is `Relation.exists_narrowsPage`.
-/

namespace TableGateway

/-! ## Narrowed selections -/

namespace ParsedArguments

variable {parsed : ParsedArguments} {rows : List Json}

/-- Arguments that ask for all pages at once, in an order among values of one
kind if in any. -/
structure ListsAll (parsed : ParsedArguments) (rows : List Json) :
    Prop where
  noLimit : parsed.pagination.bind (·.limit?) = none
  noOffset : parsed.pagination.bind (·.offset?) = none
  comparable : ∀ order, parsed.pagination.bind (·.orderBy?) = some order →
    OneKind order.field rows

theorem ordered_filter (comparable : ∀ order,
      parsed.pagination.bind (·.orderBy?) = some order →
        OneKind order.field rows)
    (keep : Json → Bool) :
    parsed.ordered (rows.filter keep) =
      (parsed.ordered rows).filter keep := by
  unfold ordered
  cases asked : parsed.pagination.bind (·.orderBy?) with
  | none => rfl
  | some order => exact order.sort_filter (comparable order asked) keep

end ParsedArguments

namespace Relation

variable (relation : Relation) {parsed : ParsedArguments} {text : String}
  {rows : List Json}

/-- The rows of a relation are those that its arguments select without it,
less those that fail the clause of the join. -/
theorem select_narrowed (lists : parsed.ListsAll rows) :
    (relation.narrowed text parsed).select rows =
      (parsed.select rows).filter
        (FilterClause.equal relation.column text).isSatisfied := by
  have comparable : ∀ order,
      parsed.pagination.bind (·.orderBy?) = some order →
        OneKind order.field (parsed.matching rows) := by
    intro order asked
    exact (lists.comparable order asked).of_subset
      fun _ => ParsedArguments.mem_of_mem_matching
  have sameOrder (part : List Json) :
      (relation.narrowed text parsed).ordered part =
        parsed.ordered part := rfl
  rw [ParsedArguments.select, relation.matching_narrowed, sameOrder,
    ParsedArguments.ordered_filter comparable, ParsedArguments.select]

theorem exists_key {parent value : Json}
    (given : parent.present? relation.parentColumn = some value) :
    ∃ text, value.literal? = some text ∧
      relation.key? parent = some text := by
  have found := Option.filter_eq_some_iff.mp given
  obtain ⟨text, literalEq⟩ := Json.exists_literal (by simpa using found.2)
  exact ⟨text, literalEq,
    by rw [key?, found.1, Option.bind_some, literalEq]⟩

end Relation

/-! ## Outcomes over a store -/

namespace Store

/-- Without a limit by default, a generated resolver comes to this outcome over
the rows of a store. -/
def Resolves (store : Store) (resolver : GeneratedResolver) (parent : Json)
    (arguments : Arguments) (outcome : Outcome) : Prop :=
  ∀ (nested : NestedResolve Store) (session : Session Store)
    (invocation : Invocation),
    session.database.clearCalls = store.clearCalls →
    invocation.call.parent = parent →
    invocation.call.arguments = arguments →
    invocation.defaultLimit = none →
    ((resolver.handler invocation).run driver nested session).1 =
      some outcome

/-- The page of parsed arguments over the rows of a store. -/
def pageOutcome (store : Store) (table : String)
    (parsed : ParsedArguments) : Outcome :=
  match store.select table parsed with
  | .error fault => .error (.driver fault)
  | .ok rows =>
      .ok (Crud.pageValue table rows.length (parsed.stretch rows))

theorem run_fetchPage_of_same {store : Store} {session : Session Store}
    (nested : NestedResolve Store)
    (same : session.database.clearCalls = store.clearCalls)
    (table : String) (parsed : ParsedArguments) :
    ((Crud.fetchPage none table parsed).run driver nested session).1 =
      some (store.pageOutcome table parsed) := by
  rw [run_fetchPage, Crud.withDefaultLimit, select_of_same same,
    pageOutcome]
  cases store.select table parsed <;> rfl

/-- The page of unread arguments, which are narrowed after they have been
read. -/
def argumentsOutcome (store : Store) (table : String)
    (arguments : Arguments)
    (narrow : ParsedArguments → ParsedArguments) : Outcome :=
  match ParsedArguments.parse table arguments with
  | .error fault => .error (.expression fault)
  | .ok parsed => store.pageOutcome table (narrow parsed)

theorem run_withArguments_of_same {store : Store} {session : Session Store}
    (nested : NestedResolve Store)
    (same : session.database.clearCalls = store.clearCalls)
    (table : String) (arguments : Arguments)
    (narrow : ParsedArguments → ParsedArguments) :
    ((Program.withArguments table arguments fun parsed =>
        Crud.fetchPage none table (narrow parsed)).run driver nested
          session).1 =
      some (store.argumentsOutcome table arguments narrow) := by
  rw [Program.withArguments, argumentsOutcome]
  cases ParsedArguments.parse table arguments with
  | error fault => rfl
  | ok parsed =>
      exact run_fetchPage_of_same nested same table (narrow parsed)

theorem resolves_getPage (store : Store) (table : String) (parent : Json)
    (arguments : Arguments) :
    store.Resolves (.getPage table) parent arguments
      (store.argumentsOutcome table arguments id) := by
  intro nested session invocation same _ argumentsEq noLimit
  have handlerEq : (GeneratedResolver.getPage table).handler invocation =
      Crud.getPage none table arguments := by
    rw [← noLimit, ← argumentsEq]
    rfl
  rw [handlerEq]
  exact run_withArguments_of_same nested same table arguments id

theorem resolves_reverse (store : Store) (relation : Relation)
    {parent : Json} {text : String}
    (found : relation.key? parent = some text) (arguments : Arguments) :
    store.Resolves (.reverse relation) parent arguments
      (store.argumentsOutcome relation.table arguments
        (relation.narrowed text)) := by
  intro nested session invocation same parentEq argumentsEq noLimit
  rw [← parentEq] at found
  have handlerEq : (GeneratedResolver.reverse relation).handler invocation =
      .withArguments relation.table arguments fun parsed =>
        Crud.fetchPage none relation.table
          (relation.narrowed text parsed) := by
    rw [← noLimit, ← argumentsEq]
    exact relation.followPage_of_key found
  rw [handlerEq]
  exact run_withArguments_of_same nested same relation.table arguments
    (relation.narrowed text)

end Store

/-! ## Narrowed pages -/

namespace Relation

/-- The outcome of a relation is the outcome of the page of its table, without
the rows that fail the clause of the join. -/
structure NarrowsPage (relation : Relation) (text : String)
    (page related : Outcome) : Prop where
  succeeds_iff : (∃ value, related = .ok value) ↔ ∃ value, page = .ok value
  narrowed : ∀ value, page = .ok value → ∃ items,
    value = Crud.pageValue relation.table items.length items ∧
      related = .ok (Crud.pageValue relation.table
        (items.filter
          (FilterClause.equal relation.column text).isSatisfied).length
        (items.filter
          (FilterClause.equal relation.column text).isSatisfied))
  failed : ∀ fault, page = .error fault → related = .error fault
  within : ∀ total items,
    related = .ok (Crud.pageValue relation.table total items) →
    ∀ item ∈ items,
      (FilterClause.equal relation.column text).isSatisfied item = true

variable (relation : Relation) (text : String)

theorem narrowsPage_of_error (fault : ResolverError) :
    relation.NarrowsPage text (.error fault) (.error fault) where
  succeeds_iff := Iff.rfl
  narrowed _ returned := nomatch returned
  failed _ returned := returned
  within _ _ returned := nomatch returned

theorem narrowsPage_of_items (items : List Json) :
    relation.NarrowsPage text
      (.ok (Crud.pageValue relation.table items.length items))
      (.ok (Crud.pageValue relation.table
        (items.filter
          (FilterClause.equal relation.column text).isSatisfied).length
        (items.filter
          (FilterClause.equal relation.column text).isSatisfied))) where
  succeeds_iff := by simp
  narrowed value returned := ⟨items, (Except.ok.inj returned).symm, rfl⟩
  failed _ returned := nomatch returned
  within total shown returned item member := by
    have shownEq : items.filter
        (FilterClause.equal relation.column text).isSatisfied = shown := by
      simp only [Crud.pageValue, Except.ok.injEq, Json.object.injEq,
        List.cons.injEq, Prod.mk.injEq, Json.array.injEq, true_and]
        at returned
      exact returned.1
    rw [← shownEq] at member
    exact (List.mem_filter.mp member).2

variable {relation}

/-- A relation shows the page of its table narrowed to the parent, and comes to
a page exactly if the table does. No filter of the caller widens it. -/
theorem exists_narrowsPage {store : Store} {parent value : Json}
    (given : parent.present? relation.parentColumn = some value)
    {arguments : Arguments}
    (listsAll : ∀ parsed,
      ParsedArguments.parse relation.table arguments = .ok parsed →
        parsed.ListsAll (store.rows relation.table)) :
    ∃ text page related,
      value.literal? = some text ∧
        (∀ root,
          store.Resolves (.getPage relation.table) root arguments page) ∧
        store.Resolves (.reverse relation) parent arguments related ∧
        relation.NarrowsPage text page related := by
  obtain ⟨text, literalEq, found⟩ := relation.exists_key given
  refine ⟨text, _, _, literalEq,
    fun root => store.resolves_getPage relation.table root arguments,
    store.resolves_reverse relation found arguments, ?_⟩
  unfold Store.argumentsOutcome
  cases read : ParsedArguments.parse relation.table arguments with
  | error fault => exact relation.narrowsPage_of_error text _
  | ok parsed =>
      have lists := listsAll parsed read
      dsimp only [id]
      unfold Store.pageOutcome
      cases known : store.table? relation.table with
      | none =>
          rw [Store.select_of_unknown known, Store.select_of_unknown known]
          exact relation.narrowsPage_of_error text _
      | some stored =>
          have wholePage (rows : List Json) : parsed.stretch rows = rows :=
            ParsedArguments.stretch_eq_self lists.noLimit lists.noOffset
          have wholeRelated (rows : List Json) :
              (relation.narrowed text parsed).stretch rows = rows :=
            ParsedArguments.stretch_eq_self lists.noLimit lists.noOffset
          rw [Store.select_of_known known, Store.select_of_known known,
            relation.select_narrowed lists]
          dsimp only
          rw [wholePage, wholeRelated]
          exact relation.narrowsPage_of_items text _

/-! ## Letters to a person -/

def letterRows : List Json :=
  [.object [("id", .ofInt 1), ("reader", .ofInt 7), ("sent", .ofInt 4)],
    .object [("id", .ofInt 2), ("reader", .ofInt 8), ("sent", .ofInt 2)],
    .object [("id", .ofInt 3), ("reader", .ofInt 7), ("sent", .null)],
    .object [("id", .ofInt 4), ("reader", .ofInt 7), ("sent", .ofInt 2)]]

def letterStore : Store :=
  (Store.empty.withTable ⟨"letter", [⟨"id", "serial", none⟩], []⟩
    "id").setRows "letter" letterRows

def letterArguments : Arguments :=
  [("filter", .string "id >= 2"),
    ("pagination", .string "orderby=sent desc")]

theorem listsAll_letterArguments (parsed : ParsedArguments)
    (read : ParsedArguments.parse "letter" letterArguments = .ok parsed) :
    parsed.ListsAll (letterStore.rows "letter") := by
  have readHere : ParsedArguments.parse "letter" letterArguments =
      .ok ⟨"letter", some ⟨"letter", [⟨"id", .atLeast, "2"⟩]⟩,
        some ⟨"letter", [("orderby", "sent desc")]⟩, []⟩ := rfl
  have rowsEq : letterStore.rows "letter" = letterRows := rfl
  rw [readHere, Except.ok.injEq] at read
  subst read
  refine ⟨rfl, rfl, ?_⟩
  intro order asked
  obtain rfl : ⟨"sent", false⟩ = order := Option.some.inj asked
  refine ⟨.number, ?_⟩
  rw [rowsEq]
  simp [letterRows, Json.present?, Json.get?, OrderedMap.findEntry,
    Json.isNull, Json.ofInt, Json.kind?]

theorem exists_narrowsPage_letters :
    let relation : Relation := ⟨"id", "letter", "reader"⟩
    let parent : Json := .object [("id", .ofInt 7)]
    ∃ text page related,
      Json.literal? (.ofInt 7) = some text ∧
        (∀ root, letterStore.Resolves (.getPage relation.table) root
          letterArguments page) ∧
        letterStore.Resolves (.reverse relation) parent letterArguments
          related ∧
        relation.NarrowsPage text page related := by
  intro relation parent
  have given : parent.present? relation.parentColumn =
      some (.ofInt 7) := rfl
  exact exists_narrowsPage given listsAll_letterArguments

end Relation

end TableGateway

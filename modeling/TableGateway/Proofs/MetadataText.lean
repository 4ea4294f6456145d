import Mathlib.Data.List.Forall2
import Mathlib.Logic.Relation
import TableGateway.Driver.MetadataJson
import TableGateway.Proofs.Json.Lookup
import TableGateway.Proofs.Json.WrittenText

/-!
# Table metadata as text

The structure of a table is read back from its text. What is read depends on what
the members of each object hold and not on where they stand, so that members which
say nothing may be left out or added: an empty list of child tables, and a null for
the target of a column that has none. The main statement is
`TableMetadata.readsBack`.
-/

namespace TableGateway

universe u v

theorem forall₂_replace {Left : Type u} {Right : Type v}
    {related : Left → Right → Prop} {item other : Right}
    (imp : ∀ left, related left item → related left other)
    {lefts : List Left} {before behind : List Right}
    (pairs : List.Forall₂ related lefts (before ++ item :: behind)) :
    List.Forall₂ related lefts (before ++ other :: behind) := by
  induction before generalizing lefts with
  | nil =>
      cases pairs with
      | cons here rest => exact .cons (imp _ here) rest
  | cons head tail inductionHypothesis =>
      cases pairs with
      | cons here rest => exact .cons here (inductionHypothesis rest)

/-! ## Fields of a record -/

namespace Document

variable {members : Members}

theorem membersNamed_cons (name : String) (key : Option String)
    (item : Document) (rest : List (Option String × Document)) :
    membersNamed name ((key, item) :: rest) =
      if key = some name then item :: membersNamed name rest
      else membersNamed name rest := by
  unfold membersNamed
  by_cases here : key = some name <;> simp [here]

theorem membersNamed_memberDocuments (name : String)
    (distinct : (members.map Prod.fst).Nodup) :
    membersNamed name (Json.memberDocuments members) =
      ((members.get? name).map Json.document).toList := by
  induction members with
  | nil => rfl
  | cons member rest inductionHypothesis =>
      obtain ⟨key, value⟩ := member
      rw [List.map_cons, List.nodup_cons] at distinct
      have restEq := inductionHypothesis distinct.2
      rw [Json.memberDocuments, membersNamed_cons, restEq]
      by_cases here : key = name
      · subst here
        rw [if_pos rfl, Members.get?_cons_self,
          Members.get?_of_notMem distinct.1]
        rfl
      · rw [if_neg (by simpa using here), Members.get?_cons_of_ne here]

/-- An object says about a field what is found under its name. -/
theorem fields?_document (names : List String)
    (distinct : (members.map Prod.fst).Nodup) :
    fields? names (Json.object members).document =
      some (names.map fun name => (members.get? name).map Json.document) := by
  have named : (Json.memberDocuments members).all (·.1.isSome) = true := by
    simp [Json.memberDocuments_eq_map]
  rw [Json.document, fields?, if_pos named]
  induction names with
  | nil => rfl
  | cons name rest inductionHypothesis =>
      rw [List.mapM_cons, inductionHypothesis,
        membersNamed_memberDocuments name distinct, List.map_cons]
      cases members.get? name <;> simp

/-- Items that are each read as a value are read as the list of them. -/
theorem readList?_document {value : Type} {read : Document → Option value}
    {values : List value} {items : List Json}
    (each : List.Forall₂ (fun value item => read (Json.document item) =
      some value) values items) :
    readList? read (Json.array items).document = some values := by
  rw [Json.document, readList?, Json.itemDocuments_eq_map]
  induction each with
  | nil => rfl
  | cons here _ inductionHypothesis =>
      rw [List.map_cons, List.mapM_cons, here, inductionHypothesis]
      rfl

end Document

open Document (fields?_document)

/-! ## What members say -/

/-- Members that give a column: its name, its native type, and its target if it
has one. -/
structure Column.IsGivenBy (column : Column) (members : Members) : Prop where
  distinct : (members.map Prod.fst).Nodup
  name_eq : members.get? "name" = some (.string column.name)
  nativeType_eq : members.get? "type" = some (.string column.nativeType)
  foreign_eq : match column.foreign with
    | none => members.get? "foreign" = none ∨
        members.get? "foreign" = some .null
    | some target => members.get? "foreign" = some target.toJson

/-- Members that give the structure of a table. -/
structure TableMetadata.IsGivenBy (metadata : TableMetadata)
    (members : Members) : Prop where
  distinct : (members.map Prod.fst).Nodup
  name_eq : members.get? "name" = some (.string metadata.name)
  columns_eq : ∃ items, members.get? "columns" = some (.array items) ∧
    List.Forall₂ (fun column item =>
      ∃ given, item = .object given ∧ column.IsGivenBy given)
      metadata.columns items
  reverse_eq :
    members.get? "reverse" =
        some (.array (metadata.reverse.map (·.toJson))) ∨
      metadata.reverse = [] ∧ members.get? "reverse" = none

/-! ## Reading what members say -/

section Reading

open Document (fields?_document readList?_document required? optional?
  readString? readNullable? readList?)

variable {members : Members}

theorem ForeignTarget.read?_document (target : ForeignTarget) :
    read? target.toJson.document = some target := by
  have distinct : (([("tablename", .string target.table),
      ("columnname", .string target.column)] : Members).map
        Prod.fst).Nodup := by
    simp
  rw [read?, toJson, fields?_document _ distinct]
  rfl

theorem ReverseRelation.read?_document (relation : ReverseRelation) :
    read? relation.toJson.document = some relation := by
  have distinct : (([("ftablename", .string relation.childTable),
      ("fcolumnname", .string relation.childColumn),
      ("columnname", .string relation.column)] : Members).map
        Prod.fst).Nodup := by
    simp
  rw [read?, toJson, fields?_document _ distinct]
  rfl

theorem required?_string {name text : String}
    (given : members.get? name = some (.string text)) :
    required? readString? ((members.get? name).map Json.document) =
      some text := by
  rw [given]
  rfl

/-- A column is read from any members that give it. -/
theorem Column.IsGivenBy.read?_eq {column : Column}
    (given : column.IsGivenBy members) :
    Column.read? (Json.object members).document = some column := by
  obtain ⟨distinct, nameEq, typeEq, foreignEq⟩ := given
  have foreignRead : optional? none (readNullable? ForeignTarget.read?)
      ((members.get? "foreign").map Json.document) =
        some column.foreign := by
    cases held : column.foreign with
    | none =>
        rw [held] at foreignEq
        rcases foreignEq with absent | null
        · rw [absent]
          rfl
        · rw [null]
          rfl
    | some target =>
        rw [held] at foreignEq
        have notNull : readNullable? ForeignTarget.read? target.toJson.document =
            (ForeignTarget.read? target.toJson.document).map some := rfl
        rw [foreignEq, Option.map_some, optional?, notNull,
          ForeignTarget.read?_document]
        rfl
  have nameRead := required?_string nameEq
  have typeRead := required?_string typeEq
  rw [Column.read?, fields?_document _ distinct]
  simp [nameRead, typeRead, foreignRead]

/-- The structure of a table is read from any members that give it. -/
theorem TableMetadata.IsGivenBy.read?_eq {metadata : TableMetadata}
    (given : metadata.IsGivenBy members) :
    TableMetadata.read? (Json.object members).document = some metadata := by
  obtain ⟨distinct, nameEq, ⟨items, columnsEq, each⟩, reverseEq⟩ := given
  have columnsRead : required? (readList? Column.read?)
      ((members.get? "columns").map Json.document) =
        some metadata.columns := by
    rw [columnsEq]
    apply readList?_document
    refine each.imp fun column item read => ?_
    obtain ⟨_, rfl, givesColumn⟩ := read
    exact givesColumn.read?_eq
  have reverseRead : optional? [] (readList? ReverseRelation.read?)
      ((members.get? "reverse").map Json.document) =
        some metadata.reverse := by
    rcases reverseEq with present | ⟨none, absent⟩
    · rw [present, Option.map_some, optional?]
      apply readList?_document
      rw [List.forall₂_map_right_iff, List.forall₂_same]
      exact fun relation _ => relation.read?_document
    · rw [absent, none]
      rfl
  have nameRead := required?_string nameEq
  rw [TableMetadata.read?, fields?_document _ distinct]
  simp [nameRead, columnsRead, reverseRead]

end Reading

/-! ## Members that say nothing -/

/-- A change to the JSON of a table that says no more and no less: an empty list
of child tables is taken out, or a null for the target is put into a column that
says nothing about one. Each may be done anywhere in its object. -/
inductive SilentEdit : Json → Json → Prop
  | dropReverse (before behind : Members) :
      SilentEdit (.object (before ++ ("reverse", .array []) :: behind))
        (.object (before ++ behind))
  | nullForeign (before behind : Members) (left right : List Json)
      (first last : Members)
      (absent : "foreign" ∉ (first ++ last).map Prod.fst) :
      SilentEdit
        (.object (before ++ ("columns",
          .array (left ++ .object (first ++ last) :: right)) :: behind))
        (.object (before ++ ("columns",
          .array (left ++ .object (first ++ ("foreign", .null) :: last) ::
            right)) :: behind))

/-- The JSON of a table after any number of silent edits. -/
def TableMetadata.IsEditedAs (metadata : TableMetadata) (json : Json) : Prop :=
  Relation.ReflTransGen SilentEdit metadata.toJson json

section Edits

variable {column : Column} {metadata : TableMetadata}
  {members before behind first last : Members}

/-- A null for a target that nothing is said about says nothing. -/
theorem Column.IsGivenBy.nullForeign
    (given : column.IsGivenBy (first ++ last))
    (absent : "foreign" ∉ (first ++ last).map Prod.fst) :
    column.IsGivenBy (first ++ ("foreign", .null) :: last) := by
  have distinct :
      ((first ++ ("foreign", .null) :: last).map Prod.fst).Nodup :=
    Members.nodup_among_iff.mpr ⟨absent, given.distinct⟩
  refine ⟨distinct, ?_, ?_, ?_⟩
  · rw [Members.get?_among_of_ne (by decide)]
    exact given.name_eq
  · rw [Members.get?_among_of_ne (by decide)]
    exact given.nativeType_eq
  · have foreignEq := given.foreign_eq
    rw [Members.get?_of_notMem absent] at foreignEq
    rw [Members.get?_among_self distinct]
    cases held : column.foreign with
    | none => exact Or.inr rfl
    | some target =>
        rw [held] at foreignEq
        nomatch foreignEq

theorem TableMetadata.IsGivenBy.dropReverse
    (given : metadata.IsGivenBy
      (before ++ ("reverse", .array []) :: behind)) :
    metadata.IsGivenBy (before ++ behind) := by
  obtain ⟨absent, distinct⟩ := Members.nodup_among_iff.mp given.distinct
  obtain ⟨items, columnsEq, each⟩ := given.columns_eq
  have nameEq := given.name_eq
  rw [Members.get?_among_of_ne (by decide)] at nameEq columnsEq
  refine ⟨distinct, nameEq, ⟨items, columnsEq, each⟩,
    Or.inr ⟨?_, Members.get?_of_notMem absent⟩⟩
  have reverseEq := given.reverse_eq
  rw [Members.get?_among_self given.distinct] at reverseEq
  rcases reverseEq with same | ⟨none, _⟩
  · simpa using same
  · exact none

theorem TableMetadata.IsGivenBy.nullForeign {left right : List Json}
    (given : metadata.IsGivenBy (before ++ ("columns",
      .array (left ++ .object (first ++ last) :: right)) :: behind))
    (absent : "foreign" ∉ (first ++ last).map Prod.fst) :
    metadata.IsGivenBy (before ++ ("columns",
      .array (left ++ .object (first ++ ("foreign", .null) :: last) ::
        right)) :: behind) := by
  have distinct (value : Json) :
      ((before ++ ("columns", value) :: behind).map Prod.fst).Nodup :=
    Members.nodup_among_iff.mpr (Members.nodup_among_iff.mp given.distinct)
  obtain ⟨items, columnsEq, each⟩ := given.columns_eq
  have nameEq := given.name_eq
  have reverseEq := given.reverse_eq
  rw [Members.get?_among_self given.distinct] at columnsEq
  obtain ⟨⟩ := columnsEq
  rw [Members.get?_among_of_ne (by decide)] at nameEq reverseEq
  refine ⟨distinct _, ?_, ⟨_, Members.get?_among_self (distinct _), ?_⟩, ?_⟩
  · rwa [Members.get?_among_of_ne (by decide)]
  · refine forall₂_replace ?_ each
    rintro column ⟨_, ⟨⟩, givesColumn⟩
    exact ⟨_, rfl, givesColumn.nullForeign absent⟩
  · rwa [Members.get?_among_of_ne (by decide)]

/-- A silent edit leaves what members say. -/
theorem SilentEdit.isGivenBy {json other : Json} (edit : SilentEdit json other)
    (given : ∃ members, json = .object members ∧ metadata.IsGivenBy members) :
    ∃ members, other = .object members ∧ metadata.IsGivenBy members := by
  obtain ⟨members, jsonEq, givesTable⟩ := given
  cases edit with
  | dropReverse before behind =>
      obtain ⟨⟩ := jsonEq
      exact ⟨_, rfl, givesTable.dropReverse⟩
  | nullForeign before behind left right first last absent =>
      obtain ⟨⟩ := jsonEq
      exact ⟨_, rfl, givesTable.nullForeign absent⟩

end Edits

/-! ## Round trip -/

theorem Column.exists_isGivenBy_toJson (column : Column) :
    ∃ members, column.toJson = .object members ∧
      column.IsGivenBy members := by
  obtain ⟨name, nativeType, foreign⟩ := column
  refine ⟨_, rfl, ?_⟩
  cases foreign with
  | none => exact ⟨by simp, rfl, rfl, Or.inl rfl⟩
  | some target => exact ⟨by simp, rfl, rfl, rfl⟩

theorem TableMetadata.exists_isGivenBy_toJson (metadata : TableMetadata) :
    ∃ members, metadata.toJson = .object members ∧
      metadata.IsGivenBy members := by
  refine ⟨_, rfl, by simp, rfl, ⟨_, rfl, ?_⟩, Or.inl rfl⟩
  rw [List.forall₂_map_right_iff, List.forall₂_same]
  exact fun column _ => column.exists_isGivenBy_toJson

theorem TableMetadata.IsEditedAs.exists_isGivenBy {metadata : TableMetadata}
    {json : Json} (edited : metadata.IsEditedAs json) :
    ∃ members, json = .object members ∧ metadata.IsGivenBy members := by
  induction edited with
  | refl => exact metadata.exists_isGivenBy_toJson
  | tail _ edit inductionHypothesis => exact edit.isGivenBy inductionHypothesis

theorem TableMetadata.parse?_of_isEditedAs {metadata : TableMetadata}
    {json : Json} (edited : metadata.IsEditedAs json) :
    parse? json.text = some metadata := by
  obtain ⟨members, rfl, givesTable⟩ := edited.exists_isGivenBy
  rw [parse?, Document.parse?_text]
  exact givesTable.read?_eq

/-- The structure of a table is read back from its text, and just so from the text
of its JSON after silent edits. -/
theorem TableMetadata.readsBack (metadata : TableMetadata) :
    parse? metadata.toJson.text = some metadata ∧
      ∀ json, metadata.IsEditedAs json → parse? json.text = some metadata :=
  ⟨parse?_of_isEditedAs Relation.ReflTransGen.refl,
    fun _ => parse?_of_isEditedAs⟩

/-- A table whose name needs escapes. -/
def quotedTable : TableMetadata :=
  ⟨"order \"1\"\n",
    [⟨"id", "serial", none⟩, ⟨"größe", "int\\4", some ⟨"user", "id"⟩⟩], []⟩

/-- Its JSON without the list of child tables and with a null in front of the
first column. -/
def quotedTableEdited : Json :=
  .object [("name", .string "order \"1\"\n"),
    ("columns", .array [
      .object [("foreign", .null), ("name", .string "id"),
        ("type", .string "serial")],
      Column.toJson ⟨"größe", "int\\4", some ⟨"user", "id"⟩⟩])]

theorem TableMetadata.readsBack_quotedTable :
    quotedTable.IsEditedAs quotedTableEdited ∧
      parse? quotedTableEdited.text = some quotedTable := by
  have edited : quotedTable.IsEditedAs quotedTableEdited :=
    (Relation.ReflTransGen.single
      (SilentEdit.dropReverse [_, _] [])).tail
        (SilentEdit.nullForeign [_] [] [] [_] [] [_, _] (by decide))
  exact ⟨edited, (readsBack quotedTable).2 _ edited⟩

end TableGateway

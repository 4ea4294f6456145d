import TableGateway.Proofs.Resolver.RelationResolvers

/-!
# What becomes of the relations that a table declares

Columns, foreign keys and child tables are fields of one type and are named
without regard to each other. The main statement is `keepsDeclared_iff`: a
table loses nothing exactly when the names happen to differ. Two columns of one
child table that refer to the same parent are enough for a loss.
-/

namespace TableGateway

namespace TableMetadata

/-- Every column, foreign key and child table of a table has a field of its
own, and every foreign key and child table a resolver that joins what it
declares. -/
def KeepsDeclared (metadata : TableMetadata) (catalog : Catalog)
    (limit : Option Nat) : Prop :=
  Compiler.KeepsFields catalog metadata ∧
    ((Registry.empty limit).registerTable metadata).KeepsRelations metadata

/-- For a table whose columns have different names and mappable types, and
which declares no reverse relation twice: nothing that it declares is lost
exactly when no two field names are the same, and no resolver is lost exactly
when no two field names of relations are. -/
theorem keepsDeclared_iff {catalog : Catalog} {metadata : TableMetadata}
    (columnsDistinct : metadata.columnNames.Nodup)
    (reverseDistinct : metadata.reverse.Nodup)
    (mappable : ∀ column ∈ metadata.columns, ∃ scalar,
      catalog.mapColumnType column = .ok scalar)
    (limit : Option Nat) :
    (metadata.KeepsDeclared catalog limit ↔ metadata.fieldNames.Nodup) ∧
    (((Registry.empty limit).registerTable metadata).KeepsRelations
        metadata ↔
      metadata.relationFieldNames.Nodup) := by
  have fieldsIff := Compiler.keepsFields_iff mappable
  have relationsIff :=
    Registry.keepsRelations_iff columnsDistinct reverseDistinct limit
  refine ⟨?_, relationsIff⟩
  unfold KeepsDeclared
  rw [fieldsIff, relationsIff, and_iff_left_iff_imp]
  intro fieldsDistinct
  exact fieldsDistinct.sublist (List.sublist_append_right _ _)

/-- A table with two references from one child table. -/
def correspondent : TableMetadata where
  name := "person"
  columns := [⟨"id", "serial", none⟩]
  reverse :=
    [⟨"message", "sender_id", "id"⟩, ⟨"message", "receiver_id", "id"⟩]

/-- A catalog in which every column is a text. -/
def texts : Catalog where
  tables := []
  tableMetadata := fun table => .error (.unknownTable table)
  mapColumnType := fun _ => .ok "String"

theorem not_keepsDeclared_correspondent :
    correspondent.columnNames.Nodup ∧
    correspondent.reverse.Nodup ∧
    ¬correspondent.KeepsDeclared texts none ∧
    ¬((Registry.empty none).registerTable correspondent).KeepsRelations
      correspondent := by
  have columnsDistinct : correspondent.columnNames.Nodup := by decide
  have reverseDistinct : correspondent.reverse.Nodup := by decide
  obtain ⟨declaredIff, relationsIff⟩ :=
    @keepsDeclared_iff texts correspondent columnsDistinct reverseDistinct
      (fun _ _ => ⟨"String", rfl⟩) none
  refine ⟨columnsDistinct, reverseDistinct, ?_, ?_⟩
  · rw [declaredIff]
    decide
  · rw [relationsIff]
    decide

end TableMetadata

end TableGateway

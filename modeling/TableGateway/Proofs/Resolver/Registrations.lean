import TableGateway.Proofs.LastWrite
import TableGateway.Resolver.Synthesis

/-!
# What a registry is filled with

The resolvers of several tables are registered one after the other, so that a
key has the handler of the last resolver listed under it. Registration goes as
far as the metadata of the tables are to be had.
-/

namespace TableGateway

namespace Registry

/-- The handler of a key. -/
def handler? (registry : Registry) (key : ResolverKey) : Option Handler :=
  HandlerTable.handler? registry.handlers key

/-- The resolvers of several tables, in the order of registration. -/
def registrations (tables : List TableMetadata) :
    List (ResolverKey × GeneratedResolver) :=
  tables.flatMap (·.resolvers)

/-- Register several generated resolvers. -/
def putAll (registry : Registry)
    (resolvers : List (ResolverKey × GeneratedResolver)) : Registry :=
  resolvers.foldl
    (fun current (key, resolver) => current.put key resolver.handler)
    registry

theorem handler?_putAll (registry : Registry)
    (resolvers : List (ResolverKey × GeneratedResolver))
    (key : ResolverKey) :
    (registry.putAll resolvers).handler? key =
      ((lastWrite key resolvers).map (·.handler)).or
        (registry.handler? key) := by
  induction resolvers generalizing registry with
  | nil => rfl
  | cons entry rest inductionHypothesis =>
      obtain ⟨written, resolver⟩ := entry
      have putLaw :
          (registry.put written resolver.handler).handler? key =
            if key = written then some resolver.handler
            else registry.handler? key :=
        HandlerTable.handler?_put _ _ _ _
      refine (inductionHypothesis _).trans ?_
      rw [putLaw, lastWrite_cons, Option.map_or, Option.or_assoc]
      by_cases same : key = written
      · simp [same]
      · simp [same]

theorem defaultLimit_putAll (registry : Registry)
    (resolvers : List (ResolverKey × GeneratedResolver)) :
    (registry.putAll resolvers).defaultLimit = registry.defaultLimit := by
  have put (current : Registry) (key : ResolverKey)
      (resolver : GeneratedResolver) :
      (current.put key resolver.handler).defaultLimit =
        current.defaultLimit := rfl
  exact foldl_unchanged defaultLimit (fun current entry =>
    put current entry.1 entry.2) registry resolvers

/-- The registry after the tables of a catalog whose metadata are to be had. -/
theorem registerTables_of_metadataOf (catalog : Catalog)
    (names : List String) {tables : List TableMetadata}
    (found : catalog.metadataOf names = .ok tables)
    (registry : Registry) :
    registry.registerTables catalog names =
      (.ok (), registry.putAll (registrations tables)) := by
  induction names generalizing tables registry with
  | nil =>
      cases found
      rfl
  | cons name rest inductionHypothesis =>
      unfold Catalog.metadataOf at found
      cases nameFound : catalog.tableMetadata name with
      | error fault =>
          rw [nameFound] at found
          cases found
      | ok metadata =>
          rw [nameFound] at found
          cases restFound : catalog.metadataOf rest with
          | error fault =>
              rw [restFound] at found
              cases found
          | ok others =>
              rw [restFound] at found
              cases found
              unfold registerTables
              rw [nameFound]
              dsimp only
              rw [inductionHypothesis restFound]
              unfold registrations registerTable putAll
              rw [List.flatMap_cons, List.foldl_append]

end Registry

end TableGateway

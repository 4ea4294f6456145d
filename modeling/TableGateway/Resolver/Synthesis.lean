import TableGateway.Resolver.Registry
import TableGateway.Resolver.Relation

/-!
# Generated resolvers

Every table brings resolvers with it: two queries, a mutation, one for each
foreign key and one for each child table. They are listed in the order in which
they are registered.
-/

namespace TableGateway

/-- A resolver that follows from the structure of a table. -/
inductive GeneratedResolver where
  | getPage (table : String)
  | getFirst (table : String)
  | putItem (table : String)
  | foreign (relation : Relation)
  | reverse (relation : Relation)
  deriving DecidableEq

def GeneratedResolver.handler : GeneratedResolver → Handler
  | getPage table => fun invocation =>
      Crud.getPage invocation.defaultLimit table invocation.call.arguments
  | getFirst table => fun invocation =>
      Crud.getFirst table invocation.call.arguments
  | putItem table => fun invocation =>
      Crud.putItem table invocation.call.arguments
  | foreign relation => relation.followOne
  | reverse relation => relation.followPage

namespace TableMetadata

def rootResolvers (metadata : TableMetadata) :
    List (ResolverKey × GeneratedResolver) :=
  [(⟨Naming.query, Naming.getPageField metadata.name⟩,
      .getPage metadata.name),
    (⟨Naming.query, Naming.getFirstField metadata.name⟩,
      .getFirst metadata.name),
    (⟨Naming.mutation, Naming.putItemField metadata.name⟩,
      .putItem metadata.name)]

def foreignResolver (metadata : TableMetadata)
    (key : Column × ForeignTarget) : ResolverKey × GeneratedResolver :=
  (⟨Naming.typeName metadata.name,
      Naming.foreignField key.1.name key.2.table⟩,
    .foreign ⟨key.1.name, key.2.table, key.2.column⟩)

/-- The resolver that lists the records of a child table. -/
def reverseResolver (metadata : TableMetadata)
    (relation : ReverseRelation) : ResolverKey × GeneratedResolver :=
  (⟨Naming.typeName metadata.name,
      Naming.reverseField relation.childTable⟩,
    .reverse ⟨relation.column, relation.childTable,
      relation.childColumn⟩)

def resolvers (metadata : TableMetadata) :
    List (ResolverKey × GeneratedResolver) :=
  metadata.rootResolvers ++
    metadata.foreignKeys.map metadata.foreignResolver ++
      metadata.reverse.map metadata.reverseResolver

end TableMetadata

namespace Registry

def registerTable (registry : Registry) (metadata : TableMetadata) :
    Registry :=
  metadata.resolvers.foldl
    (fun current (key, resolver) => current.put key resolver.handler)
    registry

/-- Register the resolvers of several tables, up to the first one whose
structure is not to be had. -/
def registerTables (catalog : Catalog) :
    List String → Registry → Except DriverError Unit × Registry
  | [], registry => (.ok (), registry)
  | table :: others, registry =>
      match catalog.tableMetadata table with
      | .error fault => (.error fault, registry)
      | .ok metadata =>
          registerTables catalog others (registry.registerTable metadata)

/-- Register the resolvers of every table of a database. -/
def synthesize (registry : Registry) (catalog : Catalog) :
    Except DriverError Unit × Registry :=
  registerTables catalog catalog.tables registry

end Registry

end TableGateway

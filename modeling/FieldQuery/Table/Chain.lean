import FieldQuery.Table.Catalog

/-!
# Chains of foreign keys

Which tables lie on the way to a table, on the side of the catalog and on that of a schema: walks
along foreign keys that come through no name twice, and chains of relations.
-/
namespace FieldQuery

/-- The relation that a foreign key stands for. -/
structure ForeignKey.Gives (k : ForeignKey) (r : Relation) : Prop where
  name : r.name = k.relationName
  localKey : r.localKey = k.localKey
  foreignKey : r.foreignKey = k.foreignKey.getD "id"
  target : r.target.table = k.table

/-- The tables in a schema, each with the names on the chain of relations to it, its own first. -/
inductive TableSchema.Holds (base : TableSchema) : List String → TableSchema → Prop where
  | base : Holds base [base.table] base
  | related {chain : List String} {t : TableSchema} {r : Relation} (held : Holds base chain t)
      (mem : r ∈ t.relations) : Holds base (r.target.table :: chain) r.target

/-- The tables that a walk along foreign keys comes through, from the last one back. -/
inductive Catalog.Walk (c : Catalog) (start : String) : List String → Prop where
  | start : Walk c start [start]
  | follow {name : String} {visited : List String} {t : CatalogTable} {k : ForeignKey}
      (walk : Walk c start (name :: visited)) (found : c.find? name = some t)
      (key : k ∈ t.foreignKeys) (on : k.table ∉ name :: visited) :
      Walk c start (k.table :: name :: visited)

end FieldQuery

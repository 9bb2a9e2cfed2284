import FieldQuery.Table.Schema

/-!
# Catalogs

A catalog lists the tables of a database as the database reports them. The schema of a table is read
off its catalog: every foreign key becomes a relation, and the schema of its target is read in turn,
except where that would lead back to a table on the way.
-/
namespace FieldQuery

structure CatalogColumn where
  name : String
  declaredType : String
  notNull : Bool
  /-- The place of the column in the primary key, counted from 1; 0 if it has none. -/
  keyPosition : Nat
deriving DecidableEq, Repr

structure ForeignKey where
  localKey : String
  table : String
  /-- The column referred to, if the key names one. -/
  foreignKey : Option String
deriving DecidableEq, Repr

structure CatalogTable where
  name : String
  columns : List CatalogColumn
  /-- In the order of their numbers, those of one number by their places in the key. -/
  foreignKeys : List ForeignKey
deriving DecidableEq, Repr

abbrev Catalog := List CatalogTable

namespace CatalogColumn

/-- Columns of the primary key hold no null. -/
def toColumn (c : CatalogColumn) : Column :=
  ⟨c.name, .ofDeclaredType c.declaredType, !c.notNull && c.keyPosition == 0⟩

end CatalogColumn

namespace ForeignKey

/-- The name of the relation: the key without its ending `_id`, or else the target, capitalised. -/
def relationName (k : ForeignKey) : String :=
  let key := k.localKey.toList
  let ending := "_id".toList
  Text.pascal <|
    if ending.isSuffixOf key then String.ofList (key.take (key.length - ending.length)) else k.table

end ForeignKey

namespace CatalogTable

/-- The name of the last column that meets a condition. -/
def lastNamed (t : CatalogTable) (p : CatalogColumn → Bool) : Option String :=
  ((t.columns.filter p).getLast?).map (·.name)

/-- The schema of a table under the name it was asked for. -/
def toSchema (t : CatalogTable) (name : String) (relations : List Relation) : TableSchema where
  table := name
  columns := t.columns.map (·.toColumn)
  relations := relations
  primaryKey := t.lastNamed (·.keyPosition == 1)
  updatedAt := t.lastNamed (·.name == "updated_at")
  deletedAt := t.lastNamed (·.name == "deleted_at")

end CatalogTable

namespace Catalog

/-- Databases find tables by name in any case; a table without columns counts as missing. -/
def find? (c : Catalog) (name : String) : Option CatalogTable :=
  (List.find? (fun t => Text.eqIgnoreAsciiCase t.name name) c).filter (!·.columns.isEmpty)

def targets (c : Catalog) : List String := c.flatMap fun t => t.foreignKeys.map (·.table)

/-- How many targets have not been visited. -/
def unvisited (c : Catalog) (visited : List String) : Nat :=
  (c.targets.filter (· ∉ visited)).length

theorem unvisited_cons_lt {c : Catalog} {visited : List String} {name : String}
    (hc : name ∈ c.targets) (hv : name ∉ visited) :
    c.unvisited (name :: visited) < c.unvisited visited := by
  unfold unvisited
  generalize c.targets = names at hc
  have hle : ∀ l : List String,
      (l.filter (· ∉ name :: visited)).length ≤ (l.filter (· ∉ visited)).length := fun l =>
    (List.Sublist.length_le (by
      induction l with
      | nil => exact .slnil
      | cons x xs ih =>
        by_cases h1 : x = name <;> by_cases h2 : x ∈ visited <;> simp_all [List.filter]))
  induction names with
  | nil => simp at hc
  | cons x xs ih =>
    by_cases hx : x = name
    · subst hx
      have := hle xs
      simp [List.filter, hv] at this ⊢
      omega
    · have hm : name ∈ xs := by simpa [Ne.symm hx] using hc
      have := ih hm
      by_cases h2 : x ∈ visited <;> simp_all [List.filter]

theorem mem_targets {c : Catalog} {t : CatalogTable} {name : String} (h : c.find? name = some t)
    {k : ForeignKey} (hk : k ∈ t.foreignKeys) : k.table ∈ c.targets := by
  unfold find? at h
  have := List.mem_of_find?_eq_some (Option.filter_eq_some_iff.1 h).1
  exact List.mem_flatMap.2 ⟨t, this, List.mem_map.2 ⟨k, hk, rfl⟩⟩

mutual

/-- The schema of a table that is reached by way of the visited ones. -/
def schemaFrom (c : Catalog) (visited : List String) (name : String) : Answer TableSchema :=
  match h : c.find? name with
  | none => .error (.parameter "table" (.unknownTable name))
  | some t => do
    let relations ← relationsFrom c (name :: visited) t.foreignKeys fun _ hk => mem_targets h hk
    .ok (t.toSchema name relations)
termination_by (c.unvisited (name :: visited), 1, 0)

/-- The relations of foreign keys, save those that lead back to a visited table. -/
def relationsFrom (c : Catalog) (visited : List String) (keys : List ForeignKey)
    (hk : ∀ k ∈ keys, k.table ∈ c.targets) : Answer (List Relation) :=
  match keys with
  | [] => .ok []
  | k :: rest =>
    if h : k.table ∈ visited then
      relationsFrom c visited rest fun k' h' => hk k' (List.mem_cons_of_mem _ h')
    else do
      have := unvisited_cons_lt (hk k List.mem_cons_self) h
      let target ← schemaFrom c visited k.table
      let relations ← relationsFrom c visited rest fun k' h' => hk k' (List.mem_cons_of_mem _ h')
      .ok (⟨k.relationName, k.localKey, k.foreignKey.getD "id", target⟩ :: relations)
termination_by (c.unvisited visited, 0, keys.length)

end

def schema (c : Catalog) (name : String) : Answer TableSchema := c.schemaFrom [] name

end Catalog

end FieldQuery

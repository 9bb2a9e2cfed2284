import FieldQuery.Table.Catalog
import Mathlib.Data.Finset.Basic

/-!
# Reading a catalog table by table

The schema of a table is read while one set keeps the names of the tables that are being read. A
table is put into the set before its foreign keys are followed and taken out once they are; keys
whose target is in the set are left out. The set is all that keeps a reading from going round, so
readings are stated as a relation: nothing says beforehand that they end.
-/
namespace FieldQuery.Catalog

mutual

/-- From a set, the reading of a table ends with an answer and leaves a set behind. -/
inductive ReadsTable (c : Catalog) :
    Finset String → String → Answer TableSchema → Finset String → Prop where
  | missing {visiting : Finset String} {name : String} (nowhere : c.find? name = none) :
      ReadsTable c visiting name (.error (.parameter "table" (.unknownTable name)))
        (insert name visiting)
  | failed {visiting left : Finset String} {name : String} {t : CatalogTable} {fault : QueryFault}
      (found : c.find? name = some t)
      (keys : ReadsKeys c (insert name visiting) t.foreignKeys (.error fault) left) :
      ReadsTable c visiting name (.error fault) left
  | read {visiting left : Finset String} {name : String} {t : CatalogTable}
      {relations : List Relation} (found : c.find? name = some t)
      (keys : ReadsKeys c (insert name visiting) t.foreignKeys (.ok relations) left) :
      ReadsTable c visiting name (.ok (t.toSchema name relations)) (left.erase name)

/-- The same for the relations of foreign keys, one key after the other. -/
inductive ReadsKeys (c : Catalog) :
    Finset String → List ForeignKey → Answer (List Relation) → Finset String → Prop where
  | done {visiting : Finset String} : ReadsKeys c visiting [] (.ok []) visiting
  | back {visiting left : Finset String} {k : ForeignKey} {rest : List ForeignKey}
      {answer : Answer (List Relation)} (taken : k.table ∈ visiting)
      (others : ReadsKeys c visiting rest answer left) :
      ReadsKeys c visiting (k :: rest) answer left
  | failed {visiting left : Finset String} {k : ForeignKey} {rest : List ForeignKey}
      {fault : QueryFault} (on : k.table ∉ visiting)
      (target : ReadsTable c visiting k.table (.error fault) left) :
      ReadsKeys c visiting (k :: rest) (.error fault) left
  | follow {visiting next left : Finset String} {k : ForeignKey} {rest : List ForeignKey}
      {target : TableSchema} {answer : Answer (List Relation)} (on : k.table ∉ visiting)
      (table : ReadsTable c visiting k.table (.ok target) next)
      (others : ReadsKeys c next rest answer left) :
      ReadsKeys c visiting (k :: rest)
        (answer.map (⟨k.relationName, k.localKey, k.foreignKey.getD "id", target⟩ :: ·)) left

end

/-- A reading ends, with one answer and no other, and if it does not fail it leaves one set. -/
structure Settles {α : Type} (reads : Answer α → Finset String → Prop) (answer : Answer α)
    (kept : Finset String) : Prop where
  ends : ∃ left, reads answer left
  only : ∀ other left, reads other left → other = answer ∧ ∀ a, answer = .ok a → left = kept

end FieldQuery.Catalog

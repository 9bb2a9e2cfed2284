import FieldQuery.Table.Catalog

/-!
# Catalogs as JSON

A catalog is written as an array of tables, each with its `name`, its `columns` and its
`foreignKeys`. What is missing is empty, false or zero.
-/
namespace FieldQuery

namespace Json

/-- The text under a key, or the empty text. -/
def textUnder (j : Json) (key : String) : String :=
  match j.get? key with
  | some (str s) => s
  | _ => ""

def itemsUnder (j : Json) (key : String) : List Json :=
  match j.get? key with
  | some (arr items) => items
  | _ => []

end Json

def CatalogColumn.ofJson (j : Json) : CatalogColumn where
  name := j.textUnder "name"
  declaredType := j.textUnder "type"
  notNull :=
    match j.get? "notNull" with
    | some (.bool b) => b
    | _ => false
  keyPosition :=
    match j.get? "pk" with
    | some (.num (.int n)) => n.toNat
    | _ => 0

def ForeignKey.ofJson (j : Json) : ForeignKey where
  localKey := j.textUnder "from"
  table := j.textUnder "table"
  foreignKey :=
    match j.get? "to" with
    | some (.str s) => some s
    | _ => none

def CatalogTable.ofJson (j : Json) : CatalogTable where
  name := j.textUnder "name"
  columns := (j.itemsUnder "columns").map .ofJson
  foreignKeys := (j.itemsUnder "foreignKeys").map .ofJson

/-- The catalog of an array of tables. -/
def Catalog.ofJson : Json → Catalog
  | .arr tables => tables.map CatalogTable.ofJson
  | _ => []

end FieldQuery

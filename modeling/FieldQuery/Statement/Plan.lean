import FieldQuery.Page.Window
import FieldQuery.Statement.ColumnTest
import FieldQuery.Statement.Condition
import FieldQuery.Table.Schema

/-!
# Plans

A plan is what a request asks of one table: where rows come from, which rows count, in which order
they come, and which column an aggregate is taken of. The parts are kept apart as data; the same
plan is then written as a selection, a count, a question of existence or an aggregate.
-/
namespace FieldQuery

/-- What becomes of rows beyond the filter. -/
structure PlanOptions where
  /-- Deleted rows are included. -/
  unscoped : Bool := false
  /-- A query that stands in for the table, under the name of the table. -/
  base : Option RawQuery := none
  /-- Further conditions, all of which must hold. -/
  conditions : List RawQuery := []

/-- One test in the group of a filter. -/
inductive RowTest where
  | predicate (test : SqlTest)
  | column (column : ColumnRef) (test : ColumnTest)
deriving DecidableEq, Repr

/-- Conditions all of which a row must meet. -/
inductive Conjunct where
  /-- The terms of a filter under its logic. -/
  | group (logic : Logic) (tests : List RowTest)
  /-- The row is not marked as deleted. -/
  | notDeleted (mark : ColumnRef)
  | raw (f : Fragment)
deriving DecidableEq, Repr

inductive OrderKey where
  /-- Rows that have a value come first. -/
  | isNull (column : ColumnRef)
  /-- Letters in any case. -/
  | folded (column : ColumnRef)
  | plain (column : ColumnRef)
deriving DecidableEq, Repr

structure OrderTerm where
  key : OrderKey
  direction : Direction
deriving DecidableEq, Repr

inductive Aggregate where
  | min | max
deriving DecidableEq, Repr

def Aggregate.name : Aggregate → String
  | min => "MIN"
  | max => "MAX"

structure Plan where
  table : String
  dialect : Dialect
  /-- What stands in for the table. -/
  base : Option Fragment
  joins : List JoinStep
  /-- Whether joined rows that are marked as deleted are left out. -/
  hidesDeleted : Bool
  conjuncts : List Conjunct
  order : List OrderTerm
  /-- The column of aggregates. -/
  target : Option ColumnRef
deriving DecidableEq, Repr

def RowTest.fragment (d : Dialect) : RowTest → Fragment
  | predicate t => t.fragment d
  | column c t => t.fragment c.qualified

namespace Conjunct

def tests : Conjunct → List RowTest
  | group _ tests => tests
  | notDeleted _ | raw _ => []

/-- A single test stands bare. Of several, a conjunction encloses each and a disjunction encloses
all, so that it can stand among other conjuncts. -/
def fragment (d : Dialect) : Conjunct → Fragment
  | group _ [t] => t.fragment d
  | group .and tests => Fragment.join " AND " (tests.map fun t => (t.fragment d).enclosed)
  | group .or tests => (Fragment.join " OR " (tests.map (·.fragment d))).enclosed
  | notDeleted mark => [.text (mark.qualified ++ " IS NULL")]
  | raw f => f.enclosed

end Conjunct

def OrderKey.text : OrderKey → String
  | isNull c => s!"({c.qualified} IS NULL)"
  | folded c => s!"LOWER({c.qualified})"
  | plain c => c.qualified

def OrderTerm.text (t : OrderTerm) : String := s!"{t.key.text} {t.direction.keyword}"

/-- A join, which may leave out deleted rows. -/
def JoinStep.text (hidesDeleted : Bool) (j : JoinStep) : String :=
  s!" LEFT JOIN {Statement.quoteIdent j.table} AS {Statement.quoteIdent j.label}" ++
    s!" ON {Statement.qualify j.parent j.localKey} = " ++
    Statement.qualify j.label j.foreignKey ++
    match hidesDeleted, j.deletedAt with
    | true, some mark => s!" AND {Statement.qualify j.label mark} IS NULL"
    | _, _ => ""

namespace Plan

def sourceFragment (p : Plan) : Fragment :=
  (match p.base with
    | none => [.text s!"FROM {Statement.quoteIdent p.table}"]
    | some f => [.text "FROM "] ++ f.enclosed ++ [.text s!" AS {Statement.quoteIdent p.table}"]) ++
    p.joins.map fun j => .text (j.text p.hidesDeleted)

def whereFragment (p : Plan) : Fragment :=
  if p.conjuncts.isEmpty then []
  else [.text " WHERE "] ++ Fragment.join " AND " (p.conjuncts.map (·.fragment p.dialect))

/-- Where rows come from and which of them count. -/
def rowsFragment (p : Plan) : Fragment := p.sourceFragment ++ p.whereFragment

def orderText (p : Plan) : String :=
  if p.order.isEmpty then ""
  else " ORDER BY " ++ ", ".intercalate (p.order.map (·.text))

def windowText : Option PageWindow → String
  | none => ""
  | some w => s!" LIMIT {String.ofList (decimalDigits w.limit)} OFFSET " ++
      String.ofList (decimalDigits w.offset)

/-- The clause that locks rows; SQLite has none. -/
def lockText (p : Plan) (lock : Bool) : String :=
  match lock, p.dialect with
  | true, .postgres => s!" FOR UPDATE OF {Statement.quoteIdent p.table}"
  | _, _ => ""

def selectFragment (p : Plan) (window : Option PageWindow) (lock : Bool) : Fragment :=
  [.text s!"SELECT {Statement.quoteIdent p.table}.* "] ++ p.rowsFragment ++
    [.text (p.orderText ++ windowText window ++ p.lockText lock)]

def countFragment (p : Plan) : Fragment := [.text "SELECT COUNT(*) "] ++ p.rowsFragment

def existsFragment (p : Plan) : Fragment :=
  [.text "SELECT EXISTS(SELECT 1 "] ++ p.rowsFragment ++ [.text ")"]

/-- There is no aggregate without a target. -/
def aggregateFragment (p : Plan) (a : Aggregate) : Option Fragment :=
  p.target.map fun c => [.text s!"SELECT {a.name}({c.qualified}) "] ++ p.rowsFragment

def write (p : Plan) (f : Fragment) : String := f.write p.dialect 0

def selectText (p : Plan) (window : Option PageWindow) (lock : Bool) : String :=
  p.write (p.selectFragment window lock)

def selectOneText (p : Plan) (lock : Bool) : String := p.selectText (some .first) lock

def countText (p : Plan) : String := p.write p.countFragment

def existsText (p : Plan) : String := p.write p.existsFragment

def aggregateText (p : Plan) (a : Aggregate) : Option String := (p.aggregateFragment a).map p.write

def params (p : Plan) : List SqlValue := p.rowsFragment.values

/-- The number of filter terms that restrict the rows. -/
def filterCount (p : Plan) : Nat := (p.conjuncts.flatMap (·.tests)).length

end Plan

end FieldQuery

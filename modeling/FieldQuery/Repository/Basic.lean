import FieldQuery.Export.Delimited
import FieldQuery.Statement.Planning

/-!
# Rows of a table

A repository answers requests on the rows of one table. Each request becomes a plan, and a store is
asked to carry it out; what the store refuses is a fault of the operation. The plan always comes
first, so a request that cannot be planned never reaches the store.
-/
namespace FieldQuery

/-- What carries out plans. Nothing is answered where the store refuses. -/
structure Store (Row : Type) where
  select : Plan → Option PageWindow → (lock : Bool) → Option (List Row)
  count : Plan → Option Nat
  hasRows : Plan → Option Bool
  aggregate : Plan → Aggregate → Option SqlValue

structure Repository where
  schema : TableSchema
  settings : PlanSettings := {}
  /-- The size of pages for which none is asked. -/
  pageSize : Nat := PageWindow.usualSize

structure RowRequest where
  filter : Filter := {}
  options : PlanOptions := {}
  /-- Whether the rows are locked. -/
  lock : Bool := false

namespace Repository

variable {Row : Type}

def plan (r : Repository) (q : RowRequest) (target : Option String) : Answer Plan :=
  r.schema.plan r.schema.resolve r.settings q.filter q.options target

def columnPlan (r : Repository) (filters : List ColumnFilter) (sort : List SortField)
    (target : Option String) : Answer Plan :=
  r.schema.planColumns r.schema.resolve r.settings filters sort target

def carryOut {α : Type} (operation : String) (p : Plan) (answer : Option α) : Answer α :=
  match answer with
  | some a => .ok a
  | none => .error (.execution operation p.filterCount)

/-- An aggregate has no value if its target is unknown; the store is not asked then. -/
def aggregateOf (s : Store Row) (operation : String) (p : Plan) (a : Aggregate) :
    Answer (Option SqlValue) :=
  match p.target with
  | none => .ok none
  | some _ => carryOut operation p ((s.aggregate p a).map some)

def find (r : Repository) (s : Store Row) (q : RowRequest) : Answer (List Row) := do
  let p ← r.plan q none
  carryOut "find" p (s.select p none q.lock)

def findOne (r : Repository) (s : Store Row) (q : RowRequest) : Answer (Option Row) := do
  let p ← r.plan q none
  let rows ← carryOut "find_one" p (s.select p (some .first) q.lock)
  .ok rows.head?

def count (r : Repository) (s : Store Row) (q : RowRequest) : Answer Nat := do
  let p ← r.plan q none
  carryOut "count" p (s.count p)

def hasRows (r : Repository) (s : Store Row) (q : RowRequest) : Answer Bool := do
  let p ← r.plan q none
  carryOut "exists" p (s.hasRows p)

def least (r : Repository) (s : Store Row) (q : RowRequest) (field : String) :
    Answer (Option SqlValue) := do
  let p ← r.plan q (some field)
  aggregateOf s "min" p .min

def greatest (r : Repository) (s : Store Row) (q : RowRequest) (field : String) :
    Answer (Option SqlValue) := do
  let p ← r.plan q (some field)
  aggregateOf s "max" p .max

/-- One page. Rows are counted first, and fetched only if the page begins before the last one. -/
def paginate (r : Repository) (s : Store Row) (q : RowRequest) (index size : Int) :
    Answer (Page Row) := do
  let w := PageWindow.ofRequest r.pageSize index size
  let p ← r.plan q none
  let total ← carryOut "paginate" p (s.count p)
  let rows ← if w.offset < total then carryOut "paginate" p (s.select p (some w) q.lock) else .ok []
  .ok ⟨rows, w, total, q.filter.sort⟩

def exportText (r : Repository) (s : Store Row) (q : RowRequest)
    (columns : Row → Delimited.ColumnMap) (room : Option Nat) : Answer (Nat × List Char) := do
  let rows ← r.find s q
  Delimited.write room (rows.map columns)

def findBy (r : Repository) (s : Store Row) (filters : List ColumnFilter)
    (sort : List SortField) : Answer (List Row) := do
  let p ← r.columnPlan filters sort none
  carryOut "find_by" p (s.select p none false)

def findOneBy (r : Repository) (s : Store Row) (filters : List ColumnFilter)
    (sort : List SortField) : Answer (Option Row) := do
  let p ← r.columnPlan filters sort none
  let rows ← carryOut "find_one_by" p (s.select p (some .first) false)
  .ok rows.head?

def hasRowsBy (r : Repository) (s : Store Row) (filters : List ColumnFilter) : Answer Bool := do
  let p ← r.columnPlan filters [] none
  carryOut "exists_by" p (s.hasRows p)

def greatestBy (r : Repository) (s : Store Row) (field : String) (filters : List ColumnFilter) :
    Answer (Option SqlValue) := do
  let p ← r.columnPlan filters [] (some field)
  aggregateOf s "max_by" p .max

end Repository

end FieldQuery

import FieldQuery.Resolution.Cache
import FieldQuery.Statement.Planning

/-!
# Planning path by path

A planner looks up one path after the other in a cache and takes in the joins of each column as it
goes. The same plan comes about that `TableSchema.plan` settles at once.
-/
namespace FieldQuery

/-- What a planner is asked about a path. -/
inductive Inquiry where
  /-- Its column, with the joins that reach it. -/
  | column (path : String)
  /-- Whether it leads nowhere. -/
  | missing (path : String)
deriving DecidableEq, Repr

def Inquiry.column? : Inquiry → Option String
  | column path => some path
  | missing _ => none

structure Planner (M : RecordModel) where
  cache : ResolutionCache M := {}
  /-- The joins taken in so far. -/
  joins : List JoinStep := []

namespace Planner

variable {M : RecordModel} [DecidableEq M.Kind]

def lookup (pl : Planner M) (schema : TableSchema) : ColumnLookup := pl.cache.answer (.table schema)

def learned (pl : Planner M) (schema : TableSchema) (path : String) : Planner M :=
  { pl with cache := pl.cache.learn (.table schema) path }

/-- Whether a path leads nowhere. No joins are taken in. -/
def isMissing (pl : Planner M) (schema : TableSchema) (path : String) : Bool × Planner M :=
  ((pl.lookup schema).isMissing path, pl.learned schema path)

/-- The column of a path, whose joins are taken in. -/
def column (pl : Planner M) (schema : TableSchema) (policy : UnknownFields) (path : String) :
    Answer (Option ResolvedColumn) × Planner M :=
  ((pl.lookup schema).column policy path,
    match pl.lookup schema path with
    | .ok c => { pl.learned schema path with joins := addJoins pl.joins c.joins }
    | .error _ => pl.learned schema path)

/-- Answers inquiries in turn; the answers are those on columns. -/
def run (schema : TableSchema) (policy : UnknownFields) :
    List Inquiry → Planner M → List (Answer (Option ResolvedColumn)) × Planner M
  | [], pl => ([], pl)
  | .missing path :: rest, pl => run schema policy rest (pl.isMissing schema path).2
  | .column path :: rest, pl =>
    let (column, pl) := pl.column schema policy path
    let (columns, pl) := run schema policy rest pl
    (column :: columns, pl)

end Planner

/-- What a term makes a planner look up: a field that may be missing is looked for first. -/
def Term.inquiries (lookup : ColumnLookup) (t : Term) : List Inquiry :=
  if t.mode == .isEmpty then
    .missing t.field :: if lookup.isMissing t.field then [] else [.column t.field]
  else [.column t.field]

def furtherInquiries (sort : List SortField) (target : Option String) : List Inquiry :=
  sort.map (.column ·.field) ++ target.toList.map .column

def Filter.inquiries (lookup : ColumnLookup) (f : Filter) (target : Option String) :
    List Inquiry := f.terms.flatMap (·.inquiries lookup) ++ furtherInquiries f.sort target

/-- What the plan of column tests makes a planner look up. -/
def columnInquiries (filters : List ColumnFilter) (sort : List SortField)
    (target : Option String) : List Inquiry :=
  filters.map (.column ·.field) ++ furtherInquiries sort target

end FieldQuery

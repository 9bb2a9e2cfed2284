import FieldQuery.Field.Kind
import FieldQuery.Filter.Fault
import FieldQuery.Statement.Identifier
import FieldQuery.Text.Name

/-!
# Tables

A table has columns, and relations that lead from one of its rows to at most one row of another
table. A dotted path names relations and, last, a column; resolving it gives the column and the
joins that reach it.
-/
namespace FieldQuery

structure Column where
  name : String
  kind : FieldKind
  nullable : Bool
deriving DecidableEq, Repr

mutual

structure TableSchema where
  table : String
  columns : List Column
  relations : List Relation
  primaryKey : Option String
  /-- The column that says when a row was last changed. -/
  updatedAt : Option String
  /-- The column that marks deleted rows by a value. -/
  deletedAt : Option String

/-- The row of the target whose `foreignKey` equals the `localKey` of this row. -/
structure Relation where
  name : String
  localKey : String
  foreignKey : String
  target : TableSchema

end

instance : Inhabited TableSchema := ⟨⟨"", [], [], none, none, none⟩⟩

/-- One join on the way to a column. -/
structure JoinStep where
  /-- The name that the joined table goes by. -/
  label : String
  /-- The name of the table or join that it is joined to. -/
  parent : String
  table : String
  localKey : String
  foreignKey : String
  deletedAt : Option String
deriving DecidableEq, Repr

/-- A column of the table or join that goes by a name. -/
structure ColumnRef where
  source : String
  column : String
deriving DecidableEq, Repr

def ColumnRef.qualified (c : ColumnRef) : String := Statement.qualify c.source c.column

/-- A column together with the joins that reach it. -/
structure ResolvedColumn extends ColumnRef where
  joins : List JoinStep
  kind : FieldKind
  nullable : Bool
deriving DecidableEq, Repr

namespace TableSchema

/-- The first column that has the name, or its spelling with underscores, in any case. -/
def findColumn (t : TableSchema) (name : String) : Option Column :=
  let snake := Text.snake name
  t.columns.find? fun c =>
    Text.eqIgnoreAsciiCase c.name name || Text.eqIgnoreAsciiCase c.name snake

/-- The first relation that has the name in its capitalised spelling, in any case. -/
def findRelation (t : TableSchema) (name : String) : Option Relation :=
  let pascal := Text.pascal name
  t.relations.find? fun r => Text.eqIgnoreAsciiCase r.name pascal

/-- The joins that follow relations from a table that goes by a name, with the table they end at and
its name. A join goes by its relations from the base table on, whose own name is left out. -/
def follow (t : TableSchema) (name : String) (isBase : Bool) :
    List String → Option (List JoinStep × String × TableSchema)
  | [] => some ([], name, t)
  | segment :: rest => do
    let r ← t.findRelation segment
    let next := if isBase then r.name else name ++ "__" ++ r.name
    let (steps, last, target) ← follow r.target next false rest
    some (⟨next, name, r.target.table, r.localKey, r.foreignKey, r.target.deletedAt⟩ :: steps,
      last, target)

def segments (path : String) : List String := (Text.pieces '.' path.toList).map String.ofList

/-- The column that a path leads to, if it leads to one. -/
def resolve? (t : TableSchema) (path : String) : Option ResolvedColumn := do
  let segments := segments path
  let terminal ← segments.getLast?
  if terminal.isEmpty then none
  else
    let (joins, source, target) ← t.follow t.table true segments.dropLast
    let c ← target.findColumn terminal
    some ⟨⟨source, c.name⟩, joins, c.kind, !joins.isEmpty || c.nullable⟩

def resolve (t : TableSchema) (path : String) : Answer ResolvedColumn :=
  match t.resolve? path with
  | some c => .ok c
  | none => .error (.unknownField path t.table)

end TableSchema

end FieldQuery

import FieldQuery.Statement.Plan

/-!
# Planning

A filter or a list of column tests becomes a plan for a table. Paths are looked up one by one, in
the order of terms, sort fields and target, and the first fault met is the answer. Each path that
leads somewhere brings its joins along; a join that is there already is not repeated.
-/
namespace FieldQuery

abbrev ColumnLookup := String → Answer ResolvedColumn

/-- The language of a plan, and what becomes of unknown fields. -/
structure PlanSettings where
  dialect : Dialect := .sqlite
  unknownFields : UnknownFields := .skip
deriving DecidableEq, Repr

/-- Takes in joins whose labels are not taken yet. -/
def addJoins (joins : List JoinStep) : List JoinStep → List JoinStep
  | [] => joins
  | j :: rest => if joins.any (·.label = j.label) then addJoins joins rest
    else addJoins (joins ++ [j]) rest

def joinsOf (columns : List ResolvedColumn) : List JoinStep :=
  columns.foldl (fun joins c => addJoins joins c.joins) []

/-- Looks up a column, if unknown fields may be left out. -/
def ColumnLookup.column (lookup : ColumnLookup) (policy : UnknownFields) (path : String) :
    Answer (Option ResolvedColumn) :=
  match lookup path with
  | .ok c => .ok (some c)
  | .error fault => if fault.isUnknownField && policy == .skip then .ok none else .error fault

def ColumnLookup.isMissing (lookup : ColumnLookup) (path : String) : Bool :=
  match lookup path with
  | .ok _ => false
  | .error fault => fault.isUnknownField

/-- What a term comes to in a plan. -/
inductive PlannedTerm where
  /-- A field that is not there is empty in every row. -/
  | vacuous
  | leftOut
  | kept (column : ResolvedColumn) (predicate : Predicate)

namespace PlannedTerm

def kept? : PlannedTerm → Option (ResolvedColumn × Predicate)
  | kept c p => some (c, p)
  | _ => none

def isVacuous : PlannedTerm → Bool
  | vacuous => true
  | _ => false

end PlannedTerm

def Term.planned (lookup : ColumnLookup) (policy : UnknownFields) (t : Term) :
    Answer PlannedTerm :=
  if t.mode == .isEmpty && lookup.isMissing t.field then .ok .vacuous
  else do
    match ← lookup.column policy t.field with
    | none => .ok .leftOut
    | some c =>
      let p ← t.predicate
      .ok (.kept c p)

/-- The terms that restrict rows: none if a disjunction has a term that holds for every row. -/
def restricting (logic : Logic) (terms : List PlannedTerm) : List (ResolvedColumn × Predicate) :=
  if logic == .or && terms.any (·.isVacuous) then [] else terms.filterMap (·.kept?)

/-- A sort field whose column is known. -/
structure PlannedSort where
  column : ResolvedColumn
  direction : Direction

/-- Looks up the columns of sort fields, leaving out those that may be left out. -/
def plannedSort (lookup : ColumnLookup) (policy : UnknownFields) :
    List SortField → Answer (List PlannedSort)
  | [] => .ok []
  | s :: rest => do
    let column ← lookup.column policy s.field
    let sorts ← plannedSort lookup policy rest
    match column with
    | none => .ok sorts
    | some c => .ok (⟨c, s.direction⟩ :: sorts)

namespace PlannedSort

/-- Texts are ordered in any case, and rows without a value come last, or first if descending. -/
def terms (s : PlannedSort) : List OrderTerm :=
  (if s.column.nullable then [⟨.isNull s.column.toColumnRef, s.direction⟩] else []) ++
    [⟨if s.column.kind == .text then .folded s.column.toColumnRef else .plain s.column.toColumnRef,
      s.direction⟩]

/-- Whether rows are ordered by the primary key of the table itself. -/
def isByKey (schema : TableSchema) (s : PlannedSort) : Bool :=
  s.column.joins.isEmpty && schema.primaryKey == some s.column.column

end PlannedSort

namespace TableSchema

def ref (schema : TableSchema) (column : String) : ColumnRef := ⟨schema.table, column⟩

/-- The order of rows: as asked for, or else the last changed first; the primary key decides
between rows that are equal so far. -/
def orderTerms (schema : TableSchema) (sorts : List PlannedSort) : List OrderTerm :=
  let asked := sorts.flatMap (·.terms)
  let wanted := if asked.isEmpty then
      match schema.updatedAt with
      | some c => [⟨.plain (schema.ref c), .desc⟩]
      | none => []
    else asked
  let tieBreak := if sorts.any (·.isByKey schema) then []
    else match schema.primaryKey with
      | some c => [⟨.plain (schema.ref c), .asc⟩]
      | none => []
  wanted ++ tieBreak

/-- The conditions of a plan: the group of tests unless empty, the mark of deleted rows, and the
conditions of the caller. -/
def conjuncts (schema : TableSchema) (options : PlanOptions) (logic : Logic) (tests : List RowTest)
    (conditions : List Fragment) : List Conjunct :=
  (if tests.isEmpty then [] else [.group logic tests]) ++
    (match options.unscoped, schema.deletedAt with
      | false, some c => [.notDeleted (schema.ref c)]
      | _, _ => []) ++
    conditions.map .raw

/-- What is known of a request once its terms are settled. -/
structure Settled where
  base : Option Fragment
  /-- The columns that terms led to, whether or not the terms restrict rows. -/
  columns : List ResolvedColumn
  logic : Logic
  tests : List RowTest

def complete (schema : TableSchema) (lookup : ColumnLookup) (settings : PlanSettings)
    (options : PlanOptions) (settled : Settled) (sort : List SortField) (target : Option String) :
    Answer Plan := do
  let sorts ← plannedSort lookup settings.unknownFields sort
  let target ← match target with
    | none => .ok none
    | some path => lookup.column settings.unknownFields path
  let conditions ← options.conditions.mapM RawQuery.fragment
  .ok {
    table := schema.table
    dialect := settings.dialect
    base := settled.base
    joins := joinsOf (settled.columns ++ sorts.map (·.column) ++ target.toList)
    hidesDeleted := !options.unscoped
    conjuncts := schema.conjuncts options settled.logic settled.tests conditions
    order := schema.orderTerms sorts
    target := target.map (·.toColumnRef) }

def plan (schema : TableSchema) (lookup : ColumnLookup) (settings : PlanSettings) (filter : Filter)
    (options : PlanOptions) (target : Option String) : Answer Plan := do
  let base ← options.base.mapM RawQuery.fragment
  let terms ← filter.terms.mapM (Term.planned lookup settings.unknownFields)
  let tests := (restricting filter.logic terms).map fun (c, p) =>
    .predicate (p.test settings.dialect c.qualified)
  schema.complete lookup settings options
    ⟨base, (terms.filterMap (·.kept?)).map (·.1), filter.logic, tests⟩ filter.sort target

/-- Looks up the column of a test and makes the test ready, unless it may be left out. -/
def plannedTest (lookup : ColumnLookup) (policy : UnknownFields) (f : ColumnFilter) :
    Answer (Option (ResolvedColumn × ColumnTest)) := do
  match ← lookup.column policy f.field with
  | none => .ok none
  | some c =>
    let t ← ColumnTest.ofOperator c.kind f.operator f.value
    .ok (some (c, t))

/-- The plan of tests on columns, all of which must hold. -/
def planColumns (schema : TableSchema) (lookup : ColumnLookup) (settings : PlanSettings)
    (filters : List ColumnFilter) (sort : List SortField) (target : Option String) :
    Answer Plan := do
  let tests ← filters.mapM (plannedTest lookup settings.unknownFields)
  let tests := tests.filterMap id
  schema.complete lookup settings {}
    ⟨none, tests.map (·.1), .and, tests.map fun (c, t) => .column c.toColumnRef t⟩ sort target

end TableSchema

end FieldQuery

import FieldQuery.Export.Delimited
import FieldQuery.Page.Window
import FieldQuery.Record.Batch
import FieldQuery.Record.Order
import FieldQuery.Record.Scratch
import FieldQuery.Resolution.Cache

/-!
# Records in memory

An engine answers requests on lists of records: which records a filter selects, in which order, page
by page. It remembers how paths were resolved and keeps its scratch buffers. A request that was
cancelled is not answered.
-/
namespace FieldQuery

structure EngineSettings where
  batchSize : Nat := 1000
  unknownFields : UnknownFields := .reject
  /-- The size of pages for which none is asked. -/
  pageSize : Nat := PageWindow.usualSize
deriving DecidableEq, Repr

structure Engine (M : RecordModel) where
  settings : EngineSettings := {}
  cache : ResolutionCache M := {}
  scratch : ScratchPool := {}

namespace Engine

variable {M : RecordModel} [DecidableEq M.Kind]

def lookup (e : Engine M) (k : M.Kind) : FieldLookup (M.Item k) := e.cache.answer (.record k)

def learned (e : Engine M) (k : M.Kind) (paths : List String) : Engine M :=
  { e with cache := e.cache.learnAll (.record k) paths }

def selection (e : Engine M) (k : M.Kind) (f : Filter) :
    Answer (Selection (M.Item k)) × Engine M :=
  (Selection.ofFilter (e.lookup k) e.settings.unknownFields f,
    e.learned k (Selection.paths (e.lookup k) e.settings.unknownFields f))

def sortPlan (e : Engine M) (k : M.Kind) (sort : List SortField) :
    Answer (SortPlan (M.Item k)) × Engine M :=
  (SortPlan.ofFields (e.lookup k) e.settings.unknownFields sort,
    e.learned k (SortPlan.paths (e.lookup k) e.settings.unknownFields sort))

/-- Collects the positions of selected records of a batch in a scratch buffer. The buffer is given
back at once if a record fails, and otherwise handed on. -/
def fillBuffer {R : Type} (s : Selection R) (scratch : ScratchPool) (offset : Nat)
    (batch : List R) : Answer Buffer × ScratchPool :=
  let (buffer, scratch) := scratch.acquire
  match s.hits offset batch with
  | .ok hits => (.ok (buffer ++ hits), scratch)
  | .error fault => (.error fault, scratch.release buffer)

def select (e : Engine M) {R : Type} (s : Selection R) (records : List R) (cancelled : Bool) :
    Answer (List R) × Engine M :=
  if s.isTrivial then (if cancelled then .error .cancelled else .ok records, e)
  else if cancelled && !records.isEmpty then (.error .cancelled, e)
  else
    match runInOrder (fillBuffer s) e.scratch (batches e.settings.batchSize records) with
    | (.error fault, scratch) => (.error fault, { e with scratch := scratch })
    | (.ok buffers, scratch) =>
      let all := records.toArray
      (.ok (buffers.flatten.filterMap fun i => all[i]?),
        { e with scratch := scratch.releaseAll buffers })

/-- The records that a filter selects, in the order they came. -/
def filter (e : Engine M) (k : M.Kind) (records : List (M.Item k)) (f : Filter)
    (cancelled : Bool) : Answer (List (M.Item k)) × Engine M :=
  match e.selection k f with
  | (.error fault, e) => (.error fault, e)
  | (.ok s, e) => e.select s records cancelled

/-- Puts records in the order of a plan. Without keys, or with fewer than two records, there is
nothing to do. -/
def arrange (e : Engine M) {R : Type} (p : SortPlan R) (records : List R) (cancelled : Bool) :
    Answer (List R) × Engine M :=
  if p.keys.isEmpty || records.length < 2 then (.ok records, e)
  else if cancelled then (.error .cancelled, e)
  else
    let all := records.toArray
    let rows := (records.map p.row).toArray
    let (buffer, scratch) := e.scratch.acquire
    let order := stableSort
      (fun i j => compareRows p.directions (rows.getD i []) (rows.getD j []))
      (buffer ++ List.range records.length)
    (.ok (order.filterMap fun i => all[i]?), { e with scratch := scratch.release order })

def sort (e : Engine M) (k : M.Kind) (records : List (M.Item k)) (sort : List SortField)
    (cancelled : Bool) : Answer (List (M.Item k)) × Engine M :=
  match e.sortPlan k sort with
  | (.error fault, e) => (.error fault, e)
  | (.ok p, e) => e.arrange p records cancelled

/-- The records that a filter selects, in the order that it asks for. Sort fields are looked up
first. -/
def filterAndSort (e : Engine M) (k : M.Kind) (records : List (M.Item k)) (f : Filter)
    (cancelled : Bool) : Answer (List (M.Item k)) × Engine M :=
  match e.sortPlan k f.sort with
  | (.error fault, e) => (.error fault, e)
  | (.ok p, e) =>
    match e.filter k records f cancelled with
    | (.error fault, e) => (.error fault, e)
    | (.ok selected, e) => e.arrange p selected cancelled

def first (e : Engine M) (k : M.Kind) (records : List (M.Item k)) (f : Filter)
    (limit : Option Nat) (cancelled : Bool) : Answer (List (M.Item k)) × Engine M :=
  match e.filterAndSort k records f cancelled with
  | (.error fault, e) => (.error fault, e)
  | (.ok sorted, e) =>
    (.ok (match limit with
      | some n => sorted.take n
      | none => sorted), e)

def paginate (e : Engine M) (k : M.Kind) (records : List (M.Item k)) (f : Filter)
    (index size : Int) (cancelled : Bool) : Answer (Page (M.Item k)) × Engine M :=
  match e.filterAndSort k records f cancelled with
  | (.error fault, e) => (.error fault, e)
  | (.ok sorted, e) =>
    (.ok (.ofList (.ofRequest e.settings.pageSize index size) sorted f.sort), e)

def exportText (e : Engine M) (k : M.Kind) (records : List (M.Item k)) (f : Filter)
    (columns : M.Item k → Delimited.ColumnMap) (room : Option Nat) (cancelled : Bool) :
    Answer (Nat × List Char) × Engine M :=
  match e.filterAndSort k records f cancelled with
  | (.error fault, e) => (.error fault, e)
  | (.ok sorted, e) => (Delimited.write room (sorted.map columns), e)

end Engine

end FieldQuery

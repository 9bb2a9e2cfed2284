import FieldQuery.Request.Parameter

/-!
# Requests

A request is a filter with the page that is wanted of its result. It is written as one text of four
parts with bars between them, or as named pairs.
-/
namespace FieldQuery

structure Request where
  filter : Filter := {}
  pageIndex : Int := 0
  /-- Zero or less stands for the usual size. -/
  pageSize : Int := 0
deriving Repr

/-- Replaces the sort fields by others, unless there are none. -/
def Filter.sortedBy (f : Filter) (sort : List SortField) : Filter :=
  if sort.isEmpty then f else { f with sort := sort }

namespace Request

/-- The text before the first bar, and the text after it. -/
def cutAtBar (s : List Char) : List Char × List Char :=
  (s.takeWhile (· ≠ '|'), (s.dropWhile (· ≠ '|')).drop 1)

/-- Reads `filter|sort|pageIndex|pageSize`, where parts may be missing. -/
def parse (limits : Limits) (query : String) : Answer Request := do
  let (filter, rest) := cutAtBar query.toList
  let (sort, rest) := cutAtBar rest
  let (index, size) := cutAtBar rest
  let f ← Parameter.decodeFilter limits (String.ofList filter)
  let sort ← Parameter.decodeSort limits (String.ofList sort)
  let index ← Parameter.decodePageIndex (String.ofList index)
  let size ← Parameter.decodePageSize (String.ofList size)
  .ok ⟨f.sortedBy sort, index, size⟩

/-- Reads `filter|sort`, without page numbers. -/
def parseUnpaged (limits : Limits) (query : String) : Answer Filter := do
  let (filter, sort) := cutAtBar query.toList
  let f ← Parameter.decodeFilter limits (String.ofList filter)
  let sort ← Parameter.decodeSort limits (String.ofList sort)
  .ok (f.sortedBy sort)

/-- A request as read from the pairs so far, with the sort fields still apart. -/
structure PairsRead where
  request : Request := {}
  sort : List SortField := []

namespace PairsRead

/-- Takes in one pair. Unknown keys are ignored; a key that comes again counts anew. -/
def take (limits : Limits) (s : PairsRead) : String × String → Answer PairsRead
  | ("filter", v) => do
    let f ← Parameter.decodeFilter limits v
    .ok { s with request := { s.request with filter := f } }
  | ("sort", v) => do
    let sort ← Parameter.decodeSort limits v
    .ok { s with sort := sort }
  | ("pageIndex", v) => do
    let n ← Parameter.decodePageIndex v
    .ok { s with request := { s.request with pageIndex := n } }
  | ("pageSize", v) => do
    let n ← Parameter.decodePageSize v
    .ok { s with request := { s.request with pageSize := n } }
  | _ => .ok s

def takeAll (limits : Limits) : PairsRead → List (String × String) → Answer PairsRead
  | s, [] => .ok s
  | s, p :: rest => do
    let s ← s.take limits p
    takeAll limits s rest

end PairsRead

/-- Reads a request from named pairs. -/
def ofPairs (limits : Limits) (pairs : List (String × String)) : Answer Request := do
  let s ← PairsRead.takeAll limits {} pairs
  .ok { s.request with filter := s.request.filter.sortedBy s.sort }

/-- Writes a request as `filter|sort|pageIndex|pageSize`, the sort fields apart from the filter. -/
def encode (r : Request) : String :=
  "|".intercalate [Parameter.encodeFilter { r.filter with sort := [] },
    if r.filter.sort.isEmpty then "" else Parameter.encodeSort r.filter.sort,
    intText r.pageIndex, intText r.pageSize]

end Request

end FieldQuery

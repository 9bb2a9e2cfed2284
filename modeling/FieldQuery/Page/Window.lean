import FieldQuery.Filter.Basic

/-!
# Pages

A page is a window on a list, given by its index and its size. Indexes and sizes come from requests,
where anything below zero counts as zero and a size of zero means the usual size. Main statement: no
page has more items than its size.
-/
namespace FieldQuery

/-- Which page is wanted. Every page has room for at least one item. -/
structure PageWindow where
  index : Nat
  size : Nat
  size_pos : 0 < size
deriving DecidableEq, Repr

namespace PageWindow

def usualSize : Nat := 30

def ofRequest (defaultSize : Nat) (index size : Int) : PageWindow where
  index := index.toNat
  size := if 0 < size then size.toNat else max defaultSize 1
  size_pos := by split <;> omega

/-- The window on the first item alone. -/
def first : PageWindow := ⟨0, 1, by decide⟩

def offset (w : PageWindow) : Nat := saturated (w.index * w.size)

def limit (w : PageWindow) : Nat := w.size

variable {α : Type}

/-- The items on the page, from its offset to its end or to that of the list. -/
def slice (w : PageWindow) (items : List α) : List α :=
  if items.length ≤ w.offset then []
  else (items.take (min (saturated (w.offset + w.limit)) items.length)).drop w.offset

/-- How many pages a number of items fills, the last one perhaps in part. -/
def pageCount (w : PageWindow) (total : Nat) : Nat := (total + w.size - 1) / w.size

end PageWindow

/-- The items of one page with the counters that go with them. -/
structure Page (α : Type) where
  data : List α
  window : PageWindow
  /-- The number of items on all pages. -/
  total : Nat
  sort : List SortField := []

namespace Page

variable {α β : Type}

def map (f : α → β) (p : Page α) : Page β := { p with data := p.data.map f }

def ofList (w : PageWindow) (items : List α) (sort : List SortField := []) : Page α :=
  ⟨w.slice items, w, items.length, sort⟩

end Page

end FieldQuery

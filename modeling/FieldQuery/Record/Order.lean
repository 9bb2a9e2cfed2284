import FieldQuery.Record.Selection

/-!
# Ordering records

Records are put in order by the keys of several fields. Keys of one kind follow their own order,
texts in any case; absent keys come last; keys of different kinds are compared as texts. The order
is stable: records with equal keys stay as they were.
-/
namespace FieldQuery

inductive SortKey where
  | absent
  | number (x : Number)
  /-- In lower case. -/
  | text (s : String)
  | bool (b : Bool)
  | instant (m : Moment)
  | date (d : Day)
  | clock (t : Clock)
deriving DecidableEq, Repr

namespace SortKey

def ofValue : FieldValue → SortKey
  | .null => absent
  | .int n => number (Number.ofInt n)
  | .uint n => number (Number.ofInt n)
  | .float x => number x
  | .bool b => bool b
  | .text s => text (Text.lowerString s)
  | .instant m => instant m
  | .date d => date d
  | .clock t => clock t

def display : SortKey → String
  | absent => ""
  | number x => x.display
  | text s => s
  | bool true => "true"
  | bool false => "false"
  | instant m => String.ofList m.zonedText
  | date d => String.ofList d.text
  | clock t => String.ofList t.text

def compare : SortKey → SortKey → Ordering
  | absent, absent => .eq
  | absent, _ => .gt
  | _, absent => .lt
  | number x, number y => x.totalCompare y
  | text s, text t => Ord.compare s t
  | bool b, bool c => Ord.compare b c
  | instant m, instant n => m.compare n
  | date d, date e => d.compare e
  | clock t, clock u => t.compare u
  | a, b => Ord.compare a.display b.display

end SortKey

def Direction.apply (d : Direction) (o : Ordering) : Ordering :=
  match d with
  | asc => o
  | desc => o.swap

/-- Compares rows of keys; the first difference decides. -/
def compareRows : List Direction → List SortKey → List SortKey → Ordering
  | d :: ds, a :: as, b :: bs =>
    match d.apply (a.compare b) with
    | .eq => compareRows ds as bs
    | o => o
  | _, _, _ => .eq

/-- Inserts an item into a list in descending order, before the items it does not precede. -/
def insertDescending {α : Type} (cmp : α → α → Ordering) (a : α) : List α → List α
  | [] => [a]
  | b :: rest => if cmp a b == .lt then b :: insertDescending cmp a rest else a :: b :: rest

/-- Puts a list in order; items that are equal stay as they were. -/
def stableSort {α : Type} (cmp : α → α → Ordering) (items : List α) : List α :=
  (items.foldl (fun done a => insertDescending cmp a done) []).reverse

theorem insertDescending_perm {α : Type} (cmp : α → α → Ordering) (a : α) (l : List α) :
    (insertDescending cmp a l).Perm (a :: l) := by
  induction l with
  | nil => exact .refl _
  | cons b rest ih =>
    rw [insertDescending]
    split
    · exact (ih.cons b).trans (.swap a b rest)
    · exact .refl _

/-- Sorting loses nothing and adds nothing. -/
theorem stableSort_perm {α : Type} (cmp : α → α → Ordering) (items : List α) :
    (stableSort cmp items).Perm items := by
  have key : ∀ (l done : List α),
      (l.foldl (fun done a => insertDescending cmp a done) done).Perm (l ++ done) := by
    intro l
    induction l with
    | nil => exact fun _ => .refl _
    | cons a rest ih =>
      intro done
      exact (ih _).trans (((insertDescending_perm cmp a done).append_left rest).trans
        List.perm_middle)
  exact (List.reverse_perm _).trans (by simpa using key items [])

structure SortPlan (R : Type) where
  keys : List (FieldDescriptor R × Direction)

variable {R : Type}

/-- Looks up a sort field, unless it may be left out. -/
def SortField.key (lookup : FieldLookup R) (policy : UnknownFields) (s : SortField) :
    Answer (Option (FieldDescriptor R × Direction)) :=
  match lookup s.field with
  | .ok d => .ok (some (d, s.direction))
  | .error fault => if fault.isUnknownField && policy == .skip then .ok none else .error fault

namespace SortPlan

def ofFields (lookup : FieldLookup R) (policy : UnknownFields) (sort : List SortField) :
    Answer (SortPlan R) := do
  let keys ← sort.mapM (SortField.key lookup policy)
  .ok ⟨keys.filterMap id⟩

/-- The paths that are looked up for sort fields, up to the first that fails. -/
def paths (lookup : FieldLookup R) (policy : UnknownFields) (sort : List SortField) :
    List String :=
  (throughFirst (fun s => isFault (s.key lookup policy)) sort).map (·.field)

def row (p : SortPlan R) (r : R) : List SortKey := p.keys.map fun (d, _) => .ofValue (d.get r)

def directions (p : SortPlan R) : List Direction := p.keys.map (·.2)

def compare (p : SortPlan R) (a b : R) : Ordering := compareRows p.directions (p.row a) (p.row b)

end SortPlan

end FieldQuery

import FieldQuery.Field.Kind
import FieldQuery.Record.Judgement
import FieldQuery.Record.Schema

/-!
# Selecting records

A filter on records becomes a selection: its paths are looked up and its terms made ready before any
record is looked at. A record is then judged by the checks from left to right, up to the first that
decides or fails.
-/
namespace FieldQuery

inductive Check (R : Type) where
  /-- A field that is not there is empty in every record. -/
  | always
  | test (field : FieldDescriptor R) (predicate : Predicate)

structure Selection (R : Type) where
  checks : List (Check R)
  logic : Logic

variable {R : Type}

/-- How the paths of records are looked up. -/
abbrev FieldLookup (R : Type) := String → Answer (FieldDescriptor R)

/-- The check of a term, unless it may be left out. -/
def Term.check (lookup : FieldLookup R) (policy : UnknownFields) (t : Term) :
    Answer (Option (Check R)) :=
  match lookup t.field with
  | .ok d => do
    let p ← t.predicate
    .ok (some (.test d p))
  | .error fault =>
    if fault.isUnknownField && t.mode == .isEmpty then .ok (some .always)
    else if fault.isUnknownField && policy == .skip then .ok none
    else .error fault

/-- The items up to the first that is faulty, that one included. -/
def throughFirst {α : Type} (faulty : α → Bool) : List α → List α
  | [] => []
  | a :: rest => if faulty a then [a] else a :: throughFirst faulty rest

def isFault {α : Type} : Answer α → Bool
  | .ok _ => false
  | .error _ => true

namespace Check

def passes (c : Check R) (r : R) : Answer Bool :=
  match c with
  | always => .ok true
  | test field predicate => predicate.judge (field.get r)

def isAlways : Check R → Bool
  | always => true
  | test _ _ => false

end Check

namespace Selection

def ofFilter (lookup : FieldLookup R) (policy : UnknownFields) (f : Filter) :
    Answer (Selection R) := do
  let checks ← f.terms.mapM (Term.check lookup policy)
  .ok ⟨checks.filterMap id, f.logic⟩

/-- The paths that are looked up for a filter: those of its terms up to the first that fails. -/
def paths (lookup : FieldLookup R) (policy : UnknownFields) (f : Filter) : List String :=
  (throughFirst (fun t => isFault (t.check lookup policy)) f.terms).map (·.field)

/-- Whether every record is selected, whatever it holds. -/
def isTrivial (s : Selection R) : Bool :=
  match s.logic with
  | .and => s.checks.all (·.isAlways)
  | .or => s.checks.isEmpty || s.checks.any (·.isAlways)

/-- Runs through checks until one decides. -/
def decide (logic : Logic) (r : R) : List (Check R) → Answer Bool
  | [] => .ok (logic == .and)
  | c :: rest => do
    let hit ← c.passes r
    match logic, hit with
    | .and, false => .ok false
    | .or, true => .ok true
    | _, _ => decide logic r rest

/-- Whether a record is selected. Without checks every record is. -/
def accepts (s : Selection R) (r : R) : Answer Bool :=
  if s.checks.isEmpty then .ok true else decide s.logic r s.checks

/-- The positions of the selected records of a batch that starts at an offset. -/
def hits (s : Selection R) : Nat → List R → Answer (List Nat)
  | _, [] => .ok []
  | i, r :: rest => do
    let hit ← (s.accepts r).mapError (.atItem i)
    let more ← hits s (i + 1) rest
    .ok (if hit then i :: more else more)

end Selection

end FieldQuery

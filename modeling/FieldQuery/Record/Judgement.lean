import FieldQuery.Calendar.Reader
import FieldQuery.Filter.Predicate
import FieldQuery.Number.Reader
import FieldQuery.Record.Value
import FieldQuery.Text.Search

/-!
# Judging field values

Whether the value of a field meets a predicate. The value is taken for the type of the operand; one
that cannot be is a fault. Null meets nothing but the question whether it is empty.
-/
namespace FieldQuery

namespace FieldValue

open QueryFault

def asNumber : FieldValue → Answer Number
  | int n => .ok (Number.ofInt n)
  | uint n => .ok (Number.ofInt n)
  | float x => .ok x
  | text s =>
    match Number.read? (Text.trim s.toList) with
    | some x => .ok x
    | none => .error (notCoercible s "number")
  | v => .error (notCoercible v.display "number")

/-- A truth value, the integers 0 and 1, or one of the words `true` and `false`. -/
def asBool : FieldValue → Answer Bool
  | bool b => .ok b
  | int 0 => .ok false
  | int 1 => .ok true
  | uint 0 => .ok false
  | uint 1 => .ok true
  | text s =>
    let word := Text.lower (Text.trim s.toList)
    if word = "true".toList then .ok true
    else if word = "false".toList then .ok false
    else .error (notCoercible s "bool")
  | v => .error (notCoercible v.display "bool")

/-- An instant; a date is its midnight. -/
def asInstant : FieldValue → Answer Moment
  | instant m => .ok m
  | date d => .ok (.midnight d)
  | text s =>
    match Timestamp.read? s.toList with
    | some t => .ok t.utc
    | none => .error (notCoercible s "timestamp")
  | v => .error (notCoercible v.display "timestamp")

def timeOfDay : FieldValue → Answer Clock
  | instant m => .ok m.clock.wholeSeconds
  | clock t => .ok t.wholeSeconds
  | date _ => .ok .midnight
  | text s =>
    match Clock.read? s.toList with
    | some t => .ok t
    | none => .error (notCoercible s "time")
  | v => .error (notCoercible v.display "time")

/-- How a value stands to an operand; nothing if they cannot be compared. -/
def compare (v : FieldValue) (foldCase : Bool) : Operand → Answer (Option Ordering)
  | .number x => do
    let n ← v.asNumber
    .ok (n.compare? x)
  | .text s =>
    .ok <| some <|
      if foldCase then Ord.compare (Text.lowerString v.display) (Text.lowerString s)
      else Ord.compare v.display s
  | .bool b => do
    let truth ← v.asBool
    .ok (some (Ord.compare truth b))
  | .instant m => do
    let t ← v.asInstant
    .ok (some (t.compare m))
  | .clock t =>
    match v with
    | clock c => .ok (some (c.compare t))
    | v => .error (notCoercible v.display "time")

/-- Whether a value is null, or a blank text where that counts. -/
def isEmpty (blankText : Bool) : FieldValue → Bool
  | null => true
  | text s => blankText && s.isEmpty
  | _ => false

end FieldValue

/-- Whether a text has another one in a place. -/
def Placement.finds (p : Placement) (needle text : List Char) : Bool :=
  match p with
  | anywhere => Text.occursIn needle text
  | atStart => needle.isPrefixOf text
  | atEnd => needle.isSuffixOf text

namespace Condition

def meets (v : FieldValue) : Condition → Answer Bool
  | compare op o foldCase => do
    let order ← v.compare foldCase o
    .ok ((order.map op.holds).getD false)
  | between low high foldCase => do
    let above ← v.compare foldCase low
    let below ← v.compare foldCase high
    .ok ((above == some .gt || above == some .eq) && (below == some .lt || below == some .eq))
  | outside low high foldCase => do
    let lower ← v.compare foldCase low
    let upper ← v.compare foldCase high
    .ok (lower == some .lt || upper == some .gt)
  | like placement needle negated =>
    .ok (placement.finds needle.toList (Text.lower v.display.toList) != negated)
  | empty negated blankText => .ok (v.isEmpty blankText != negated)

end Condition

def Projection.apply (p : Projection) (v : FieldValue) : Answer FieldValue :=
  match p with
  | value => .ok v
  | timeOfDay => v.timeOfDay.map .clock

def Predicate.judge (p : Predicate) (v : FieldValue) : Answer Bool :=
  match p.condition with
  | .empty negated blankText => .ok (v.isEmpty blankText != negated)
  | condition =>
    if v = .null then .ok false
    else do
      let seen ← p.projection.apply v
      condition.meets seen

end FieldQuery

import FieldQuery.Filter.Fault
import FieldQuery.Calendar.Writer
import FieldQuery.Number.Reader

/-!
# Typed values

The value of a term is made sense of once, by its data type and mode. `Term.typed` gives the typed
value; whatever uses it later need not look at JSON again.
-/
namespace FieldQuery

/-- A pair of bounds, both belonging to the range. -/
structure Bounds (α : Type) where
  low : α
  high : α
deriving DecidableEq, Repr

inductive TypedValue where
  /-- Questions of emptiness have no value. -/
  | absent
  | number (x : Number)
  | text (s : String)
  | bool (b : Bool)
  | instant (t : Timestamp)
  | clock (t : Clock)
  | numberRange (r : Bounds Number)
  | textRange (r : Bounds String)
  | dateRange (r : Bounds Timestamp)
  | timeRange (r : Bounds Clock)
deriving DecidableEq, Repr

namespace Json

open QueryFault

/-- A number, or a text that reads as one; null is zero. -/
def asNumber : Json → Answer Number
  | num n => .ok n.toNumber
  | str s =>
    match Number.read? (Text.trim s.toList) with
    | some x => .ok x
    | none => .error (notCoercible (shown s) "number")
  | null => .ok .zero
  | j => .error (notCoercible j.text "number")

/-- A text, or a number or truth value as written; null is the empty text. -/
def asText : Json → Answer String
  | str s => .ok s
  | num n => .ok n.text
  | bool true => .ok "true"
  | bool false => .ok "false"
  | null => .ok ""
  | j => .error (notCoercible j.text "text")

/-- A truth value; a number is true unless zero, a text only if it is `true` or `1`. -/
def asBool : Json → Answer Bool
  | bool b => .ok b
  | str s =>
    let s := Text.trim s.toList
    .ok (Text.asciiLower s == "true".toList || s == ['1'])
  | num n => .ok !n.toNumber.isZero
  | null => .ok false
  | j => .error (notCoercible j.text "bool")

def asInstant : Json → Answer Timestamp
  | str s =>
    match Timestamp.read? s.toList with
    | some t => .ok t
    | none => .error (notCoercible (shown s) "date")
  | j => .error (notCoercible j.text "date")

def asClock : Json → Answer Clock
  | str s =>
    match Clock.read? s.toList with
    | some t => .ok t
    | none => .error (notCoercible (shown s) "time")
  | j => .error (notCoercible j.text "time")

/-- The value of the first key that matches in any case, unless it is null. -/
def bound? (key : String) (members : List (String × Json)) : Option Json :=
  match members.find? fun (k, _) => Text.eqIgnoreAsciiCase k key with
  | some (_, null) => none
  | some (_, j) => some j
  | none => none

/-- Null counts as missing. -/
def present? : Json → Option Json
  | null => none
  | j => some j

/-- The bounds of a range: the keys `from` and `to` of an object, or an array of two. -/
def bounds (j : Json) : Answer (Bounds Json) := do
  let (low, high) ← match j with
    | obj members => .ok (bound? "from" members, bound? "to" members)
    | arr [low, high] => .ok (low.present?, high.present?)
    | j => .error (range (.shape j))
  match low, high with
  | none, _ => .error (range .missingFrom)
  | _, none => .error (range .missingTo)
  | some low, some high => .ok ⟨low, high⟩

end Json

namespace Bounds

/-- Accepts bounds unless the first comes after the second. -/
def ordered {α : Type} (cmp : α → α → Option Ordering) (shown : α → String) (r : Bounds α) :
    Answer (Bounds α) :=
  if cmp r.low r.high = some .gt then
    .error (.range (.reversed (shown r.low) (shown r.high)))
  else .ok r

def traverse {α : Type} (read : Json → Answer α) (r : Bounds Json) : Answer (Bounds α) := do
  let low ← read r.low
  let high ← read r.high
  .ok ⟨low, high⟩

end Bounds

namespace DataType

def typedScalar : DataType → Json → Answer TypedValue
  | number, j => j.asNumber.map .number
  | text, j => j.asText.map .text
  | bool, j => j.asBool.map .bool
  | date, j => j.asInstant.map .instant
  | time, j => j.asClock.map .clock

/-- The typed value of a range. Texts have no order of their own, so their bounds may come in any
order. -/
def typedRange (d : DataType) (j : Json) : Answer TypedValue := do
  let r ← j.bounds
  match d with
  | number => do
    let r ← r.traverse Json.asNumber
    .numberRange <$> r.ordered Number.compare? Number.boundStyle.render
  | text => .textRange <$> r.traverse Json.asText
  | date => do
    let r ← r.traverse Json.asInstant
    .dateRange <$> r.ordered (fun a b => some (a.compare b)) (fun t => String.ofList t.text)
  | time => do
    let r ← r.traverse Json.asClock
    .timeRange <$> r.ordered (fun a b => some (a.compare b)) (fun t => String.ofList t.text)
  | bool => .error (.unsupported .range .bool)

end DataType

/-- The typed value of a term. A mode that its data type does not support is refused before the
value is looked at. -/
def Term.typed (t : Term) : Answer TypedValue :=
  let d := t.dataType
  if !d.supports t.mode then .error (.unsupported t.mode d)
  else if t.mode.asksEmptiness then .ok .absent
  else if t.mode.takesRange then d.typedRange t.value
  else d.typedScalar t.value

end FieldQuery

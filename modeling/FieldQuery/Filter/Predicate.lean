import FieldQuery.Filter.Typed

/-!
# Predicates

A term becomes a predicate on one field: how the field is read, and a condition on what is read.
Whole days, letter case and times of day are settled here, so that records in memory and rows of a
table are judged alike.
-/
namespace FieldQuery

inductive Projection where
  | value
  /-- The time of day of an instant or time. -/
  | timeOfDay
deriving DecidableEq, Repr

inductive Operand where
  | number (x : Number)
  | text (s : String)
  | bool (b : Bool)
  | instant (m : Moment)
  | clock (t : Clock)
deriving DecidableEq, Repr

/-- The bound of a day as an operand. The program stops where the calendar has no such bound. -/
def Operand.ofBound : Option Moment → Answer Operand
  | some m => .ok (.instant m)
  | none => .error .calendarOverrun

inductive Comparison where
  | eq | ne | gt | gte | lt | lte
deriving DecidableEq, Repr

namespace Comparison

def sign : Comparison → String
  | eq => "="
  | ne => "!="
  | gt => ">"
  | gte => ">="
  | lt => "<"
  | lte => "<="

/-- Whether a field that stands so to the operand is accepted. -/
def holds : Comparison → Ordering → Bool
  | eq, o => o == .eq
  | ne, o => o != .eq
  | gt, o => o == .gt
  | gte, o => o != .lt
  | lt, o => o == .lt
  | lte, o => o != .gt

end Comparison

inductive Placement where
  | anywhere | atStart | atEnd
deriving DecidableEq, Repr

inductive Condition where
  | compare (op : Comparison) (operand : Operand) (foldCase : Bool)
  /-- Both ends belong to the range. -/
  | between (low high : Operand) (foldCase : Bool)
  | outside (low high : Operand) (foldCase : Bool)
  /-- A search in any case; the needle is in lower case. -/
  | like (placement : Placement) (needle : String) (negated : Bool)
  /-- Null, and for texts also the empty text. -/
  | empty (negated blankText : Bool)
deriving DecidableEq, Repr

structure Predicate where
  projection : Projection
  condition : Condition
deriving DecidableEq, Repr

namespace Condition

/-- A range condition, or its opposite for the mode `outside`. -/
def ofRange (mode : Mode) (low high : Operand) (foldCase : Bool) : Option Condition :=
  match mode with
  | .range | .inside => some (between low high foldCase)
  | .outside => some (outside low high foldCase)
  | _ => none

/-- The comparison of a mode; `before` and `after` count as `<` and `≥` where `dated` allows it. -/
def comparison (dated : Bool) : Mode → Option Comparison
  | .equal => some .eq
  | .nequal => some .ne
  | .gt => some .gt
  | .gte => some .gte
  | .lt => some .lt
  | .lte => some .lte
  | .after => if dated then some .gte else none
  | .before => if dated then some .lt else none
  | _ => none

def ofNumber (mode : Mode) (x : Number) : Option Condition :=
  (comparison false mode).map (compare · (.number x) false)

/-- Texts are equal in any case, but ordered as they are. -/
def ofText (mode : Mode) (s : String) : Option Condition :=
  match mode with
  | .equal => some (compare .eq (.text s) true)
  | .nequal => some (compare .ne (.text s) true)
  | .contains => some (like .anywhere (Text.lowerString s) false)
  | .ncontains => some (like .anywhere (Text.lowerString s) true)
  | .startsWith => some (like .atStart (Text.lowerString s) false)
  | .endsWith => some (like .atEnd (Text.lowerString s) false)
  | _ => (comparison true mode).map (compare · (.text s) false)

def ofBool (mode : Mode) (b : Bool) : Option Condition :=
  match mode with
  | .equal => some (compare .eq (.bool b) false)
  | .nequal => some (compare .ne (.bool b) false)
  | _ => none

def ofClock (mode : Mode) (t : Clock) : Option Condition :=
  (comparison true mode).map (compare · (.clock t) false)

/-- A bare date stands for its whole day: equal means within it, greater means after its end. -/
def ofDay (mode : Mode) (start last : Answer Operand) : Answer (Option Condition) := do
  match mode with
  | .equal => .ok (some (between (← start) (← last) false))
  | .nequal => .ok (some (outside (← start) (← last) false))
  | .gt => .ok (some (compare .gt (← last) false))
  | .gte => .ok (some (compare .gte (← start) false))
  | .after => .ok (some (compare .gte (← last) false))
  | .lt | .before => .ok (some (compare .lt (← start) false))
  | .lte => .ok (some (compare .lte (← last) false))
  | _ => .ok none

def ofInstant (mode : Mode) (t : Timestamp) : Answer (Option Condition) :=
  if t.isDateOnly then ofDay mode (Operand.ofBound t.startOfDay?) (Operand.ofBound t.endOfDay?)
  else .ok ((comparison true mode).map (compare · (.instant t.utc) false))

/-- If either bound is a bare date, the range covers whole days. -/
def ofDateRange (mode : Mode) (r : Bounds Timestamp) : Answer (Option Condition) :=
  if r.low.isDateOnly || r.high.isDateOnly then do
    let low ← Operand.ofBound r.low.startOfDay?
    let high ← Operand.ofBound r.high.endOfDay?
    .ok (ofRange mode low high false)
  else .ok (ofRange mode (.instant r.low.utc) (.instant r.high.utc) false)

def ofTyped (mode : Mode) : TypedValue → Answer (Option Condition)
  | .absent => .ok none
  | .number x => .ok (ofNumber mode x)
  | .text s => .ok (ofText mode s)
  | .bool b => .ok (ofBool mode b)
  | .instant t => ofInstant mode t
  | .clock t => .ok (ofClock mode t)
  | .numberRange r => .ok (ofRange mode (.number r.low) (.number r.high) false)
  | .textRange r => .ok (ofRange mode (.text r.low) (.text r.high) true)
  | .dateRange r => ofDateRange mode r
  | .timeRange r => .ok (ofRange mode (.clock r.low) (.clock r.high) false)

end Condition

def DataType.projection : DataType → Projection
  | time => .timeOfDay
  | _ => .value

def Term.predicate (t : Term) : Answer Predicate := do
  let d := t.dataType
  let value ← t.typed
  if t.mode.asksEmptiness then
    .ok ⟨d.projection, .empty (t.mode == .isNotEmpty) (d == .text)⟩
  else match ← Condition.ofTyped t.mode value with
    | some c => .ok ⟨d.projection, c⟩
    | none => .error (.unsupported t.mode d)

end FieldQuery

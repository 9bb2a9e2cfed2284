import FieldQuery.Proofs.ExactNumbers
import FieldQuery.Proofs.LocalTime
import FieldQuery.Proofs.WholeDays

/-!
# Ranges as intervals

A range that is accepted is an interval: what lies between its bounds as they were given, compared
without rounding, is inside of it, though numbers are rounded, times of day lose their fractions and
dates grow to whole days on the way. There are two exceptions. A bound that is not a number is in no
order, and a whole day ends before the leap second that may follow its last nanosecond. Main
statement: `accepted_ranges_are_intervals`.
-/
namespace FieldQuery

open Number (Near unitsPerOne)

/-- A value that can be compared without rounding. -/
inductive Exact where
  /-- In units of the least positive number. -/
  | number (units : Int)
  | instant (m : Moment)
  | clock (t : Clock)

/-- The order of exact values of one kind. -/
def Exact.AtMost : Exact → Exact → Prop
  | number a, number b => a ≤ b
  | instant m, instant n => (m.compare n).isLE
  | clock s, clock t => (s.compare t).isLE
  | _, _ => False

def Clock.spelled? (s : List Char) : Option Clock :=
  (readBare? (Text.trim s)).or ((Timestamp.read? (Text.trim s)).map (·.localMoment.clock))

/-- What a bound of a filter means exactly, as it is written and as it is understood. -/
inductive Json.Means : DataType → Json → Exact → Prop where
  | integer {n : Int} (word : n.natAbs < wordLimit) :
      Means .number (num (.int n)) (.number (n * unitsPerOne))
  | number {j : Json} {x : Number} (read : j.asNumber = .ok x) (there : x.isNaN = false) :
      Means .number j (.number x.units)
  | instant {j : Json} {t : Timestamp} (read : j.asInstant = .ok t) :
      Means .date j (.instant t.utc)
  | spelled {s : String} {t : Clock} (read : Clock.spelled? s.toList = some t) :
      Means .time (str s) (.clock t)
  | clock {j : Json} {t : Clock} (read : j.asClock = .ok t) : Means .time j (.clock t)

namespace FieldValue

/-- What fields hold: integers of 64 bits, and times of day that exist. -/
def Stored : FieldValue → Prop
  | int n => -(intLimit : Int) ≤ n ∧ n < intLimit
  | uint n => n < wordLimit
  | instant m => m.clock.Proper
  | clock t => t.Proper
  | _ => True

inductive Means : DataType → FieldValue → Exact → Prop where
  | int {n : Int} : Means .number (int n) (.number (n * unitsPerOne))
  | uint {n : Nat} : Means .number (uint n) (.number (n * unitsPerOne))
  | float {x : Number} (there : x.isNaN = false) : Means .number (float x) (.number x.units)
  | numeral {s : String} {x : Number} (read : (text s).asNumber = .ok x)
      (there : x.isNaN = false) : Means .number (text s) (.number x.units)
  | instant {v : FieldValue} {m : Moment} (seen : v.asInstant = .ok m) :
      Means .date v (.instant m)
  | clock {t : Clock} : Means .time (clock t) (.clock t)
  | clockOf {m : Moment} : Means .time (.instant m) (.clock m.clock)
  | midnight {d : Day} : Means .time (date d) (.clock .midnight)
  | spelled {s : String} {t : Clock} (read : Clock.spelled? s.toList = some t) :
      Means .time (text s) (.clock t)

end FieldValue

namespace Operand

def isNaN : Operand → Bool
  | number x => x.isNaN
  | _ => false

def asExact? : Operand → Option Exact
  | number x => if x.isNaN then none else some (.number x.units)
  | instant m => some (.instant m)
  | clock t => some (.clock t)
  | _ => none

def AtMost (low high : Operand) : Prop :=
  ∃ a b, low.asExact? = some a ∧ high.asExact? = some b ∧ a.AtMost b

end Operand

def Condition.interval (mode : Mode) (low high : Operand) : Condition :=
  if mode = .outside then outside low high false else between low high false

namespace Term

/-- From the lower bound to the upper bound of a term, compared exactly. -/
def Covers (t : Term) (v : FieldValue) : Prop :=
  ∃ r low x high, t.value.bounds = .ok r ∧ r.low.Means t.dataType low ∧
    v.Means t.dataType x ∧ r.high.Means t.dataType high ∧ low.AtMost x ∧ x.AtMost high

/-- Whether a range of dates that is stretched to whole days ends before an instant of its last
second: one in a leap second. -/
def EndsBefore (t : Term) (v : FieldValue) : Prop :=
  ∃ r m, t.typed = .ok (.dateRange r) ∧ (r.low.isDateOnly = true ∨ r.high.isDateOnly = true) ∧
    v.asInstant = .ok m ∧ m.seconds = r.high.endOfDay.seconds ∧ Clock.billion ≤ m.clock.nano

end Term

theorem Condition.eq_interval {mode : Mode} {low high : Operand} {c : Condition}
    (built : ofRange mode low high false = some c) : c = interval mode low high := by
  cases mode with
  | range | inside | outside =>
    cases built
    rfl
  | _ => cases built

section

variable {t : Term} {p : Predicate} {v w : FieldValue} {low high : Operand} {a b : Ordering}

theorem Term.judge_of_compare (ranged : t.mode.takesRange = true)
    (built : Condition.ofRange t.mode low high false = some p.condition) (there : v ≠ .null)
    (seen : p.projection.apply v = .ok w) (first : w.compare false low = .ok (some a))
    (second : w.compare false high = .ok (some b)) :
    p.judge v = .ok ((a.isGE && b.isLE) != (t.mode == .outside)) := by
  obtain ⟨c, same, meets⟩ := Condition.meets_ofRange first second ranged
  cases built.symm.trans same
  have asks : p.condition.asksEmptiness = false := by
    rw [Condition.eq_interval built, Condition.interval]
    split <;> rfl
  rw [p.judge_present there asks, seen]
  exact meets

theorem Term.judge_inside (ranged : t.mode.takesRange = true)
    (built : Condition.ofRange t.mode low high false = some p.condition) (there : v ≠ .null)
    (seen : p.projection.apply v = .ok w) (first : w.compare false low = .ok (some a))
    (second : w.compare false high = .ok (some b)) (ge : a.isGE = true) (le : b.isLE = true) :
    p.judge v = .ok (t.mode != .outside) := by
  rw [judge_of_compare ranged built there seen first second, ge, le]
  cases t.mode <;> rfl

theorem Term.judge_beyond (ranged : t.mode.takesRange = true)
    (built : Condition.ofRange t.mode low high false = some p.condition) (there : v ≠ .null)
    (seen : p.projection.apply v = .ok w) (first : w.compare false low = .ok (some a))
    (second : w.compare false high = .ok (some b)) (le : b.isLE = false) :
    p.judge v = .ok (t.mode == .outside) := by
  rw [judge_of_compare ranged built there seen first second, le, Bool.and_false]
  cases t.mode <;> rfl

end

section

variable {t : Term} {p : Predicate} {v : FieldValue}

theorem Json.Means.exists_units {j : Json} {e : Exact} (means : j.Means .number e) :
    ∃ u, e = .number u := by
  cases means <;> exact ⟨_, rfl⟩

theorem FieldValue.Means.exists_units {e : Exact} (means : v.Means .number e) :
    ∃ u, e = .number u := by
  cases means <;> exact ⟨_, rfl⟩

theorem Json.Means.near {j : Json} {u : Int} {x : Number} (means : j.Means .number (.number u))
    (read : j.asNumber = .ok x) : Near u x := by
  cases means with
  | integer word =>
    cases read
    exact Number.near_ofInt word
  | number read' there =>
    cases read.symm.trans read'
    exact Number.near_units there

theorem FieldValue.Means.near {u : Int} (stored : v.Stored) (means : v.Means .number (.number u)) :
    ∃ x, v.asNumber = .ok x ∧ Near u x := by
  cases means with
  | int =>
    refine ⟨_, rfl, Number.near_ofInt ?_⟩
    obtain ⟨low, high⟩ := stored
    unfold intLimit wordLimit at *
    omega
  | @uint n =>
    refine ⟨_, rfl, Number.near_ofInt ?_⟩
    rw [Int.natAbs_natCast]
    exact stored
  | float there => exact ⟨_, rfl, Number.near_units there⟩
  | numeral read there => exact ⟨_, read, Number.near_units there⟩

theorem FieldValue.compare_number {x y : Number} (seen : v.asNumber = .ok x)
    (hx : x.isNaN = false) (hy : y.isNaN = false) (foldCase : Bool) :
    v.compare foldCase (.number y) = .ok (some (Ord.compare x.rank y.rank)) := by
  rw [compare, seen]
  exact congrArg Except.ok (Number.compare?_of_there hx hy)

theorem Operand.number_atMost {x y : Number} (hx : x.isNaN = false) (hy : y.isNaN = false)
    (le : x.units ≤ y.units) : (number x).AtMost (number y) :=
  ⟨.number x.units, .number y.units, by simp [asExact?, hx], by simp [asExact?, hy], le⟩

/-- Bounds in order, unless one of them is not a number. -/
theorem Operand.number_ordered {x y : Number} (fine : x.compare? y ≠ some .gt) :
    (number x).isNaN = true ∨ (number y).isNaN = true ∨ (number x).AtMost (number y) := by
  cases hx : x.isNaN with
  | true => exact .inl hx
  | false =>
    cases hy : y.isNaN with
    | true => exact .inr (.inl hy)
    | false =>
      refine .inr (.inr (number_atMost hx hy (Number.isLE_compare_rank.mp ?_)))
      rw [Number.compare?_of_there hx hy] at fine
      cases order : Ord.compare x.rank y.rank with
      | lt | eq => rfl
      | gt => exact absurd (congrArg some order) fine

theorem Term.numbers_are_intervals (ranged : t.mode.takesRange = true)
    (compiled : t.predicate = .ok p) (numeric : t.dataType = .number) :
    ∃ low high, p.condition = Condition.interval t.mode low high ∧
      (low.isNaN = true ∨ high.isNaN = true ∨ low.AtMost high) ∧
      ∀ v : FieldValue, v.Stored → t.Covers v → p.judge v = .ok (t.mode != .outside) := by
  obtain ⟨value, -, typed, built, projection⟩ := range_of_predicate ranged compiled
  rw [numeric] at typed projection
  obtain ⟨b, r, bounds, first, second, fine, rfl⟩ := Bounds.of_typed typed
  have built := Except.ok.inj built
  refine ⟨.number r.low, .number r.high, Condition.eq_interval built,
    Operand.number_ordered fine, ?_⟩
  intro v stored covers
  obtain ⟨b', low, x, high, bounds', lower, means, upper, above, below⟩ := covers
  cases bounds.symm.trans bounds'
  rw [numeric] at lower means upper
  obtain ⟨u, rfl⟩ := lower.exists_units
  obtain ⟨w, rfl⟩ := means.exists_units
  obtain ⟨z, rfl⟩ := upper.exists_units
  have nearLow := lower.near first
  have nearHigh := upper.near second
  obtain ⟨y, seen, near⟩ := means.near stored
  have there : v ≠ .null := by
    rintro rfl
    cases seen
  refine judge_inside ranged built there (projection ▸ rfl)
    (FieldValue.compare_number seen near.1 nearLow.1 false)
    (FieldValue.compare_number seen near.1 nearHigh.1 false) ?_ ?_
  · exact Number.isGE_compare_rank.mpr (nearLow.mono near above)
  · exact Number.isLE_compare_rank.mpr (near.mono nearHigh below)

theorem Clock.isLE_compare_iff {s t : Clock} : (s.compare t).isLE ↔
    s.second < t.second ∨ s.second = t.second ∧ s.nano ≤ t.nano := by
  unfold compare
  rw [Ordering.isLE_then_iff_or, compare_lt_iff_lt, compare_eq_iff_eq, Nat.isLE_compare]

/-- Dropping fractions of seconds keeps times of day in order. -/
theorem Clock.wholeSeconds_mono {s t : Clock} (le : (s.compare t).isLE) :
    (s.wholeSeconds.compare t.wholeSeconds).isLE := by
  rw [isLE_compare_iff] at le ⊢
  simp only [wholeSeconds]
  omega

theorem Clock.read?_eq (s : List Char) : read? s = (spelled? s).map (·.wholeSeconds) := rfl

theorem Clock.wholeSeconds_of_read? {s : List Char} {t : Clock} (found : read? s = some t) :
    t.wholeSeconds = t := by
  rw [read?_eq, Option.map_eq_some_iff] at found
  obtain ⟨u, -, rfl⟩ := found
  rfl

theorem Json.Means.exists_clock {j : Json} {e : Exact} (means : j.Means .time e) :
    ∃ t, e = .clock t := by
  cases means <;> exact ⟨_, rfl⟩

theorem FieldValue.Means.exists_clock {e : Exact} (means : v.Means .time e) :
    ∃ t, e = .clock t := by
  cases means <;> exact ⟨_, rfl⟩

/-- Whatever a bound means exactly, it is understood as that in whole seconds. -/
theorem Json.Means.clock_eq {j : Json} {t u : Clock} (means : j.Means .time (.clock t))
    (read : j.asClock = .ok u) : u = t.wholeSeconds := by
  obtain ⟨s, rfl, found⟩ := asClock_ok_iff.mp read
  cases means with
  | spelled spelling =>
    rw [Clock.read?_eq, spelling] at found
    exact (Option.some.inj found).symm
  | clock read' =>
    cases read.symm.trans read'
    exact (Clock.wholeSeconds_of_read? found).symm

theorem FieldValue.Means.timeOfDay {x : Clock} (means : v.Means .time (.clock x)) :
    v.timeOfDay = .ok x.wholeSeconds := by
  cases means with
  | clock | clockOf | midnight => rfl
  | spelled spelling =>
    refine timeOfDay_text ?_
    rw [Clock.read?_eq, spelling]
    rfl

theorem Operand.clock_atMost {s t : Clock} (le : (s.compare t).isLE) :
    (clock s).AtMost (clock t) := ⟨.clock s, .clock t, rfl, rfl, le⟩

theorem isLE_of_ne_gt {o : Ordering} (fine : some o ≠ some .gt) : o.isLE := by
  cases o with
  | lt | eq => rfl
  | gt => exact absurd rfl fine

theorem Term.times_are_intervals (ranged : t.mode.takesRange = true)
    (compiled : t.predicate = .ok p) (timed : t.dataType = .time) :
    ∃ low high, p.condition = Condition.interval t.mode low high ∧ low.AtMost high ∧
      ∀ v : FieldValue, t.Covers v → p.judge v = .ok (t.mode != .outside) := by
  obtain ⟨value, -, typed, built, projection⟩ := range_of_predicate ranged compiled
  rw [timed] at typed projection
  obtain ⟨b, r, bounds, first, second, fine, rfl⟩ := Bounds.of_typed typed
  have built := Except.ok.inj built
  refine ⟨.clock r.low, .clock r.high, Condition.eq_interval built,
    Operand.clock_atMost (isLE_of_ne_gt fine), ?_⟩
  intro v covers
  obtain ⟨b', low, x, high, bounds', lower, means, upper, above, below⟩ := covers
  cases bounds.symm.trans bounds'
  rw [timed] at lower means upper
  obtain ⟨low, rfl⟩ := lower.exists_clock
  obtain ⟨x, rfl⟩ := means.exists_clock
  obtain ⟨high, rfl⟩ := upper.exists_clock
  have there : v ≠ .null := by
    rintro rfl
    cases means
  have seen : p.projection.apply v = .ok (.clock x.wholeSeconds) := by
    rw [projection]
    change v.timeOfDay.map FieldValue.clock = _
    rw [means.timeOfDay]
    rfl
  refine judge_inside ranged built there seen rfl rfl ?_ ?_
  · rw [lower.clock_eq first]
    exact Std.OrientedCmp.isGE_iff_isLE.mpr (Clock.wholeSeconds_mono above)
  · rw [upper.clock_eq second]
    exact Clock.wholeSeconds_mono below

theorem Timestamp.startOfDay_le (t : Timestamp) : t.startOfDay.seconds ≤ t.utc.seconds := by
  have day : t.localMoment.day.number = _ := t.utc.number_dayAt t.offset
  rw [t.seconds_startOfDay, day]
  omega

theorem Timestamp.le_endOfDay (t : Timestamp) : t.utc.seconds ≤ t.endOfDay.seconds := by
  have day : t.localMoment.day.number = _ := t.utc.number_dayAt t.offset
  rw [t.seconds_endOfDay, day]
  omega

theorem FieldValue.proper_of_asInstant {m : Moment} (stored : v.Stored)
    (seen : v.asInstant = .ok m) : m.clock.Proper := by
  unfold asInstant at seen
  split at seen
  case h_1 =>
    cases seen
    exact stored
  case h_2 =>
    cases seen
    exact Clock.proper_midnight
  case h_3 s =>
    split at seen
    case h_1 u found =>
      cases seen
      exact (Timestamp.written_of_read? found).clock
    case h_2 => cases seen
  case h_4 => cases seen

theorem Operand.instant_atMost {m n : Moment} (le : (m.compare n).isLE) :
    (instant m).AtMost (instant n) := ⟨.instant m, .instant n, rfl, rfl, le⟩

namespace Bounds

variable {r : Bounds Timestamp} {m : Moment}

/-- Bounds in order stay so when they are stretched to whole days, each by its own clock. -/
theorem startOfDay_le_endOfDay (low : r.low.Written) (high : r.high.Written)
    (le : (r.low.utc.compare r.high.utc).isLE) :
    (r.low.startOfDay.compare r.high.endOfDay).isLE := by
  have before := r.low.startOfDay_le
  have after := r.high.le_endOfDay
  have first : r.low.startOfDay.clock.second < 86400 := Moment.second_shift_lt _ _
  have last : r.high.endOfDay.clock.second < 86400 := Moment.second_shift_lt _ _
  have midnight : r.low.startOfDay.clock.nano = 0 := rfl
  rw [Moment.isLE_compare_iff low.clock.second_lt high.clock.second_lt] at le
  rw [Moment.isLE_compare_iff first last, midnight]
  omega

theorem startOfDay_le_of_le (low : r.low.Written) (proper : m.clock.Proper)
    (le : (r.low.utc.compare m).isLE) : (r.low.startOfDay.compare m).isLE := by
  have before := r.low.startOfDay_le
  have first : r.low.startOfDay.clock.second < 86400 := Moment.second_shift_lt _ _
  have midnight : r.low.startOfDay.clock.nano = 0 := rfl
  rw [Moment.isLE_compare_iff low.clock.second_lt proper.second_lt] at le
  rw [Moment.isLE_compare_iff first proper.second_lt, midnight]
  omega

/-- What lies before the upper bound lies before the end of its day, unless it is in the leap second
after that. -/
theorem le_endOfDay_iff_of_le (high : r.high.Written) (proper : m.clock.Proper)
    (le : (m.compare r.high.utc).isLE) : (m.compare r.high.endOfDay).isLE ↔
      ¬ (m.seconds = r.high.endOfDay.seconds ∧ Clock.billion ≤ m.clock.nano) := by
  have after := r.high.le_endOfDay
  have last : r.high.endOfDay.clock.second < 86400 := Moment.second_shift_lt _ _
  have nano : r.high.endOfDay.clock.nano = 999999999 := rfl
  have billion : Clock.billion = 1000000000 := rfl
  rw [Moment.isLE_compare_iff proper.second_lt high.clock.second_lt] at le
  rw [Moment.isLE_compare_iff proper.second_lt last, nano, billion]
  omega

end Bounds

namespace Term

/-- What a value that a range of dates covers is compared with. -/
theorem exists_instant_of_covers {b : Bounds Json} {r : Bounds Timestamp}
    (dated : t.dataType = .date) (bounds : t.value.bounds = .ok b)
    (first : b.low.asInstant = .ok r.low) (second : b.high.asInstant = .ok r.high)
    (stored : v.Stored) (covers : t.Covers v) :
    ∃ m, v.asInstant = .ok m ∧ m.clock.Proper ∧ (r.low.utc.compare m).isLE ∧
      (m.compare r.high.utc).isLE := by
  obtain ⟨b', low, x, high, bounds', lower, means, upper, above, below⟩ := covers
  cases bounds.symm.trans bounds'
  rw [dated] at lower means upper
  cases lower with
  | instant read =>
    cases first.symm.trans read
    cases upper with
    | instant read =>
      cases second.symm.trans read
      cases means with
      | instant seen => exact ⟨_, seen, FieldValue.proper_of_asInstant stored seen, above, below⟩

theorem endsBefore_iff {r : Bounds Timestamp} {m : Moment}
    (understood : t.typed = .ok (.dateRange r)) (seen : v.asInstant = .ok m) : t.EndsBefore v ↔
      (r.low.isDateOnly = true ∨ r.high.isDateOnly = true) ∧
        m.seconds = r.high.endOfDay.seconds ∧ Clock.billion ≤ m.clock.nano := by
  constructor
  · rintro ⟨r', m', understood', bare, seen', leap⟩
    cases understood.symm.trans understood'
    cases seen.symm.trans seen'
    exact ⟨bare, leap⟩
  · rintro ⟨bare, leap⟩
    exact ⟨r, m, understood, bare, seen, leap⟩

theorem dates_are_intervals (ranged : t.mode.takesRange = true)
    (compiled : t.predicate = .ok p) (dated : t.dataType = .date) :
    ∃ low high, p.condition = Condition.interval t.mode low high ∧ low.AtMost high ∧
      ∀ v : FieldValue, v.Stored → t.Covers v →
        (¬ t.EndsBefore v → p.judge v = .ok (t.mode != .outside)) ∧
        (t.EndsBefore v → p.judge v = .ok (t.mode == .outside)) := by
  obtain ⟨value, understood, typed, built, projection⟩ := range_of_predicate ranged compiled
  rw [dated] at typed projection
  obtain ⟨b, r, bounds, first, second, fine, rfl⟩ := Bounds.of_typed typed
  have low := Json.written_of_asInstant first
  have high := Json.written_of_asInstant second
  have order : (r.low.utc.compare r.high.utc).isLE := isLE_of_ne_gt fine
  by_cases bare : r.low.isDateOnly = true ∨ r.high.isDateOnly = true
  case pos =>
    have stretched := Condition.ofDateRange_of_ok bare built
    refine ⟨_, _, Condition.eq_interval stretched,
      Operand.instant_atMost (Bounds.startOfDay_le_endOfDay low high order), ?_⟩
    intro v stored covers
    obtain ⟨m, seen, proper, above, below⟩ :=
      exists_instant_of_covers dated bounds first second stored covers
    have there := FieldValue.present_of_asInstant seen
    have started := Std.OrientedCmp.isGE_iff_isLE.mpr
      (Bounds.startOfDay_le_of_le low proper above)
    have ended := Bounds.le_endOfDay_iff_of_le high proper below
    have first := FieldValue.compare_instant seen false r.low.startOfDay
    have last := FieldValue.compare_instant seen false r.high.endOfDay
    rw [endsBefore_iff understood seen]
    constructor
    · intro usual
      have within := ended.mpr fun leap => usual ⟨bare, leap⟩
      exact judge_inside ranged stretched there (projection ▸ rfl) first last started within
    · rintro ⟨-, leap⟩
      have beyond : (m.compare r.high.endOfDay).isLE = false :=
        Bool.eq_false_iff.mpr fun within => ended.mp within leap
      exact judge_beyond ranged stretched there (projection ▸ rfl) first last beyond
  case neg =>
    have kept := Except.ok.inj ((Condition.ofDateRange_of_timed bare).symm.trans built)
    refine ⟨_, _, Condition.eq_interval kept, Operand.instant_atMost order, ?_⟩
    intro v stored covers
    obtain ⟨m, seen, proper, above, below⟩ :=
      exists_instant_of_covers dated bounds first second stored covers
    have there := FieldValue.present_of_asInstant seen
    have first := FieldValue.compare_instant seen false r.low.utc
    have last := FieldValue.compare_instant seen false r.high.utc
    rw [endsBefore_iff understood seen]
    constructor
    · intro usual
      exact judge_inside ranged kept there (projection ▸ rfl) first last
        (Std.OrientedCmp.isGE_iff_isLE.mpr above) below
    · intro early
      exact absurd early.1 bare

end Term

end

/-- What lies from the lower to the upper bound of an accepted range of numbers, dates or times,
compared exactly, is inside of it, and its bounds are in order. But a bound that is not a number is
in no order, and what lies in the leap second after a whole day is outside of a range that ends with
this day. -/
theorem accepted_ranges_are_intervals {t : Term} {p : Predicate} (compiled : t.predicate = .ok p)
    (ranged : t.mode.takesRange = true) (ordered : t.dataType ≠ .text) :
    ∃ low high, p.condition = Condition.interval t.mode low high ∧
      (low.isNaN = true ∨ high.isNaN = true ∨ low.AtMost high) ∧
      ∀ v : FieldValue, v.Stored → t.Covers v →
        (¬ t.EndsBefore v → p.judge v = .ok (t.mode != .outside)) ∧
        (t.EndsBefore v → p.judge v = .ok (t.mode == .outside)) := by
  -- only dates are stretched
  have whole (other : t.dataType ≠ .date) (v : FieldValue) : ¬ t.EndsBefore v := by
    rintro ⟨r, m, understood, -⟩
    exact other (Option.some.inj (Term.dataType_of_typed understood nofun).1.symm)
  cases type : t.dataType with
  | text => exact absurd type ordered
  | bool =>
    obtain ⟨value, -, typed, -⟩ := Term.range_of_predicate ranged compiled
    rw [type] at typed
    obtain ⟨b, -, refused⟩ := bind_ok_iff.mp typed
    cases refused
  | number =>
    obtain ⟨low, high, condition, order, judged⟩ :=
      Term.numbers_are_intervals ranged compiled type
    refine ⟨low, high, condition, order, fun v stored covers =>
      ⟨fun _ => judged v stored covers, fun early => absurd early (whole ?_ v)⟩⟩
    rw [type]
    decide
  | time =>
    obtain ⟨low, high, condition, order, judged⟩ := Term.times_are_intervals ranged compiled type
    refine ⟨low, high, condition, .inr (.inr order), fun v stored covers =>
      ⟨fun _ => judged v covers, fun early => absurd early (whole ?_ v)⟩⟩
    rw [type]
    decide
  | date =>
    obtain ⟨low, high, condition, order, judged⟩ := Term.dates_are_intervals ranged compiled type
    exact ⟨low, high, condition, .inr (.inr order), judged⟩

namespace Sample

/-- From one to an integer that is no number. -/
def upToOdd : Term where
  field := "count"
  value := .arr [.int 1, .int 9007199254740993]
  mode := .inside

theorem covers_upToOdd : upToOdd.Covers (.int 9007199254740993) :=
  ⟨⟨.int 1, .int 9007199254740993⟩, _, _, _, rfl, .integer (by decide), .int, .integer (by decide),
    Number.mul_units_le (by decide), Int.le_refl _⟩

def fromNoNumber : Term where
  field := "count"
  value := .arr [.str "NaN", .int 5]
  mode := .range
  declared := some .number

/-- A range of whole days that is given up to a leap second. -/
def upToLeapSecond : Term where
  field := "at"
  value := .arr [.str "2016-12-31", .str "2016-12-31T23:59:60Z"]
  mode := .inside

def leapInstant : Moment := ⟨⟨17166⟩, 86399, 1000000000⟩

theorem covers_upToLeapSecond : upToLeapSecond.Covers (.instant leapInstant) := by
  have first : (Json.str "2016-12-31").asInstant = .ok ⟨.midnight ⟨17166⟩, 0⟩ :=
    Json.asInstant_ok_iff.mpr ⟨_, rfl, by decide +kernel⟩
  have second : (Json.str "2016-12-31T23:59:60Z").asInstant = .ok ⟨leapInstant, 0⟩ :=
    Json.asInstant_ok_iff.mpr ⟨_, rfl, by decide +kernel⟩
  have dated : upToLeapSecond.dataType = .date := by decide +kernel
  refine ⟨⟨.str "2016-12-31", .str "2016-12-31T23:59:60Z"⟩, .instant (.midnight ⟨17166⟩),
    .instant leapInstant, .instant leapInstant, rfl, ?_⟩
  rw [dated]
  exact ⟨.instant first, .instant rfl, .instant second, rfl, rfl⟩

end Sample

open Sample in
theorem accepted_ranges_are_intervals_upToOdd :
    ∃ p, upToOdd.predicate = .ok p ∧ upToOdd.mode.takesRange = true ∧ upToOdd.dataType ≠ .text ∧
      upToOdd.Covers (.int 9007199254740993) ∧
      p.judge (.int 9007199254740993) = .ok true := by
  have compiled : upToOdd.predicate =
      .ok ⟨.value, .between (.number (.ofInt 1)) (.number (.ofInt 9007199254740993)) false⟩ :=
    eq_ok_of_toOption (by decide +kernel)
  have other : upToOdd.dataType ≠ .text := nofun
  obtain ⟨low, high, -, -, judged⟩ := accepted_ranges_are_intervals compiled rfl other
  have usual : ¬ upToOdd.EndsBefore (.int 9007199254740993) := by
    rintro ⟨r, m, -, -, seen, -⟩
    cases seen
  exact ⟨_, compiled, rfl, other, covers_upToOdd,
    (judged (.int 9007199254740993) ⟨by decide, by decide⟩ covers_upToOdd).1 usual⟩

open Sample in
/-- The bounds of an accepted range need not be in order, and what lies between them as they were
given need not be inside. -/
theorem leap_second_outside_range :
    (∃ p low high, fromNoNumber.predicate = .ok p ∧
      p.condition = Condition.interval fromNoNumber.mode low high ∧ ¬ low.AtMost high) ∧
    ∃ p, upToLeapSecond.predicate = .ok p ∧ upToLeapSecond.mode = .inside ∧
      (FieldValue.instant leapInstant).Stored ∧ upToLeapSecond.Covers (.instant leapInstant) ∧
      p.judge (.instant leapInstant) = .ok false := by
  constructor
  · have compiled : fromNoNumber.predicate =
        .ok ⟨.value, .between (.number .nan) (.number (.ofInt 5)) false⟩ :=
      eq_ok_of_toOption (by decide +kernel)
    refine ⟨_, _, _, compiled, rfl, ?_⟩
    rintro ⟨a, b, first, -⟩
    cases first
  · have compiled : upToLeapSecond.predicate =
        .ok ⟨.value, .between (.instant (.midnight ⟨17166⟩)) (.instant ⟨⟨17166⟩, .last⟩) false⟩ :=
      eq_ok_of_toOption (by decide +kernel)
    have proper : leapInstant.clock.Proper := by decide
    exact ⟨_, compiled, rfl, proper, covers_upToLeapSecond, rfl⟩

end FieldQuery

import FieldQuery.Proofs.DayBounds
import FieldQuery.Proofs.Judging

/-!
# Bare dates

A bare date stands for the whole of its day, from midnight to midnight where it was written. What a
filter with a bare date asks of an instant is how the day that the instant falls on there stands to
the day that was given. Main statement: `bare_dates_compare_days`.
-/
namespace FieldQuery

namespace Moment

variable {m n : Moment}

/-- Seconds since the beginning of 1970. -/
def seconds (m : Moment) : Int := m.day.number * 86400 + m.clock.second

/-- The day that an instant falls on, so many seconds east. -/
def dayAt (m : Moment) (offset : Int) : Day := (m.shift offset).day

theorem seconds_shift (m : Moment) (offset : Int) :
    (m.shift offset).seconds = m.seconds + offset := by
  simp only [seconds, shift]
  omega

theorem second_shift_lt (m : Moment) (offset : Int) : (m.shift offset).clock.second < 86400 := by
  simp only [shift]
  omega

theorem number_dayAt (m : Moment) (offset : Int) :
    (m.dayAt offset).number = (m.seconds + offset) / 86400 := by
  simp only [dayAt, seconds, shift]
  omega

/-- Instants are ordered by their seconds and, within a second, by nanoseconds. -/
theorem isLE_compare_iff (hm : m.clock.second < 86400) (hn : n.clock.second < 86400) :
    (m.compare n).isLE ↔
      m.seconds < n.seconds ∨ m.seconds = n.seconds ∧ m.clock.nano ≤ n.clock.nano := by
  have days : (m.compare n).isLE ↔ m.day.number < n.day.number ∨ m.day.number = n.day.number ∧
      (m.clock.second < n.clock.second ∨
        m.clock.second = n.clock.second ∧ m.clock.nano ≤ n.clock.nano) := by
    unfold compare Day.compare Clock.compare
    rw [Ordering.isLE_then_iff_or, Ordering.isLE_then_iff_or, compare_lt_iff_lt,
      compare_eq_iff_eq, compare_lt_iff_lt, compare_eq_iff_eq, Nat.isLE_compare]
  rw [days]
  unfold seconds
  omega

end Moment

namespace Timestamp

variable {t : Timestamp} {m : Moment}

theorem seconds_startOfDay (t : Timestamp) :
    t.startOfDay.seconds = t.localMoment.day.number * 86400 - t.offset := by
  rw [startOfDay, Moment.seconds_shift]
  simp only [Moment.seconds, Moment.midnight, Clock.midnight]
  omega

theorem seconds_endOfDay (t : Timestamp) :
    t.endOfDay.seconds = t.localMoment.day.number * 86400 + 86399 - t.offset := by
  rw [endOfDay, Moment.seconds_shift]
  simp only [Moment.seconds, Clock.last]
  omega

theorem isLE_startOfDay_endOfDay (t : Timestamp) :
    (t.startOfDay.compare t.endOfDay).isLE := by
  have first := t.seconds_startOfDay
  have last := t.seconds_endOfDay
  refine (Moment.isLE_compare_iff ?_ ?_).mpr ?_
  · exact Moment.second_shift_lt _ _
  · exact Moment.second_shift_lt _ _
  · omega

/-- An instant from the first moment of a day on falls on this day or a later one. -/
theorem isGE_startOfDay (proper : m.clock.Proper) : (m.compare t.startOfDay).isGE ↔
    t.localMoment.day.number ≤ (m.dayAt t.offset).number := by
  have nano : t.startOfDay.clock.nano = 0 := rfl
  have swapped : m.compare t.startOfDay = (t.startOfDay.compare m).swap :=
    Std.OrientedCmp.eq_swap
  have second : t.startOfDay.clock.second < 86400 := Moment.second_shift_lt _ _
  rw [swapped, ← Ordering.isLE_swap, Ordering.swap_swap,
    Moment.isLE_compare_iff second proper.second_lt, t.seconds_startOfDay, nano, m.number_dayAt]
  omega

/-- An instant up to the last moment of a day falls on this day or an earlier one. A leap second may
come after that moment. -/
theorem isLE_endOfDay (proper : m.clock.Proper) (usual : m.clock.nano < Clock.billion) :
    (m.compare t.endOfDay).isLE ↔ (m.dayAt t.offset).number ≤ t.localMoment.day.number := by
  have nano : t.endOfDay.clock.nano = 999999999 := rfl
  have second : t.endOfDay.clock.second < 86400 := Moment.second_shift_lt _ _
  have billion : Clock.billion = 1000000000 := rfl
  rw [Moment.isLE_compare_iff proper.second_lt second, t.seconds_endOfDay, nano,
    m.number_dayAt]
  omega

end Timestamp

/-- What a mode asks of the day that an instant falls on, where a day was given. -/
def Mode.onDays (mode : Mode) (d given : Day) : Option Bool :=
  match mode with
  | .equal => some (d = given)
  | .nequal => some (d ≠ given)
  | .gt => some (given.number < d.number)
  | .gte => some (given.number ≤ d.number)
  | .lt | .before => some (d.number < given.number)
  | .lte => some (d.number ≤ given.number)
  | _ => none

/-- Whether an instant falls within a range of days, each end by its own clock. -/
def Bounds.coversDay (r : Bounds Timestamp) (m : Moment) : Bool :=
  r.low.localMoment.day.number ≤ (m.dayAt r.low.offset).number &&
    (m.dayAt r.high.offset).number ≤ r.high.localMoment.day.number

namespace Condition

variable {v : FieldValue} {m : Moment} {mode : Mode} {t : Timestamp}

theorem meets_ofDay (seen : v.asInstant = .ok m) (proper : m.clock.Proper)
    (usual : m.clock.nano < Clock.billion) {answer : Bool}
    (asked : mode.onDays (m.dayAt t.offset) t.localMoment.day = some answer) :
    ∃ c, ofDay mode (.ok (.instant t.startOfDay)) (.ok (.instant t.endOfDay)) = .ok (some c) ∧
      c.meets v = .ok answer := by
  have first := FieldValue.compare_instant seen false t.startOfDay
  have last := FieldValue.compare_instant seen false t.endOfDay
  have ge := Bool.eq_iff_iff.mpr ((t.isGE_startOfDay proper).trans decide_eq_true_iff.symm)
  have le := Bool.eq_iff_iff.mpr ((t.isLE_endOfDay proper usual).trans decide_eq_true_iff.symm)
  generalize m.compare t.startOfDay = a at first ge
  generalize m.compare t.endOfDay = b at last le
  generalize m.dayAt t.offset = d at asked ge le
  generalize t.localMoment.day = given at asked ge le
  have within : (a.isGE && b.isLE) = decide (d = given) := by
    rw [ge, le, ← Bool.decide_and]
    refine decide_eq_decide.mpr ⟨fun h => congrArg Day.mk (Int.le_antisymm h.2 h.1), ?_⟩
    rintro rfl
    exact ⟨Int.le_refl _, Int.le_refl _⟩
  cases mode with
  | equal =>
    cases asked
    exact ⟨_, rfl, within ▸ meets_between_of first last⟩
  | nequal =>
    cases asked
    refine ⟨_, rfl, (meets_outside_of first last).trans ?_⟩
    rw [within, decide_not]
  | gt =>
    cases asked
    refine ⟨_, rfl, (meets_compare_of last .gt).trans (congrArg _ ?_)⟩
    rw [Comparison.holds_gt, le, ← decide_not]
    exact decide_eq_decide.mpr Int.not_le
  | gte =>
    cases asked
    refine ⟨_, rfl, (meets_compare_of first .gte).trans (congrArg _ ?_)⟩
    rw [Comparison.holds_gte, ge]
  | lt | before =>
    cases asked
    refine ⟨_, rfl, (meets_compare_of first .lt).trans (congrArg _ ?_)⟩
    rw [Comparison.holds_lt, ge, ← decide_not]
    exact decide_eq_decide.mpr Int.not_le
  | lte =>
    cases asked
    refine ⟨_, rfl, (meets_compare_of last .lte).trans (congrArg _ ?_)⟩
    rw [Comparison.holds_lte, le]
  | _ => cases asked

theorem meets_wholeDays (seen : v.asInstant = .ok m) (proper : m.clock.Proper)
    (usual : m.clock.nano < Clock.billion) (r : Bounds Timestamp) (range : mode.takesRange = true) :
    ∃ c, ofRange mode (.instant r.low.startOfDay) (.instant r.high.endOfDay) false = some c ∧
      c.meets v = .ok (r.coversDay m != (mode == .outside)) := by
  have first := FieldValue.compare_instant seen false r.low.startOfDay
  have last := FieldValue.compare_instant seen false r.high.endOfDay
  have ge := Bool.eq_iff_iff.mpr ((r.low.isGE_startOfDay proper).trans decide_eq_true_iff.symm)
  have le := Bool.eq_iff_iff.mpr ((r.high.isLE_endOfDay proper usual).trans decide_eq_true_iff.symm)
  have within : ((m.compare r.low.startOfDay).isGE && (m.compare r.high.endOfDay).isLE) =
      r.coversDay m := by
    rw [ge, le, Bounds.coversDay]
  rw [← within]
  exact meets_ofRange first last range

end Condition

/-- A filter with a bare date asks of an instant, unless it lies in a leap second, how the day that
it falls on stands to the date, both by the clock that the date was written by. A range with a bare
date at either end asks whether the day lies in the range, at each end by the clock of that end. The
end of the calendar's last day must not be asked for. -/
theorem bare_dates_compare_days {v : FieldValue} {m : Moment} (seen : v.asInstant = .ok m)
    (proper : m.clock.Proper) (usual : m.clock.nano < Clock.billion) (t : Term) :
    (∀ (given : Timestamp) (answer : Bool), t.typed = .ok (.instant given) →
      given.isDateOnly = true → (t.mode.asksDayEnd = true → given.localMoment.day ≠ .last) →
      t.mode.onDays (m.dayAt given.offset) given.localMoment.day = some answer →
      ∃ p, t.predicate = .ok p ∧ p.judge v = .ok answer) ∧
    ∀ r : Bounds Timestamp, t.typed = .ok (.dateRange r) →
      (r.low.isDateOnly = true ∨ r.high.isDateOnly = true) → r.high.localMoment.day ≠ .last →
      ∃ p, t.predicate = .ok p ∧ p.judge v = .ok (r.coversDay m != (t.mode == .outside)) := by
  have there := FieldValue.present_of_asInstant seen
  have judged {value : TypedValue} {c : Condition} {answer : Bool} (typed : t.typed = .ok value)
      (dated : value.dataType? = some .date) (built : Condition.ofTyped t.mode value = .ok (some c))
      (meets : c.meets v = .ok answer) : ∃ p, t.predicate = .ok p ∧ p.judge v = .ok answer := by
    have present : value ≠ .absent := by
      rintro rfl
      cases dated
    have same := Option.some.inj ((Term.dataType_of_typed typed present).1.symm.trans dated)
    refine ⟨⟨.value, c⟩, (Term.predicate_ok_iff (Term.asks_of_typed typed present)).mpr ?_, ?_⟩
    · exact ⟨value, typed, built, by rw [same]; rfl⟩
    · rw [Predicate.judge_value there, meets]
  constructor
  · intro given answer typed bare ends asked
    obtain ⟨c, built, meets⟩ := Condition.meets_ofDay seen proper usual asked
    refine judged typed rfl ?_ meets
    exact (Condition.ofInstant_of_bare (Term.written_of_typed typed) bare ends).trans built
  · intro r typed bare ends
    have range := (Term.dataType_of_typed typed nofun).2.symm
    obtain ⟨c, built, meets⟩ := Condition.meets_wholeDays seen proper usual r range
    obtain ⟨low, high⟩ := Term.written_of_typed typed
    refine judged typed rfl ?_ meets
    exact (Condition.ofDateRange_of_bare low high bare ends).trans (congrArg Except.ok built)

namespace Sample

/-- A bare date, written five and a half hours east. -/
def dueEast : Term where
  field := "due"
  value := .str "2025-01-10T00:00:00+05:30"
  mode := .equal
  declared := some .date

def tenthEast : Timestamp := ⟨⟨⟨20097⟩, 66600, 0⟩, 19800⟩

/-- Outside of a range that begins on an evening, five hours west, and ends with a bare date. -/
def dueOutside : Term where
  field := "due"
  value := .arr [.str "2025-01-09T18:00:00-05:00", .str "2025-01-10"]
  mode := .outside

def ninthToTenth : Bounds Timestamp :=
  ⟨⟨⟨⟨20097⟩, 82800, 0⟩, -18000⟩, ⟨⟨⟨20098⟩, .midnight⟩, 0⟩⟩

/-- Half past one on the tenth, five and a half hours east. -/
def nightEast : Moment := ⟨⟨20097⟩, 72000, 0⟩

end Sample

open Sample in
/-- It is the tenth in the east while Greenwich still has the ninth. -/
theorem bare_dates_compare_days_east :
    (nightEast.clock.Proper ∧ nightEast.clock.nano < Clock.billion ∧
      dueEast.typed = .ok (.instant tenthEast) ∧ tenthEast.isDateOnly = true ∧
      tenthEast.localMoment.day ≠ .last ∧
      dueOutside.typed = .ok (.dateRange ninthToTenth) ∧ ninthToTenth.high.isDateOnly = true ∧
      ninthToTenth.high.localMoment.day ≠ .last) ∧
    (∃ p, dueEast.predicate = .ok p ∧
      p.judge (.instant nightEast) = .ok true) ∧
    ∃ p, dueOutside.predicate = .ok p ∧
      p.judge (.instant nightEast) = .ok false := by
  have seen : (FieldValue.instant nightEast).asInstant = .ok nightEast := rfl
  have proper : nightEast.clock.Proper := by decide
  have usual : nightEast.clock.nano < Clock.billion := by decide
  have tenth : dueEast.typed = .ok (.instant tenthEast) := eq_ok_of_toOption (by decide +kernel)
  have range : dueOutside.typed = .ok (.dateRange ninthToTenth) :=
    eq_ok_of_toOption (by decide +kernel)
  have bare : tenthEast.isDateOnly = true := by decide
  have bareEnd : ninthToTenth.high.isDateOnly = true := by decide
  have usualDay : tenthEast.localMoment.day ≠ .last := by decide
  have usualEnd : ninthToTenth.high.localMoment.day ≠ .last := by decide
  refine ⟨⟨proper, usual, tenth, bare, usualDay, range, bareEnd, usualEnd⟩, ?_, ?_⟩
  · exact (bare_dates_compare_days seen proper usual dueEast).1 tenthEast true tenth bare
      (fun _ => usualDay) (by decide)
  · exact (bare_dates_compare_days seen proper usual dueOutside).2 ninthToTenth range (.inr bareEnd)
      usualEnd

end FieldQuery

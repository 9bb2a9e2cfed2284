import FieldQuery.Proofs.Opposites
import FieldQuery.Proofs.Spelling
import FieldQuery.Proofs.WholeDays
import Mathlib.Data.List.DropRight

/-!
# Time by the local clock

A bare date and the time of day of a text go by the clock that they were written by, whereas a plain
date in a record stands for its midnight in universal time, and an instant in a record keeps its
time of day there. How far the two can be apart is settled by the offset, which is less than a day.
Main statements: `plain_dates_compare_days` and `texts_keep_written_time`.
-/
namespace FieldQuery

open Text (trim trimStart trimEnd isBlank)

theorem Text.trim_trim (s : List Char) : trim (trim s) = trim s := by
  -- what begins a text without blanks in front still does when those at its end are gone
  have bare : trimStart (trim s) = trim s := by
    obtain ⟨after, whole⟩ : trim s <+: trimStart s := List.rdropWhile_prefix isBlank _
    have start : trimStart (trimStart s) = trimStart s := List.dropWhile_idempotent isBlank _
    refine List.dropWhile_eq_self_iff.mpr fun some_ => ?_
    have first := List.dropWhile_eq_self_iff.mp start (by rw [← whole]; simp; omega)
    simpa [← whole, List.getElem_append_left some_] using first
  calc trim (trim s)
    _ = trimEnd (trimEnd (trimStart s)) := congrArg trimEnd bare
    _ = trim s := List.rdropWhile_idempotent isBlank _

namespace Timestamp

variable {t : Timestamp}

theorem read?_trim (s : List Char) : read? (trim s) = read? s := by
  unfold read?
  rw [Text.trim_trim]

/-- The local clock shows universal time if it is not offset, and only then. -/
theorem Written.shows_universal_iff (written : t.Written) :
    t.localMoment.clock.wholeSeconds = t.utc.clock.wholeSeconds ↔ t.offset = 0 := by
  have second_lt := written.clock.second_lt
  have offset_lt := written.small
  obtain ⟨⟨day, ⟨second, nano⟩⟩, offset⟩ := t
  simp only [localMoment, Moment.shift, Clock.wholeSeconds, Clock.mk.injEq, and_true]
  simp only at second_lt offset_lt
  omega

end Timestamp

/-- The midnight of a plain date falls on the same day, by a local clock, or late on the day before
if that clock is behind. -/
theorem Moment.dayAt_midnight {d : Day} {offset : Int} (small : offset.natAbs < 86400) :
    ((midnight d).dayAt offset).number = if 0 ≤ offset then d.number else d.number - 1 := by
  have seconds : (midnight d).seconds = d.number * 86400 := by
    simp [Moment.seconds, midnight, Clock.midnight]
  rw [number_dayAt, seconds]
  split <;> omega

/-- What is asked of a day and a given one depends on how far they are apart alone. -/
theorem Mode.onDays_congr (mode : Mode) {d given e other : Day}
    (apart : d.number - given.number = e.number - other.number) :
    mode.onDays d given = mode.onDays e other := by
  obtain ⟨d⟩ := d
  obtain ⟨given⟩ := given
  obtain ⟨e⟩ := e
  obtain ⟨other⟩ := other
  simp only at apart
  have same : d = given ↔ e = other := by omega
  have less : d < given ↔ e < other := by omega
  have more : given < d ↔ other < e := by omega
  have atMost : d ≤ given ↔ e ≤ other := by omega
  have atLeast : given ≤ d ↔ other ≤ e := by omega
  cases mode <;> simp only [onDays, Day.mk.injEq, ne_eq, same, less, more, atMost, atLeast]

/-- A plain date is judged by the day that its midnight falls on, by the clock of the filter. -/
theorem Term.judge_date {t : Term} {given : Timestamp} (typed : t.typed = .ok (.instant given))
    (bare : given.isDateOnly = true)
    (ends : t.mode.asksDayEnd = true → given.localMoment.day ≠ .last) {d : Day} {answer : Bool}
    (asked : t.mode.onDays ((Moment.midnight d).dayAt given.offset) given.localMoment.day =
      some answer) : ∃ p, t.predicate = .ok p ∧ p.judge (.date d) = .ok answer := by
  have proper : Clock.midnight.Proper := by decide
  have usual : Clock.midnight.nano < Clock.billion := by decide
  have seen : (FieldValue.date d).asInstant = .ok (.midnight d) := rfl
  have there := FieldValue.present_of_asInstant seen
  obtain ⟨c, built, meets⟩ := Condition.meets_ofDay seen proper usual asked
  have whole : Condition.ofTyped t.mode (.instant given) = .ok (some c) :=
    (Condition.ofInstant_of_bare (written_of_typed typed) bare ends).trans built
  have present : TypedValue.instant given ≠ .absent := by
    intro absent
    cases absent
  have compiled := predicate_of_typed typed present whole
  rw [← Option.some.inj (dataType_of_typed typed present).1] at compiled
  exact ⟨_, compiled, (Predicate.judge_value there c).trans meets⟩

/-- A filter with a bare date asks of a plain date how it stands to the day that was given, if the
clock that the filter was written by is not behind universal time. If it is behind, the plain date
is held against the day after, since its midnight falls on the day before by that clock. The end of
the calendar's last day must not be asked for. -/
theorem plain_dates_compare_days {t : Term} {given : Timestamp}
    (typed : t.typed = .ok (.instant given)) (bare : given.isDateOnly = true)
    (ends : t.mode.asksDayEnd = true → given.localMoment.day ≠ .last) (d : Day) (answer : Bool) :
    (0 ≤ given.offset → t.mode.onDays d given.localMoment.day = some answer →
      ∃ p, t.predicate = .ok p ∧ p.judge (.date d) = .ok answer) ∧
    (given.offset < 0 → t.mode.onDays d given.localMoment.day.next = some answer →
      ∃ p, t.predicate = .ok p ∧ p.judge (.date d) = .ok answer) := by
  have small := (Term.written_of_typed typed).small
  have falls := Moment.dayAt_midnight (d := d) small
  have after := given.localMoment.day.number_next
  constructor
  · intro ahead asked
    rw [if_pos ahead] at falls
    exact Term.judge_date typed bare ends ((t.mode.onDays_congr (by omega)).trans asked)
  · intro behind asked
    rw [if_neg (by omega)] at falls
    exact Term.judge_date typed bare ends ((t.mode.onDays_congr (by omega)).trans asked)

namespace Sample

/-- A bare date, written five hours west. -/
def dueWest : Term where
  field := "due"
  value := .str "2025-01-10T00:00:00-05:00"
  mode := .equal
  declared := some .date

def tenthWest : Timestamp := ⟨⟨⟨20098⟩, 18000, 0⟩, -18000⟩

def tenth : Day := ⟨20098⟩

end Sample

open Sample in
theorem plain_dates_compare_days_tenth :
    (dueEast.typed = .ok (.instant tenthEast) ∧ tenthEast.isDateOnly = true ∧
      tenthEast.localMoment.day ≠ .last ∧
      dueWest.typed = .ok (.instant tenthWest) ∧ tenthWest.isDateOnly = true ∧
      tenthWest.localMoment.day ≠ .last) ∧
    (∃ p, dueEast.predicate = .ok p ∧ p.judge (.date tenth) = .ok true) ∧
    (∃ p, dueWest.predicate = .ok p ∧ p.judge (.date tenth) = .ok false) ∧
    ∃ p, dueWest.predicate = .ok p ∧ p.judge (.date tenth.next) = .ok true := by
  have east : dueEast.typed = .ok (.instant tenthEast) := eq_ok_of_toOption (by decide +kernel)
  have west : dueWest.typed = .ok (.instant tenthWest) := eq_ok_of_toOption (by decide +kernel)
  have bareEast : tenthEast.isDateOnly = true := by decide
  have bareWest : tenthWest.isDateOnly = true := by decide
  have usualEast : tenthEast.localMoment.day ≠ .last := by decide
  have usualWest : tenthWest.localMoment.day ≠ .last := by decide
  refine ⟨⟨east, bareEast, usualEast, west, bareWest, usualWest⟩, ?_, ?_, ?_⟩
  · exact (plain_dates_compare_days east bareEast (fun _ => usualEast) tenth true).1 (by decide)
      (by decide)
  · exact (plain_dates_compare_days west bareWest (fun _ => usualWest) tenth false).2 (by decide)
      (by decide)
  · exact (plain_dates_compare_days west bareWest (fun _ => usualWest) tenth.next true).2
      (by decide) (by decide)

open Sample in
/-- By a clock in the west, the tenth of a record is not the tenth of a filter. -/
theorem plain_date_misses_in_west :
    dueWest.typed = .ok (.instant tenthWest) ∧ tenthWest.isDateOnly = true ∧
    tenthWest.localMoment.day = tenth ∧
    ∃ p, dueWest.predicate = .ok p ∧ p.judge (.date tenth) = .ok false := by
  refine ⟨eq_ok_of_toOption (by decide +kernel), by decide, by decide, ?_⟩
  exact ⟨⟨.value, .between (.instant ⟨⟨20098⟩, 18000, 0⟩)
    (.instant ⟨⟨20099⟩, 17999, 999999999⟩) false⟩,
    eq_ok_of_toOption (by decide +kernel), eq_ok_of_toOption (by decide +kernel)⟩

/-- A text that reads as an instant shows the time of day that it was written with, unless it reads
as a time of day by itself. -/
theorem Clock.read?_of_instant {s : List Char} {t : Timestamp} (read : Timestamp.read? s = some t)
    (bare : readBare? (trim s) = none) : read? s = some t.localMoment.clock.wholeSeconds := by
  unfold Clock.read?
  dsimp only
  rw [bare, Timestamp.read?_trim, read]
  rfl

theorem FieldValue.timeOfDay_text {s : String} {c : Clock} (read : Clock.read? s.toList = some c) :
    (text s).timeOfDay = .ok c := by
  generalize shape : text s = v
  unfold timeOfDay
  split
  case h_1 | h_2 | h_3 => cases shape
  case h_4 =>
    obtain rfl := text.inj shape
    rw [read]
  case h_5 other => exact absurd shape.symm (other s)

/-- Of a value that is there, a filter on times of day sees the time of day alone. -/
theorem Term.judge_of_timeOfDay {t : Term} {p : Predicate} (timed : t.dataType = .time)
    (compiled : t.predicate = .ok p) {v w : FieldValue} (hv : v ≠ .null) (hw : w ≠ .null)
    (same : v.timeOfDay = w.timeOfDay) : p.judge v = p.judge w := by
  cases asks : t.mode.asksEmptiness with
  | true =>
    have filled {x : FieldValue} (there : x ≠ .null) : x.isEmpty false = false := by
      cases x with
      | null => exact absurd rfl there
      | _ => rfl
    rw [predicate_of_asks asks compiled, timed]
    change Except.ok (v.isEmpty false != _) = Except.ok (w.isEmpty false != _)
    rw [filled hv, filled hw]
  | false =>
    obtain ⟨value, -, built, projection⟩ := (predicate_ok_iff asks).mp compiled
    have compares := Condition.asksEmptiness_of_typed built
    rw [p.judge_present hv compares, p.judge_present hw compares, projection, timed]
    change (v.timeOfDay.map _).bind _ = (w.timeOfDay.map _).bind _
    rw [same]

/-- The filter that asks for the time of day that a text shows. -/
def Term.atTimeOf (s : String) : Term where
  field := "at"
  value := .str s
  mode := .equal
  declared := some .time

theorem Term.predicate_atTimeOf {s : String} {c : Clock} (read : Clock.read? s.toList = some c) :
    (atTimeOf s).predicate = .ok ⟨.timeOfDay, .compare .eq (.clock c) false⟩ := by
  have typed : (atTimeOf s).typed = .ok (.clock c) :=
    congrArg (Except.map TypedValue.clock) (Json.asClock_ok_iff.mpr ⟨s, rfl, read⟩)
  exact predicate_of_typed typed nofun rfl

/-- It is met by values that show the same time of day. -/
theorem Predicate.judge_atTime {v : FieldValue} {seen c : Clock} (shown : v.timeOfDay = .ok seen) :
    Predicate.judge ⟨.timeOfDay, .compare .eq (.clock c) false⟩ v = .ok (seen = c) := by
  have there : v ≠ .null := by
    rintro rfl
    cases shown
  have order : (FieldValue.clock seen).compare false (.clock c) = .ok (some (seen.compare c)) := rfl
  rw [judge_present _ there rfl]
  change (v.timeOfDay.map FieldValue.clock).bind _ = _
  rw [shown]
  refine (Condition.meets_compare_of order .eq).trans (congrArg Except.ok ?_)
  exact Bool.eq_iff_iff.mpr (by simp [Comparison.holds, Std.LawfulEqCmp.compare_eq_iff_eq])

/-- A filter on times of day judges a text that reads as an instant by the time of day that it was
written with. All such filters judge the text as they do the instant itself if and only if it was
written by universal time. -/
theorem texts_keep_written_time {s : String} {t : Timestamp}
    (read : Timestamp.read? s.toList = some t) (bare : Clock.readBare? (trim s.toList) = none) :
    (∀ (term : Term) (p : Predicate), term.dataType = .time → term.predicate = .ok p →
      p.judge (.text s) = p.judge (.instant t.localMoment)) ∧
    ((∀ (term : Term) (p : Predicate), term.dataType = .time → term.predicate = .ok p →
      p.judge (.text s) = p.judge (.instant t.utc)) ↔ t.offset = 0) := by
  have clock := Clock.read?_of_instant read bare
  have shown := FieldValue.timeOfDay_text clock
  have universal := (Timestamp.written_of_read? read).shows_universal_iff
  refine ⟨fun term p timed compiled => ?_, fun agree => ?_, fun plain term p timed compiled => ?_⟩
  · exact Term.judge_of_timeOfDay timed compiled nofun nofun shown
  · -- one filter tells them apart: the one that asks for the time of day that the text shows
    have same := agree _ _ rfl (Term.predicate_atTimeOf clock)
    have stored : (FieldValue.instant t.utc).timeOfDay = .ok t.utc.clock.wholeSeconds := rfl
    rw [Predicate.judge_atTime shown, Predicate.judge_atTime stored] at same
    refine universal.mp (Eq.symm ?_)
    simpa using same
  · refine Term.judge_of_timeOfDay timed compiled nofun nofun (shown.trans ?_)
    exact congrArg Except.ok (universal.mpr plain)

namespace Sample

/-- Half past eight, two hours east. -/
def breakfast : String := "2025-01-10T08:30:00+02:00"

def breakfastEast : Timestamp := ⟨⟨⟨20098⟩, 23400, 0⟩, 7200⟩

/-- The predicate of a filter that asks for half past eight. -/
def halfPastEight : Predicate := ⟨.timeOfDay, .compare .eq (.clock ⟨30600, 0⟩) false⟩

end Sample

open Sample in
theorem texts_keep_written_time_breakfast :
    Timestamp.read? breakfast.toList = some breakfastEast ∧
    Clock.readBare? (trim breakfast.toList) = none ∧
    (Term.atTimeOf "08:30").predicate = .ok halfPastEight ∧
    halfPastEight.judge (.text breakfast) = .ok true ∧
    ¬ ∀ (term : Term) (p : Predicate), term.dataType = .time → term.predicate = .ok p →
      p.judge (.text breakfast) = p.judge (.instant breakfastEast.utc) := by
  have read : Timestamp.read? breakfast.toList = some breakfastEast := by decide +kernel
  have bare : Clock.readBare? (trim breakfast.toList) = none := by decide +kernel
  have asked : (Term.atTimeOf "08:30").predicate = .ok halfPastEight :=
    eq_ok_of_toOption (by decide +kernel)
  obtain ⟨written, universal⟩ := texts_keep_written_time read bare
  refine ⟨read, bare, asked, ?_, fun agree => ?_⟩
  · have local_ : (FieldValue.instant breakfastEast.localMoment).timeOfDay = .ok ⟨30600, 0⟩ := rfl
    exact (written _ _ rfl asked).trans (Predicate.judge_atTime local_)
  · cases universal.mp agree

open Sample in
/-- At half past eight in the east it is half past six by universal time. -/
theorem stored_instant_shows_universal_time :
    Timestamp.read? breakfast.toList = some breakfastEast ∧
    Clock.readBare? (trim breakfast.toList) = none ∧
    (Term.atTimeOf "08:30").predicate = .ok halfPastEight ∧
    halfPastEight.judge (.text breakfast) = .ok true ∧
    halfPastEight.judge (.instant breakfastEast.utc) = .ok false := by
  refine ⟨by decide +kernel, by decide +kernel, ?_, ?_, ?_⟩
  · exact Term.predicate_atTimeOf (by decide +kernel)
  · exact eq_ok_of_toOption (by decide +kernel)
  · exact eq_ok_of_toOption (by decide +kernel)

end FieldQuery

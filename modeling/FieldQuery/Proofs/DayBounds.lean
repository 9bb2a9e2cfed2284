import FieldQuery.Proofs.Spelling
import FieldQuery.Proofs.Terms

/-!
# The bounds of whole days

A bare date is held against the bounds of its day. Of all dates that can be read only the last day
of the calendar lacks one of them, its end, so that the program stops if that end is asked for, and
only then. Main statements: `Condition.ofTyped_error_iff` and `Condition.ofInstant_of_bare`.
-/
namespace FieldQuery

/-- The modes that hold a bare date against the end of its day. -/
def Mode.asksDayEnd : Mode → Bool
  | .equal | .nequal | .gt | .after | .lte => true
  | _ => false

namespace TypedValue

/-- The instants of a value are written as instants can be. -/
def Written : TypedValue → Prop
  | instant t => t.Written
  | dateRange r => r.low.Written ∧ r.high.Written
  | _ => True

/-- A value asks for the end of the calendar's last day. -/
inductive Overruns (mode : Mode) : TypedValue → Prop where
  | day {t : Timestamp} (bare : t.isDateOnly = true) (asks : mode.asksDayEnd = true)
      (last : t.localMoment.day = .last) : Overruns mode (instant t)
  | range {r : Bounds Timestamp} (bare : r.low.isDateOnly = true ∨ r.high.isDateOnly = true)
      (last : r.high.localMoment.day = .last) : Overruns mode (dateRange r)

end TypedValue

theorem Json.written_of_asInstant {j : Json} {t : Timestamp} (read : j.asInstant = .ok t) :
    t.Written := by
  obtain ⟨s, -, found⟩ := asInstant_ok_iff.mp read
  exact Timestamp.written_of_read? found

namespace DataType

variable {d : DataType} {j : Json} {value : TypedValue}

theorem written_of_typedScalar (typed : d.typedScalar j = .ok value) : value.Written := by
  cases d with
  | date =>
    obtain ⟨t, read, rfl⟩ := map_ok_iff.mp typed
    exact Json.written_of_asInstant read
  | number | text | bool | time =>
    obtain ⟨x, -, rfl⟩ := map_ok_iff.mp typed
    trivial

theorem written_of_typedRange (typed : d.typedRange j = .ok value) : value.Written := by
  cases d with
  | date =>
    obtain ⟨b, r, -, low, high, -, rfl⟩ := Bounds.of_typed typed
    exact ⟨Json.written_of_asInstant low, Json.written_of_asInstant high⟩
  | number | time =>
    obtain ⟨b, r, -, -, -, -, rfl⟩ := Bounds.of_typed typed
    trivial
  | text =>
    obtain ⟨b, -, typed⟩ := bind_ok_iff.mp typed
    obtain ⟨r, -, rfl⟩ := map_ok_iff.mp typed
    trivial
  | bool =>
    obtain ⟨b, -, typed⟩ := bind_ok_iff.mp typed
    cases typed

end DataType

theorem Term.written_of_typed {t : Term} {value : TypedValue} (typed : t.typed = .ok value) :
    value.Written := by
  cases asks : t.mode.asksEmptiness with
  | true =>
    cases typed_of_asks asks typed
    trivial
  | false =>
    have read := ((typed_ok_iff asks).mp typed).2
    split at read
    case isTrue => exact DataType.written_of_typedRange read
    case isFalse => exact DataType.written_of_typedScalar read

namespace Operand

variable {t : Timestamp} {o : Operand}

theorem ofBound_ok_iff {m? : Option Moment} :
    ofBound m? = .ok o ↔ ∃ m, m? = some m ∧ o = .instant m := by
  cases m? with
  | none => exact ⟨nofun, fun ⟨_, h, _⟩ => nomatch h⟩
  | some m =>
    constructor
    · rintro ⟨⟩
      exact ⟨m, rfl, rfl⟩
    · rintro ⟨_, ⟨⟩, rfl⟩
      rfl

theorem eq_startOfDay (found : ofBound t.startOfDay? = .ok o) : o = .instant t.startOfDay := by
  obtain ⟨m, found, rfl⟩ := ofBound_ok_iff.mp found
  unfold Timestamp.startOfDay? Moment.inCalendar? at found
  split at found <;> cases found
  rfl

theorem eq_endOfDay (found : ofBound t.endOfDay? = .ok o) : o = .instant t.endOfDay := by
  obtain ⟨m, found, rfl⟩ := ofBound_ok_iff.mp found
  unfold Timestamp.endOfDay? at found
  split at found
  case isTrue =>
    unfold Moment.inCalendar? at found
    split at found <;> cases found
    rfl
  case isFalse => cases found

theorem ofBound_startOfDay? (written : t.Written) :
    ofBound t.startOfDay? = .ok (.instant t.startOfDay) := by
  rw [written.startOfDay?_eq]
  rfl

theorem ofBound_endOfDay? (written : t.Written) : ofBound t.endOfDay? =
    if t.localMoment.day = .last then .error .calendarOverrun else .ok (.instant t.endOfDay) := by
  rw [written.endOfDay?_eq]
  split <;> rfl

end Operand

namespace Condition

variable {mode : Mode} {t : Timestamp} {r : Bounds Timestamp} {c : Condition} {value : TypedValue}
  {fault : QueryFault} {start last : Answer Operand} {low high : Operand}

/-- A condition on a day is made of the bounds that there are. -/
theorem ofDay_of_ok (first : ∀ o, start = .ok o → o = low) (second : ∀ o, last = .ok o → o = high)
    (built : ofDay mode start last = .ok (some c)) :
    ofDay mode (.ok low) (.ok high) = .ok (some c) := by
  cases mode with
  | equal | nequal =>
    cases start with
    | error => cases built
    | ok a =>
      cases last with
      | error => cases built
      | ok b =>
        cases first a rfl
        cases second b rfl
        exact built
  | gt | after | lte =>
    cases last with
    | error => cases built
    | ok b =>
      cases second b rfl
      exact built
  | gte | lt | before =>
    cases start with
    | error => cases built
    | ok a =>
      cases first a rfl
      exact built
  | _ => cases built

/-- A mode that does not ask for the end of the day does not need it. -/
theorem ofDay_of_not_asks (asks : mode.asksDayEnd = false) (other : Answer Operand) :
    ofDay mode start last = ofDay mode start other := by
  cases mode with
  | equal | nequal | gt | after | lte => cases asks
  | _ => rfl

theorem ofDay_of_asks (asks : mode.asksDayEnd = true) :
    ofDay mode (.ok low) (.error fault) = .error fault := by
  cases mode with
  | equal | nequal | gt | after | lte => rfl
  | _ => cases asks

theorem ofDay_ok (mode : Mode) (low high : Operand) :
    ∃ c?, ofDay mode (.ok low) (.ok high) = .ok c? := by
  cases mode <;> exact ⟨_, rfl⟩

theorem ofInstant_of_ok (bare : t.isDateOnly = true) (built : ofInstant mode t = .ok (some c)) :
    ofDay mode (.ok (.instant t.startOfDay)) (.ok (.instant t.endOfDay)) = .ok (some c) := by
  rw [ofInstant, if_pos bare] at built
  exact ofDay_of_ok (fun _ => Operand.eq_startOfDay) (fun _ => Operand.eq_endOfDay) built

theorem ofDateRange_of_ok (bare : r.low.isDateOnly = true ∨ r.high.isDateOnly = true)
    (built : ofDateRange mode r = .ok (some c)) :
    ofRange mode (.instant r.low.startOfDay) (.instant r.high.endOfDay) false = some c := by
  rw [ofDateRange, if_pos (Bool.or_eq_true_iff.mpr bare)] at built
  obtain ⟨low, first, built⟩ := bind_ok_iff.mp built
  obtain ⟨high, second, built⟩ := bind_ok_iff.mp built
  cases Operand.eq_startOfDay first
  cases Operand.eq_endOfDay second
  exact Except.ok.inj built

theorem ofInstant_of_timed (timed : ¬ t.isDateOnly = true) : ofInstant mode t =
    .ok ((comparison true mode).map (compare · (.instant t.utc) false)) := if_neg timed

theorem ofDateRange_of_timed (timed : ¬ (r.low.isDateOnly = true ∨ r.high.isDateOnly = true)) :
    ofDateRange mode r = .ok (ofRange mode (.instant r.low.utc) (.instant r.high.utc) false) :=
  if_neg (mt Bool.or_eq_true_iff.mp timed)

/-- A bare date is compared with the exact bounds of its day, unless that is the last one. -/
theorem ofInstant_of_bare (written : t.Written) (bare : t.isDateOnly = true)
    (ends : mode.asksDayEnd = true → t.localMoment.day ≠ .last) : ofInstant mode t =
      ofDay mode (.ok (.instant t.startOfDay)) (.ok (.instant t.endOfDay)) := by
  rw [ofInstant, if_pos bare, Operand.ofBound_startOfDay? written]
  cases asks : mode.asksDayEnd with
  | true => rw [Operand.ofBound_endOfDay? written, if_neg (ends asks)]
  | false => exact ofDay_of_not_asks asks _

theorem ofDateRange_of_bare (low : r.low.Written) (high : r.high.Written)
    (bare : r.low.isDateOnly = true ∨ r.high.isDateOnly = true)
    (ends : r.high.localMoment.day ≠ .last) : ofDateRange mode r =
      .ok (ofRange mode (.instant r.low.startOfDay) (.instant r.high.endOfDay) false) := by
  rw [ofDateRange, if_pos (Bool.or_eq_true_iff.mpr bare), Operand.ofBound_startOfDay? low,
    Operand.ofBound_endOfDay? high, if_neg ends]
  rfl

theorem ofInstant_of_last (written : t.Written) (bare : t.isDateOnly = true)
    (asks : mode.asksDayEnd = true) (last : t.localMoment.day = .last) :
    ofInstant mode t = .error .calendarOverrun := by
  rw [ofInstant, if_pos bare, Operand.ofBound_startOfDay? written,
    Operand.ofBound_endOfDay? written, if_pos last]
  exact ofDay_of_asks asks

theorem ofDateRange_of_last (low : r.low.Written) (high : r.high.Written)
    (bare : r.low.isDateOnly = true ∨ r.high.isDateOnly = true)
    (last : r.high.localMoment.day = .last) : ofDateRange mode r = .error .calendarOverrun := by
  rw [ofDateRange, if_pos (Bool.or_eq_true_iff.mpr bare), Operand.ofBound_startOfDay? low,
    Operand.ofBound_endOfDay? high, if_pos last]
  rfl

theorem ofInstant_error_iff (written : t.Written) : ofInstant mode t = .error fault ↔
    fault = .calendarOverrun ∧ (TypedValue.instant t).Overruns mode := by
  constructor
  · intro stopped
    by_cases bare : t.isDateOnly = true
    case neg => cases (ofInstant_of_timed bare).symm.trans stopped
    case pos =>
      by_cases ending : mode.asksDayEnd = true ∧ t.localMoment.day = .last
      case pos =>
        obtain ⟨asks, last⟩ := ending
        cases (ofInstant_of_last written bare asks last).symm.trans stopped
        exact ⟨rfl, .day bare asks last⟩
      case neg =>
        have whole := ofInstant_of_bare written bare fun asks last => ending ⟨asks, last⟩
        obtain ⟨c?, made⟩ := ofDay_ok mode (.instant t.startOfDay) (.instant t.endOfDay)
        cases (whole.trans made).symm.trans stopped
  · rintro ⟨rfl, overruns⟩
    cases overruns with
    | day bare asks last => exact ofInstant_of_last written bare asks last

theorem ofDateRange_error_iff (low : r.low.Written) (high : r.high.Written) :
    ofDateRange mode r = .error fault ↔
      fault = .calendarOverrun ∧ (TypedValue.dateRange r).Overruns mode := by
  constructor
  · intro stopped
    by_cases bare : r.low.isDateOnly = true ∨ r.high.isDateOnly = true
    case neg => cases (ofDateRange_of_timed bare).symm.trans stopped
    case pos =>
      by_cases last : r.high.localMoment.day = .last
      case pos =>
        cases (ofDateRange_of_last low high bare last).symm.trans stopped
        exact ⟨rfl, .range bare last⟩
      case neg => cases (ofDateRange_of_bare low high bare last).symm.trans stopped
  · rintro ⟨rfl, overruns⟩
    cases overruns with
    | range bare last => exact ofDateRange_of_last low high bare last

/-- Making a condition fails only at the end of the calendar. -/
theorem ofTyped_error_iff (written : value.Written) : ofTyped mode value = .error fault ↔
    fault = .calendarOverrun ∧ value.Overruns mode := by
  cases value with
  | instant t => exact ofInstant_error_iff written
  | dateRange r => exact ofDateRange_error_iff written.1 written.2
  | _ => exact ⟨nofun, fun h => nomatch h.2⟩

end Condition

end FieldQuery

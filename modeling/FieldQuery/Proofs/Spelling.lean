import FieldQuery.Calendar.Reader
import FieldQuery.Proofs.CalendarOrder

/-!
# Instants that can be spelled

Whatever spelling an instant is read from, its time of day exists, leap seconds included, its offset
is a number of whole minutes below a day, and the calendar has its day. The same holds of the ends
of its day, but for the end of the last day of the calendar. Main statements:
`Timestamp.written_of_read?`, `Timestamp.Written.endOfDay?_eq` and `Moment.InFilter.proper`.
-/
namespace FieldQuery

theorem Clock.proper_midnight : midnight.Proper := by decide

theorem Clock.proper_last : last.Proper := by decide

/-- Moving an instant by whole minutes keeps its place in the minute, and so its leap second. -/
theorem Moment.proper_shift {m : Moment} (proper : m.clock.Proper) {seconds : Int}
    (minutes : seconds % 60 = 0) : (m.shift seconds).clock.Proper := by
  obtain ⟨-, nano_lt, leap⟩ := proper
  refine ⟨?_, nano_lt, leap.imp_right fun last => ?_⟩
  · simp only [shift]
    omega
  · simp only [shift]
    omega

theorem DateParts.proper_of_toClock? {p : DateParts} {c : Clock} (found : p.toClock? = some c) :
    c.Proper := by
  simp only [toClock?, Option.bind_eq_bind, Option.bind_eq_some_iff] at found
  obtain ⟨h, -, m, -, found⟩ := found
  split at found
  · exact (Clock.proper_iff c).mpr ⟨_, _, _, _, found⟩
  · exact (Clock.proper_iff c).mpr ⟨_, _, _, _, found⟩

namespace Day

theorem inCalendar_iff {d : Day} :
    d.inCalendar = true ↔ -96465292 ≤ d.number ∧ d.number ≤ 95026236 := decide_eq_true_iff

theorem number_next (d : Day) : d.next.number = d.number + 1 := rfl

theorem eq_last_iff {d : Day} : d = last ↔ d.number = 95026236 := by
  obtain ⟨number⟩ := d
  exact Day.mk.injEq _ _ |>.to_iff

/-- Days before a year that begins in March. -/
def beforeYear (y : Int) : Int := y % 400 * 365 + y % 400 / 4 - y % 400 / 100 + y / 400 * 146097

theorem beforeYear_mono {a b : Int} (le : a ≤ b) : beforeYear a ≤ beforeYear b := by
  unfold beforeYear
  omega

theorem beforeYear_step (y : Int) : beforeYear (y - 1) + 365 ≤ beforeYear y := by
  unfold beforeYear
  omega

theorem number_ofCivil (y : Int) (m d : Nat) : (ofCivil y m d).number =
    beforeYear (if m ≤ 2 then y - 1 else y) +
      ((153 * ((m + 9) % 12) + 2) / 5 + d - 1 : Nat) - 719468 := by
  unfold ofCivil beforeYear
  dsimp only
  omega

/-- The days of the years from 0 on are far from the beginning of the calendar. -/
theorem number_of_ofCivil? {y : Int} {m d : Nat} {day : Day} (found : ofCivil? y m d = some day) :
    day.inCalendar = true ∧ (0 ≤ y → -719528 ≤ day.number) := by
  unfold ofCivil? at found
  split at found
  case isTrue exists_ =>
    cases found
    obtain ⟨first, last, january, december, start, most⟩ := exists_
    have short : d ≤ 31 := by
      unfold daysInMonth at most
      split_ifs at most <;> omega
    have least := beforeYear_mono (Int.sub_le_sub_right first 1)
    have greatest := beforeYear_mono last
    have natural (h : 0 ≤ y) := beforeYear_mono (Int.sub_le_sub_right h 1)
    have ends : beforeYear (firstYear - 1) = -95746130 ∧ beforeYear lastYear = 95745399 ∧
        beforeYear (0 - 1) = -366 := by decide
    have step := beforeYear_step y
    -- January and February come last in a year that begins in March
    have months : if m ≤ 2 then 306 ≤ (153 * ((m + 9) % 12) + 2) / 5
        else (153 * ((m + 9) % 12) + 2) / 5 ≤ 275 := by
      split <;> omega
    rw [inCalendar_iff, number_ofCivil]
    split
    case isTrue early =>
      rw [if_pos early] at months
      omega
    case isFalse late =>
      rw [if_neg late] at months
      omega
  case isFalse => cases found

end Day

theorem DateParts.proper_of_toMoment? {p : DateParts} {m : Moment} (found : p.toMoment? = some m) :
    m.clock.Proper ∧ m.day.inCalendar = true ∧
      ((∀ y, p.year = some y → 0 ≤ y) → -719528 ≤ m.day.number) := by
  simp only [toMoment?, toDay?, Option.bind_eq_bind, Option.bind_eq_some_iff] at found
  obtain ⟨d, ⟨y, year, _, -, _, -, day⟩, t, clock, found⟩ := found
  cases found
  obtain ⟨there, late⟩ := Day.number_of_ofCivil? day
  exact ⟨proper_of_toClock? clock, there, fun natural => late (natural y year)⟩

theorem Moment.proper_of_read? {s : List Char} {m : Moment} (found : read? s = some m) :
    m.clock.Proper ∧ m.day.inCalendar = true := by
  unfold read? at found
  obtain ⟨l, -, found⟩ := List.exists_of_findSome?_eq_some found
  obtain ⟨p, -, found⟩ := Option.bind_eq_some_iff.mp found
  obtain ⟨proper, there, -⟩ := DateParts.proper_of_toMoment? found
  exact ⟨proper, there⟩

theorem Day.inCalendar_of_read? {s : List Char} {d : Day} (found : read? s = some d) :
    d.inCalendar = true := by
  unfold read? at found
  obtain ⟨l, -, found⟩ := List.exists_of_findSome?_eq_some found
  obtain ⟨p, -, found⟩ := Option.bind_eq_some_iff.mp found
  simp only [DateParts.toDay?, Option.bind_eq_bind, Option.bind_eq_some_iff] at found
  obtain ⟨y, -, m, -, _, -, found⟩ := found
  exact (number_of_ofCivil? found).1

variable {α β : Type} {P : α → Prop}

def Yields (P : α → Prop) (read : Option α) : Prop := ∀ a, read = some a → P a

namespace Yields

theorem nothing : Yields P none := nofun

theorem just {a : α} (h : P a) : Yields P (some a) := by
  rintro _ ⟨⟩
  exact h

theorem onward {b : β} {f : β → Option α} (h : Yields P (f b)) : Yields P (some b >>= f) := h

/-- What comes after something that was read. -/
theorem after {Q : β → Prop} {x : Option β} {f : β → Option α} (first : Yields Q x)
    (h : ∀ b, Q b → Yields P (f b)) : Yields P (x >>= f) := by
  intro a found
  obtain ⟨b, read, found⟩ := Option.bind_eq_some_iff.mp found
  exact h b (first b read) a found

/-- What comes after something of no account. -/
theorem past {x : Option β} {f : β → Option α} (h : ∀ b, Yields P (f b)) : Yields P (x >>= f) :=
  after (Q := fun _ => True) (fun _ _ => trivial) fun b _ => h b

theorem or {x y : Option α} (hx : Yields P x) (hy : Yields P y) : Yields P (x.or y) := by
  cases x with
  | none => exact hy
  | some a => exact hx

end Yields

namespace Timestamp

variable {t : Timestamp}

/-- An instant with a time of day that exists and an offset of whole minutes, below a day. The
calendar has its day, as written and in universal time, and the beginning of this day. -/
structure Written (t : Timestamp) : Prop where
  clock : t.utc.clock.Proper
  minutes : t.offset % 60 = 0
  small : t.offset.natAbs < 86400
  utc : t.utc.day.inCalendar = true
  localDay : t.localMoment.day.inCalendar = true
  start : t.startOfDay.day.inCalendar = true

theorem localMoment_ofLocal {m : Moment} (proper : m.clock.Proper) (offset : Int) :
    (ofLocal m offset).localMoment = m := by
  have second_lt := proper.second_lt
  obtain ⟨⟨number⟩, ⟨second, nano⟩⟩ := m
  simp only [ofLocal, localMoment, Moment.shift, Moment.mk.injEq, Day.mk.injEq, Clock.mk.injEq,
    and_true]
  simp only at second_lt
  omega

theorem written_ofLocal {m : Moment} {offset : Int} (proper : m.clock.Proper)
    (minutes : offset % 60 = 0) (small : offset.natAbs < 86400) (there : m.day.inCalendar = true)
    (late : -719528 ≤ m.day.number) (utc : (ofLocal m offset).utc.day.inCalendar = true) :
    (ofLocal m offset).Written where
  clock := m.proper_shift proper (by omega)
  minutes := minutes
  small := small
  utc := utc
  localDay := by rw [localMoment_ofLocal proper, there]
  start := by
    -- the day cannot begin before the calendar, and it begins no later than the instant itself
    rw [startOfDay, localMoment_ofLocal proper]
    have second_lt := proper.second_lt
    rw [Day.inCalendar_iff] at utc ⊢
    simp only [ofLocal, Moment.shift, Moment.midnight, Clock.midnight] at utc ⊢
    omega

/-- Without an offset, an instant is as it was written. -/
theorem written_ofLocal_zero {m : Moment} (proper : m.clock.Proper)
    (there : m.day.inCalendar = true) : (ofLocal m 0).Written where
  clock := m.proper_shift proper rfl
  minutes := rfl
  small := Nat.zero_lt_succ _
  utc := by
    have second_lt := proper.second_lt
    rw [Day.inCalendar_iff] at there ⊢
    simp only [ofLocal, Moment.shift]
    omega
  localDay := by rw [localMoment_ofLocal proper, there]
  start := by
    rw [startOfDay, localMoment_ofLocal proper]
    rw [Day.inCalendar_iff] at there ⊢
    simp only [ofLocal, Moment.shift, Moment.midnight, Clock.midnight]
    omega

def Minutes (x : Int × List Char) : Prop := x.1 % 60 = 0

theorem minutes_takeOffset (separator : List Char → Option (List Char)) (signs s : List Char) :
    Yields Minutes (takeOffset separator signs s) := by
  have whole (negative : Bool) (h m : Nat) (rest : List Char) :
      Minutes (if negative then -((h : Int) * 3600 + m * 60) else (h : Int) * 3600 + m * 60,
        rest) := by
    unfold Minutes
    split <;> omega
  unfold takeOffset
  repeat' first
    | with_reducible exact .nothing
    | with_reducible exact .just (whole _ _ _ _)
    | with_reducible refine .onward ?_
    | with_reducible refine .past fun _ => ?_
    | split

theorem minutes_takeZone (s : List Char) : Yields Minutes (takeZone s) := by
  unfold takeZone
  dsimp only
  split
  · exact minutes_takeOffset _ _ s
  · split
    · refine .just ?_
      simp only [Minutes]
      omega
    · split
      · exact .just rfl
      · exact .nothing

theorem written_ofParts? (p : DateParts) (x : Int × List Char) (whole : Minutes x)
    (natural : ∀ y, p.year = some y → 0 ≤ y) : Yields Written (ofParts? p x.1) := by
  refine .after (fun _ moment => DateParts.proper_of_toMoment? moment) fun m read => ?_
  obtain ⟨proper, there, late⟩ := read
  dsimp only
  split
  case isTrue within =>
    obtain ⟨small, utc⟩ := within
    exact .just (written_ofLocal proper whole small there (late natural) utc)
  case isFalse => exact .nothing

theorem natural_year (n : Nat) : ∀ y : Int, some (n : Int) = some y → 0 ≤ y := by
  rintro _ ⟨⟩
  exact Int.natCast_nonneg n

theorem natural_fullYear (digits n : Nat) : ∀ y, some (fullYear digits n) = some y → 0 ≤ y := by
  rintro _ ⟨⟩
  unfold fullYear
  split_ifs <;> omega

-- both readers end by putting the parts together behind an offset, whatever they took before

theorem written_readNumeric? (s : List Char) : Yields Written (readNumeric? s) := by
  unfold readNumeric?
  repeat' first
    | with_reducible exact .nothing
    | with_reducible exact written_ofParts? _ _ ‹Minutes _› (natural_year _)
    | with_reducible refine .onward ?_
    | with_reducible refine .after (minutes_takeOffset _ _ _) fun _ _ => ?_
    | with_reducible refine .past fun _ => ?_
    | split
    | exact written_ofParts? _ (0, []) rfl (natural_year _)
    | dsimp only

theorem written_readMail? (s : List Char) : Yields Written (readMail? s) := by
  unfold readMail?
  repeat' first
    | with_reducible exact .nothing
    | with_reducible exact .just ‹Written _›
    | with_reducible
        refine .after (written_ofParts? _ _ ‹Minutes _› (natural_fullYear _ _)) fun _ _ => ?_
    | with_reducible refine .onward ?_
    | with_reducible refine .after (minutes_takeZone _) fun _ _ => ?_
    | with_reducible refine .past fun _ => ?_
    | split
    | dsimp only

/-- What is read is written with a time of day and an offset that exist. -/
theorem written_of_read? {s : List Char} (found : read? s = some t) : t.Written := by
  unfold read? at found
  dsimp only at found
  split at found
  case isTrue => cases found
  case isFalse =>
    refine Yields.or (written_readNumeric? _) (.or (written_readMail? _) (.or ?_ ?_)) t found
    · intro t found
      obtain ⟨m, read, rfl⟩ := Option.map_eq_some_iff.mp found
      obtain ⟨proper, there⟩ := Moment.proper_of_read? read
      exact written_ofLocal_zero proper there
    · intro t found
      obtain ⟨d, read, rfl⟩ := Option.map_eq_some_iff.mp found
      exact written_ofLocal_zero Clock.proper_midnight (Day.inCalendar_of_read? read)

theorem Written.proper_startOfDay (h : t.Written) : t.startOfDay.clock.Proper := by
  have minutes := h.minutes
  exact Moment.proper_shift Clock.proper_midnight (by omega)

theorem Written.proper_endOfDay (h : t.Written) : t.endOfDay.clock.Proper := by
  have minutes := h.minutes
  exact Moment.proper_shift Clock.proper_last (by omega)

theorem Written.startOfDay?_eq (h : t.Written) : t.startOfDay? = some t.startOfDay := if_pos h.start

/-- Of what was read, only the last day of the calendar has no end. -/
theorem Written.endOfDay?_eq (h : t.Written) :
    t.endOfDay? = if t.localMoment.day = .last then none else some t.endOfDay := by
  have localDay := Day.inCalendar_iff.mp h.localDay
  have start := Day.inCalendar_iff.mp h.start
  have small := h.small
  have next : t.localMoment.day.next.inCalendar = true ↔ t.localMoment.day ≠ .last := by
    rw [Day.inCalendar_iff, ne_eq, Day.eq_last_iff, Day.number_next]
    omega
  unfold endOfDay?
  split
  case isTrue more =>
    rw [if_neg (next.mp more)]
    refine if_pos (Day.inCalendar_iff.mpr ?_)
    rw [startOfDay] at start
    rw [endOfDay]
    rw [Day.inCalendar_iff, Day.number_next] at more
    simp only [Moment.shift, Moment.midnight, Clock.midnight, Clock.last] at start more ⊢
    omega
  case isFalse ended => rw [if_pos (Decidable.not_not.mp (ended ∘ next.mpr))]

end Timestamp

/-- The instants that filters compare with: one that was read, or an end of its day. -/
def Moment.InFilter (m : Moment) : Prop :=
  ∃ s t, Timestamp.read? s = some t ∧ (m = t.utc ∨ m = t.startOfDay ∨ m = t.endOfDay)

theorem Moment.InFilter.proper {m : Moment} (h : m.InFilter) : m.clock.Proper := by
  obtain ⟨s, t, read, rfl | rfl | rfl⟩ := h
  · exact (Timestamp.written_of_read? read).clock
  · exact (Timestamp.written_of_read? read).proper_startOfDay
  · exact (Timestamp.written_of_read? read).proper_endOfDay

end FieldQuery

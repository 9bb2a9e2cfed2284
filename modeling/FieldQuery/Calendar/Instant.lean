import FieldQuery.Calendar.Day

/-!
# Times of day and instants

A `Clock` is a time of day, a `Moment` a day with a time of day, and a `Timestamp` the moment in
universal time together with the offset at which it was written. A leap second is counted with the
second before it, as nanoseconds beyond the first billion.
-/
namespace FieldQuery

structure Clock where
  second : Nat
  nano : Nat
deriving DecidableEq, Repr

namespace Clock

def midnight : Clock := ⟨0, 0⟩

def last : Clock := ⟨86399, 999999999⟩

def billion : Nat := 1000000000

/-- The time of an hour, minute, second and nanosecond that exist. -/
def ofParts? (h m s nano : Nat) : Option Clock :=
  if h < 24 ∧ m < 60 ∧ s < 60 ∧ nano < 2 * billion ∧ (nano < billion ∨ s = 59) then
    some ⟨h * 3600 + m * 60 + s, nano⟩
  else none

/-- The time with everything below a second dropped. -/
def wholeSeconds (t : Clock) : Clock := ⟨t.second, 0⟩

def compare (a b : Clock) : Ordering :=
  (Ord.compare a.second b.second).then (Ord.compare a.nano b.nano)

end Clock

structure Moment where
  day : Day
  clock : Clock
deriving DecidableEq, Repr

namespace Moment

def compare (a b : Moment) : Ordering := (a.day.compare b.day).then (a.clock.compare b.clock)

def shift (m : Moment) (seconds : Int) : Moment :=
  let total := (m.clock.second : Int) + seconds
  ⟨⟨m.day.number + total / 86400⟩, ⟨(total % 86400).toNat, m.clock.nano⟩⟩

def midnight (d : Day) : Moment := ⟨d, .midnight⟩

def inCalendar? (m : Moment) : Option Moment := if m.day.inCalendar then some m else none

end Moment

/-- An instant as written: the moment in universal time, and the offset in seconds east. -/
structure Timestamp where
  utc : Moment
  offset : Int
deriving DecidableEq, Repr

namespace Timestamp

def ofLocal (m : Moment) (offset : Int) : Timestamp := ⟨m.shift (-offset), offset⟩

def localMoment (t : Timestamp) : Moment := t.utc.shift t.offset

/-- Whether no time of day was given: local midnight exactly. -/
def isDateOnly (t : Timestamp) : Bool := t.localMoment.clock == .midnight

/-- Where the local day of an instant begins, in universal time. -/
def startOfDay (t : Timestamp) : Moment := (Moment.midnight t.localMoment.day).shift (-t.offset)

/-- The last nanosecond of the local day, in universal time. -/
def endOfDay (t : Timestamp) : Moment := Moment.shift ⟨t.localMoment.day, .last⟩ (-t.offset)

/-- Where the local day begins, as far as the calendar goes. -/
def startOfDay? (t : Timestamp) : Option Moment := t.startOfDay.inCalendar?

/-- The end of the local day, as far as the calendar goes. It is counted back from the midnight
after it, which the calendar must have, too. -/
def endOfDay? (t : Timestamp) : Option Moment :=
  if t.localMoment.day.next.inCalendar then t.endOfDay.inCalendar? else none

def compare (a b : Timestamp) : Ordering := a.utc.compare b.utc

end Timestamp

end FieldQuery

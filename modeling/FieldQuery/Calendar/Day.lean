/-!
# Calendar days

A day of the proleptic Gregorian calendar is held as its distance from 1 January 1970, so that
order and distance are those of integers.
-/
namespace FieldQuery

structure Day where
  number : Int
deriving DecidableEq, Repr

namespace Day

def isLeapYear (y : Int) : Bool := y % 4 == 0 && (y % 100 != 0 || y % 400 == 0)

def daysInMonth (y : Int) (m : Nat) : Nat :=
  if m = 2 then (if isLeapYear y then 29 else 28)
  else if m = 4 ∨ m = 6 ∨ m = 9 ∨ m = 11 then 30
  else 31

/-- Years the calendar covers. -/
def firstYear : Int := -262143

def lastYear : Int := 262142

/-- The day of a year, month and day that are taken as given. Years begin in March here, so that
the leap day comes last. -/
def ofCivil (y : Int) (m d : Nat) : Day :=
  let y := if m ≤ 2 then y - 1 else y
  let era := y / 400
  let yearOfEra := y % 400
  let dayOfYear : Int := ((153 * ((m + 9) % 12) + 2) / 5 + d - 1 : Nat)
  let dayOfEra := yearOfEra * 365 + yearOfEra / 4 - yearOfEra / 100 + dayOfYear
  ⟨era * 146097 + dayOfEra - 719468⟩

/-- The day of a year, month and day that exist. -/
def ofCivil? (y : Int) (m d : Nat) : Option Day :=
  if firstYear ≤ y ∧ y ≤ lastYear ∧ 1 ≤ m ∧ m ≤ 12 ∧ 1 ≤ d ∧ d ≤ daysInMonth y m then
    some (ofCivil y m d)
  else none

def civil (day : Day) : Int × Nat × Nat :=
  let n := day.number + 719468
  let era := n / 146097
  let dayOfEra := n % 146097
  let yearOfEra := (dayOfEra - dayOfEra / 1460 + dayOfEra / 36524 - dayOfEra / 146096) / 365
  let dayOfYear := dayOfEra - (365 * yearOfEra + yearOfEra / 4 - yearOfEra / 100)
  let mp := (5 * dayOfYear + 2) / 153
  let d := (dayOfYear - (153 * mp + 2) / 5 + 1).toNat
  let m := if mp < 10 then (mp + 3).toNat else (mp - 9).toNat
  let y := yearOfEra + era * 400
  (if m ≤ 2 then y + 1 else y, m, d)

def first : Day := ofCivil firstYear 1 1

def last : Day := ofCivil lastYear 12 31

def inCalendar (d : Day) : Bool := decide (first.number ≤ d.number ∧ d.number ≤ last.number)

def next (d : Day) : Day := ⟨d.number + 1⟩

/-- Days from Monday, which is 0. -/
def weekday (day : Day) : Nat := ((day.number + 3) % 7).toNat

def compare (a b : Day) : Ordering := Ord.compare a.number b.number

end Day

end FieldQuery

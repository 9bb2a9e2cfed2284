import FieldQuery.Calendar.Instant
import FieldQuery.Number.Reader
import FieldQuery.Text.Blank

/-!
# Layouts of dates and times

A `Layout` is a list of items to be read one after the other. Numbers may be written with fewer
digits than their width and with blanks in front, months go by their English names in any case, and
a blank in a layout stands for any number of blanks.
-/
namespace FieldQuery

namespace Calendar

open Text (trimStart)

/-- Reads a natural of `least` to `most` digits that fits 64 bits with sign. -/
def takeNumber (least most : Nat) (s : List Char) : Option (Nat × List Char) :=
  let ds := (s.take most).takeWhile Char.isDigit
  let n := digitsValue ds
  if ds.length < least || intLimit ≤ n then none else some (n, s.drop ds.length)

/-- Reads a fraction of a second behind its point, in nanoseconds; digits past the ninth are
dropped. -/
def takeNanos (s : List Char) : Option (Nat × List Char) := do
  let (n, rest) ← takeNumber 1 9 s
  let used := s.length - rest.length
  some (n * Nat.pow 10 (9 - used), rest.dropWhile Char.isDigit)

def takeChar (c : Char) : List Char → Option (List Char)
  | d :: rest => if d = c then some rest else none
  | [] => none

def takeName : List Char → List Char → Option (List Char)
  | [], s => some s
  | c :: cs, d :: rest => if d.toLower = c then takeName cs rest else none
  | _ :: _, [] => none

def monthNames : List (String × String) :=
  [("jan", "uary"), ("feb", "ruary"), ("mar", "ch"), ("apr", "il"), ("may", ""), ("jun", "e"),
    ("jul", "y"), ("aug", "ust"), ("sep", "tember"), ("oct", "ober"), ("nov", "ember"),
    ("dec", "ember")]

def weekdayNames : List String := ["mon", "tue", "wed", "thu", "fri", "sat", "sun"]

/-- The first of some names that a text begins with, counted from `n`. -/
def takeIndexed (s : List Char) : Nat → List String → Option (Nat × List Char)
  | _, [] => none
  | n, name :: names =>
    match takeName name.toList s with
    | some rest => some (n, rest)
    | none => takeIndexed s (n + 1) names

def takeMonth (s : List Char) : Option (Nat × List Char) :=
  takeIndexed s 1 (monthNames.map (·.1))

/-- A month by its name, short or in full. -/
def takeFullMonth (s : List Char) : Option (Nat × List Char) := do
  let (m, rest) ← takeMonth s
  match monthNames[m - 1]? with
  | some (_, suffix) => some (m, (takeName suffix.toList rest).getD rest)
  | none => some (m, rest)

end Calendar

inductive LayoutItem where
  | literal (c : Char)
  | blank
  | year | month | day
  | monthShort | monthFull
  | hour | hour12 | minute | second
  /-- A point and a fraction of a second, or nothing. -/
  | fraction
  /-- The letters `am` or `pm`. -/
  | halfDay
deriving DecidableEq, Repr

abbrev Layout := List LayoutItem

/-- What the items of a layout say. -/
structure DateParts where
  year : Option Int := none
  month : Option Nat := none
  day : Option Nat := none
  hour : Option Nat := none
  hour12 : Option Nat := none
  afternoon : Option Bool := none
  minute : Option Nat := none
  second : Option Nat := none
  nano : Option Nat := none
deriving DecidableEq, Repr

namespace DateParts

def toDay? (p : DateParts) : Option Day := do
  let y ← p.year
  let m ← p.month
  let d ← p.day
  Day.ofCivil? y m d

def hour? (p : DateParts) : Option Nat :=
  match p.hour with
  | some h => some h
  | none => do
    let h ← p.hour12
    let pm ← p.afternoon
    if 1 ≤ h ∧ h ≤ 12 then some (h % 12 + if pm then 12 else 0) else none

/-- The time of day, if hour and minute are there and exist. Seconds may be left out, and the
second 60 is a leap second. -/
def toClock? (p : DateParts) : Option Clock := do
  let h ← p.hour?
  let m ← p.minute
  let s := p.second.getD 0
  let nano := p.nano.getD 0
  if s = 60 then Clock.ofParts? h m 59 (Clock.billion + nano) else Clock.ofParts? h m s nano

def toMoment? (p : DateParts) : Option Moment := do
  let d ← p.toDay?
  let t ← p.toClock?
  some ⟨d, t⟩

end DateParts

namespace LayoutItem

open Calendar Text

/-- A number of at most two digits, blanks in front allowed. -/
def takeTwo (s : List Char) : Option (Nat × List Char) := takeNumber 1 2 (trimStart s)

/-- A year: four digits at most, or any number of digits behind a sign. -/
def takeYear (s : List Char) : Option (Int × List Char) :=
  match trimStart s with
  | '-' :: rest => (takeNumber 1 rest.length rest).map fun (n, r) => (-(n : Int), r)
  | '+' :: rest => (takeNumber 1 rest.length rest).map fun (n, r) => ((n : Int), r)
  | rest => (takeNumber 1 4 rest).map fun (n, r) => ((n : Int), r)

def read (p : DateParts) (s : List Char) : LayoutItem → Option (DateParts × List Char)
  | literal c => (takeChar c s).map ((p, ·))
  | blank => some (p, trimStart s)
  | year => (takeYear s).map fun (n, r) => ({ p with year := some n }, r)
  | month => (takeTwo s).map fun (n, r) => ({ p with month := some n }, r)
  | day => (takeTwo s).map fun (n, r) => ({ p with day := some n }, r)
  | monthShort => (takeMonth s).map fun (n, r) => ({ p with month := some n }, r)
  | monthFull => (takeFullMonth s).map fun (n, r) => ({ p with month := some n }, r)
  | hour => (takeTwo s).map fun (n, r) => ({ p with hour := some n }, r)
  | hour12 => (takeTwo s).map fun (n, r) => ({ p with hour12 := some n }, r)
  | minute => (takeTwo s).map fun (n, r) => ({ p with minute := some n }, r)
  | second => (takeTwo s).map fun (n, r) => ({ p with second := some n }, r)
  | fraction =>
    match s with
    | '.' :: rest => (takeNanos rest).map fun (n, r) => ({ p with nano := some n }, r)
    | _ => some (p, s)
  | halfDay =>
    match takeName ['a', 'm'] s with
    | some rest => some ({ p with afternoon := some false }, rest)
    | none => (takeName ['p', 'm'] s).map fun r => ({ p with afternoon := some true }, r)

end LayoutItem

/-- Reads the items of a layout, which must use up the text. -/
def Layout.readFrom (p : DateParts) : Layout → List Char → Option DateParts
  | [], s => if s.isEmpty then some p else none
  | item :: rest, s => do
    let (p, s) ← item.read p s
    Layout.readFrom p rest s

def Layout.read (l : Layout) (s : List Char) : Option DateParts := Layout.readFrom {} l s

end FieldQuery

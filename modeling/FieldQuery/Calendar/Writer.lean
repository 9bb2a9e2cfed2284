import FieldQuery.Calendar.Instant
import FieldQuery.Number.Decimal

/-!
# Text of days, times and instants

Years have four digits, or a sign and at least four if they lie outside 0 to 9999. Fractions of a
second have as many groups of three digits as they need, and a leap second is the second 60.
-/
namespace FieldQuery

def padded (width n : Nat) : List Char :=
  let ds := decimalDigits n
  List.replicate (width - ds.length) '0' ++ ds

def yearText (y : Int) : List Char :=
  if 0 ≤ y ∧ y ≤ 9999 then padded 4 y.toNat
  else (if y < 0 then '-' else '+') :: padded 4 y.natAbs

def Day.text (d : Day) : List Char :=
  let (y, m, day) := d.civil
  yearText y ++ ['-'] ++ padded 2 m ++ ['-'] ++ padded 2 day

namespace Clock

def shortText (t : Clock) : List Char :=
  padded 2 (t.second / 3600) ++ [':'] ++ padded 2 (t.second / 60 % 60) ++ [':'] ++
    padded 2 (t.second % 60 + t.nano / billion)

/-- The fraction of a second in no, three, six or nine digits. -/
def fractionText (t : Clock) : List Char :=
  let n := t.nano % billion
  if n = 0 then []
  else if n % 1000000 = 0 then '.' :: padded 3 (n / 1000000)
  else if n % 1000 = 0 then '.' :: padded 6 (n / 1000)
  else '.' :: padded 9 n

def text (t : Clock) : List Char := t.shortText ++ t.fractionText

/-- The time with milliseconds, the rest cut off. -/
def milliText (t : Clock) : List Char :=
  t.shortText ++ ['.'] ++ padded 3 (t.nano % billion / 1000000)

end Clock

def offsetText (seconds : Int) : List Char :=
  let n := seconds.natAbs
  (if seconds < 0 then '-' else '+') :: (padded 2 (n / 3600) ++ [':'] ++ padded 2 (n / 60 % 60))

namespace Moment

def textWith (sep : Char) (m : Moment) : List Char := m.day.text ++ [sep] ++ m.clock.text

def zonedText (m : Moment) : List Char := m.textWith 'T' ++ offsetText 0

def zuluText (m : Moment) : List Char := m.textWith 'T' ++ ['Z']

/-- Day and time with milliseconds, separated by a blank. -/
def milliText (m : Moment) : List Char := m.day.text ++ [' '] ++ m.clock.milliText

end Moment

/-- An instant as written: local day and time, and the offset. -/
def Timestamp.text (t : Timestamp) : List Char :=
  t.localMoment.textWith 'T' ++ offsetText t.offset

end FieldQuery

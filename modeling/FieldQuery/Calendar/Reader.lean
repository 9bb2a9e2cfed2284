import FieldQuery.Calendar.Layout

/-!
# Reading dates and times

Requests and records give instants in many spellings. `Timestamp.read?` tries them in a fixed
order: the two standard forms of the net, with an offset, then layouts without one, which are taken
as universal time; a bare date is its midnight. `Clock.read?` reads a time of day or takes that of
an instant, and drops the fraction.
-/
namespace FieldQuery

open Calendar Text

namespace Timestamp

def takePair (s : List Char) : Option (Nat × List Char) := takeNumber 2 2 s

/-- An offset: a sign, two digits of hours, a separator, two digits of minutes below 60. -/
def takeOffset (separator : List Char → Option (List Char)) (minusSigns : List Char)
    (s : List Char) : Option (Int × List Char) := do
  let (negative, rest) ← match s with
    | c :: rest =>
      if c = '+' then some (false, rest)
      else if c ∈ minusSigns then some (true, rest) else none
    | [] => none
  let (h, rest) ← takePair rest
  let rest ← separator rest
  let (m, rest) ← takePair rest
  if m < 60 then
    let seconds : Int := h * 3600 + m * 60
    some (if negative then -seconds else seconds, rest)
  else none

/-- An instant with an offset below a whole day, which the calendar has in universal time, too. -/
def ofParts? (p : DateParts) (offset : Int) : Option Timestamp := do
  let m ← p.toMoment?
  let t := ofLocal m offset
  if offset.natAbs < 86400 ∧ t.utc.day.inCalendar then some t else none

/-- The form `2025-01-10T08:30:00.25+02:00`: every number at full width, a `T` or a blank between
day and time, and `Z` or an offset with a colon. -/
def readNumeric? (s : List Char) : Option Timestamp := do
  let (y, s) ← takeNumber 4 4 s
  let s ← takeChar '-' s
  let (mo, s) ← takePair s
  let s ← takeChar '-' s
  let (d, s) ← takePair s
  let s ← match s with
    | c :: rest => if c = 't' || c = 'T' || c = ' ' then some rest else none
    | [] => none
  let (h, s) ← takePair s
  let s ← takeChar ':' s
  let (mi, s) ← takePair s
  let s ← takeChar ':' s
  let (sec, s) ← takePair s
  let (nano, s) ← match s with
    | '.' :: rest => (takeNanos rest).map fun (n, r) => (some n, r)
    | _ => some (none, s)
  let (offset, s) ← match s with
    | 'Z' :: rest => some (0, rest)
    | 'z' :: rest => some (0, rest)
    | _ => takeOffset (takeChar ':') ['-', '\u2212'] s
  if s.isEmpty then
    ofParts? { year := some y, month := some mo, day := some d, hour := some h,
               minute := some mi, second := some sec, nano := nano } offset
  else none

def takeBlanks (s : List Char) : Option (List Char) :=
  let rest := trimStart s
  if rest.length < s.length then some rest else none

def zoneHours : List (String × Int) :=
  [("gmt", 0), ("ut", 0), ("z", 0), ("edt", -4), ("est", -5), ("cdt", -5), ("cst", -6),
    ("mdt", -6), ("mst", -7), ("pdt", -7), ("pst", -8)]

/-- A zone by name or as an offset without a colon. A single letter other than J says nothing of
the offset and is taken as universal time. -/
def takeZone (s : List Char) : Option (Int × List Char) :=
  let name := (s.takeWhile Char.isAlpha).map Char.toLower
  let rest := s.dropWhile Char.isAlpha
  if name.isEmpty then takeOffset some ['-'] s
  else match zoneHours.find? (·.1.toList = name) with
    | some (_, h) => some (h * 3600, rest)
    | none => if name.length = 1 && name != ['j'] then some (0, rest) else none

/-- Skips one comment in parentheses, blanks in front included. Comments nest, and a backslash
keeps the next character from counting. -/
def skipComment : Nat → List Char → Option (List Char)
  | _, [] => none
  | 0, c :: rest => if c = '(' then skipComment 1 rest else none
  | depth + 1, '\\' :: rest =>
    match rest with
    | _ :: rest => skipComment (depth + 1) rest
    | [] => none
  | depth + 1, c :: rest =>
    if c = '(' then skipComment (depth + 2) rest
    else if c = ')' then (if depth = 0 then some rest else skipComment depth rest)
    else skipComment (depth + 1) rest

def skipComments : Nat → List Char → List Char
  | 0, s => s
  | fuel + 1, s =>
    match skipComment 0 (trimStart s) with
    | some rest => skipComments fuel rest
    | none => s

/-- The year behind two digits is the one nearest to the present, behind three it counts from
1900. -/
def fullYear (digits n : Nat) : Int :=
  if digits = 2 then (if n < 50 then n + 2000 else n + 1900)
  else if digits = 3 then n + 1900
  else n

/-- The form of mail headers, `Fri, 10 Jan 2025 15:04:05 +0000`. Weekday and seconds may be left
out, but a weekday must be that of the day. -/
def readMail? (s : List Char) : Option Timestamp := do
  let s := trimStart s
  let (weekday, s) ← match takeIndexed s 0 weekdayNames with
    | some (n, rest) => (takeChar ',' rest).map fun r => (some n, r)
    | none => some (none, s)
  let (d, s) ← takeNumber 1 2 (trimStart s)
  let s ← takeBlanks s
  let (mo, s) ← takeMonth s
  let s ← takeBlanks s
  let (y, after) ← takeNumber 2 s.length s
  let year := fullYear (s.length - after.length) y
  let s ← takeBlanks after
  let (h, s) ← takePair s
  let s ← takeChar ':' (trimStart s)
  let (mi, s) ← takePair (trimStart s)
  let (sec, s) ← match takeChar ':' (trimStart s) with
    | some rest => (takePair rest).map fun (n, r) => (some n, r)
    | none => some (none, s)
  let s ← takeBlanks s
  let (offset, s) ← takeZone s
  if (skipComments s.length s).isEmpty then
    let t ← ofParts? { year := some year, month := some mo, day := some d, hour := some h,
                       minute := some mi, second := sec } offset
    match weekday with
    | some n => if t.localMoment.day.weekday = n then some t else none
    | none => some t
  else none

end Timestamp

namespace Calendar

open LayoutItem

def isoDay : Layout := [year, .literal '-', month, .literal '-', day]

def slashDay : Layout := [year, .literal '/', month, .literal '/', day]

def monthFirstDay : Layout := [month, .literal '/', day, .literal '/', year]

def hourMinute : Layout := [hour, .literal ':', minute]

def hourMinuteSecond : Layout := hourMinute ++ [.literal ':', second]

def clock12 : Layout := [hour12, .literal ':', minute]

/-- Layouts of a day with a time of day, in the order they are tried. -/
def momentLayouts : List Layout :=
  [isoDay ++ [.literal 'T'] ++ hourMinuteSecond ++ [fraction],
    isoDay ++ [.literal 'T'] ++ hourMinuteSecond,
    isoDay ++ [blank] ++ hourMinuteSecond ++ [fraction],
    isoDay ++ [blank] ++ hourMinuteSecond,
    isoDay ++ [.literal 'T'] ++ hourMinute,
    isoDay ++ [blank] ++ hourMinute,
    slashDay ++ [blank] ++ hourMinuteSecond,
    monthFirstDay ++ [blank] ++ hourMinuteSecond]

def dayLayouts : List Layout :=
  [isoDay, slashDay, monthFirstDay,
    [day, .literal '-', monthShort, .literal '-', year],
    [monthShort, blank, day, .literal ',', blank, year],
    [monthFull, blank, day, .literal ',', blank, year]]

def clockLayouts : List Layout :=
  [hourMinuteSecond ++ [fraction], hourMinuteSecond, hourMinute,
    clock12 ++ [.literal ':', second, blank, halfDay], clock12 ++ [blank, halfDay],
    clock12 ++ [halfDay]]

end Calendar

def Moment.read? (s : List Char) : Option Moment :=
  momentLayouts.findSome? fun l => (l.read s).bind (·.toMoment?)

def Day.read? (s : List Char) : Option Day :=
  dayLayouts.findSome? fun l => (l.read s).bind (·.toDay?)

/-- Reads an instant in any of its spellings. -/
def Timestamp.read? (s : List Char) : Option Timestamp :=
  let s := trim s
  if s.isEmpty then none
  else (readNumeric? s).or <| (readMail? s).or <|
    ((Moment.read? s).map (ofLocal · 0)).or ((Day.read? s).map fun d => ofLocal (.midnight d) 0)

/-- Reads a time of day in one of its own layouts, fraction included. -/
def Clock.readBare? (s : List Char) : Option Clock :=
  clockLayouts.findSome? fun l => (l.read s).bind (·.toClock?)

/-- Reads a time of day, or that of an instant as written, in whole seconds. -/
def Clock.read? (s : List Char) : Option Clock :=
  let s := trim s
  ((readBare? s).or ((Timestamp.read? s).map (·.localMoment.clock))).map (·.wholeSeconds)

end FieldQuery

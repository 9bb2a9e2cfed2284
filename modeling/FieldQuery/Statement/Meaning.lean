import FieldQuery.Statement.Plan

/-!
# What statements mean

What a test says of a stored value, in the three-valued logic of databases: a test is true, false or
unknown, and it is unknown where a null is compared. What databases differ in (the lower case of a
text, which letters a pattern takes for the same, how times are read) is a parameter, so that a
statement on meaning names what it relies on.
-/
namespace FieldQuery

/-- A value in a column, or one that was bound. Truth values are kept as 0 and 1. -/
inductive Datum where
  | null
  | int (n : Int)
  | real (x : Number)
  | text (s : String)
  | instant (m : Moment)
deriving DecidableEq, Repr

/-- The order of a number and an integer; none if the number is not a number. -/
def Number.compareInt? (x : Number) (n : Int) : Option Ordering :=
  if x.isNaN then none
  else if x.isInfinite then some (if x.negative then .lt else .gt)
  else
    let (m, q) := x.parts
    let size : Int := m * Nat.pow 2 q.toNat
    some (compare (if x.negative then -size else size) (n * Nat.pow 2 (-q).toNat))

namespace Datum

def ofValue : SqlValue → Datum
  | .null => null
  | .int n => int n
  | .number x => real x
  | .text s => text s
  | .bool b => int (if b then 1 else 0)
  | .instant m => instant m

/-- Numbers come before texts, and texts before instants. -/
def family : Datum → Nat
  | null => 0
  | int _ | real _ => 1
  | text _ => 2
  | instant _ => 3

/-- The order of two values; none if one is null or not a number. -/
def compare? : Datum → Datum → Option Ordering
  | null, _ | _, null => none
  | int n, int k => some (compare n k)
  | int n, real x => (x.compareInt? n).map (·.swap)
  | real x, int n => x.compareInt? n
  | real x, real y => x.compare? y
  | text s, text t => some (compare s t)
  | instant m, instant n => some (m.compare n)
  | a, b => some (compare a.family b.family)

/-- The order in which rows are sorted, where null comes first. -/
def sortCompare (a b : Datum) : Ordering :=
  (a.compare? b).getD (compare (a ≠ null : Bool) (b ≠ null : Bool))

end Datum

structure SqlRules where
  lower : Datum → Datum
  /-- Whether a pattern takes two characters for the same. -/
  alike : Char → Char → Bool
  timeOfDay : Datum → Datum
  /-- A stored instant in the form in which instants are bound. -/
  instant : Datum → Datum

namespace SqlRules

/-- Whether a text matches a pattern: `%` stands for any text, `_` for any character, and a
character after a backslash for itself. -/
def matchesPattern (r : SqlRules) : List Char → List Char → Bool
  | [], text => text.isEmpty
  | '%' :: pattern, text => anySuffix (matchesPattern r pattern) text
  | '_' :: pattern, text =>
    match text with
    | [] => false
    | _ :: rest => matchesPattern r pattern rest
  | '\\' :: p :: pattern, text =>
    match text with
    | [] => false
    | c :: rest => r.alike p c && matchesPattern r pattern rest
  | p :: pattern, text =>
    match text with
    | [] => false
    | c :: rest => r.alike p c && matchesPattern r pattern rest
where
  /-- Whether a property holds of some end of a text. -/
  anySuffix (holds : List Char → Bool) : List Char → Bool
    | [] => holds []
    | c :: rest => holds (c :: rest) || anySuffix holds rest

/-- Whether a value matches a pattern; unknown unless both are texts. -/
def like? (r : SqlRules) : Datum → Datum → Option Bool
  | .text s, .text pattern => some (r.matchesPattern pattern.toList s.toList)
  | _, _ => none

end SqlRules

namespace Truth

/-- False if either is, else unknown if either is. -/
def and : Option Bool → Option Bool → Option Bool
  | some false, _ | _, some false => some false
  | some true, some true => some true
  | _, _ => none

def or (a b : Option Bool) : Option Bool := (and (a.map (!·)) (b.map (!·))).map (!·)

end Truth

/-- The value of an expression where the column holds a value. -/
def SqlExpr.value (r : SqlRules) (d : Dialect) (stored : Datum) : SqlExpr → Datum
  | column _ => stored
  | timeOfDay _ => r.timeOfDay stored
  | instant _ =>
    match d with
    | .sqlite => r.instant stored
    | .postgres => stored
  | lower e => r.lower (e.value r d stored)
  | bound v => .ofValue v

namespace SqlTest

/-- Whether a value stands in some order to another one; unknown if they cannot be compared. -/
def compares (op : Comparison) (a b : Datum) : Option Bool := (a.compare? b).map op.holds

/-- Whether a test holds where the column holds a value. -/
def truth (r : SqlRules) (d : Dialect) (stored : Datum) (t : SqlTest) : Option Bool :=
  let value (e : SqlExpr) : Datum := e.value r d stored
  match t with
  | compare op left right => compares op (value left) (value right)
  | between e low high =>
    Truth.and (compares .gte (value e) (value low)) (compares .lte (value e) (value high))
  | outside e low high =>
    Truth.or (compares .lt (value e) (value low)) (compares .gt (value e) (value high))
  | like e pattern negated =>
    (r.like? (r.lower (value e)) (.ofValue pattern)).map (· != negated)
  | isNull e => some (value e = .null)
  | isNotNull e => some (value e ≠ .null)
  | isBlank e =>
    Truth.or (some (value e = .null)) (compares .eq (value e) (.text ""))
  | isNotBlank e =>
    Truth.and (some (value e ≠ .null)) (compares .ne (value e) (.text ""))

end SqlTest

/-- A row of the joined tables. -/
abbrev TableRow := ColumnRef → Datum

namespace OrderTerm

def value (r : SqlRules) (row : TableRow) (t : OrderTerm) : Datum :=
  match t.key with
  | .isNull c => .int (if row c = .null then 1 else 0)
  | .folded c => r.lower (row c)
  | .plain c => row c

/-- The order of two rows by several terms; the first difference decides. -/
def compareRows (r : SqlRules) (a b : TableRow) : List OrderTerm → Ordering
  | [] => .eq
  | t :: rest =>
    let o := (t.value r a).sortCompare (t.value r b)
    (match t.direction with
      | .asc => o
      | .desc => o.swap).then (compareRows r a b rest)

end OrderTerm

end FieldQuery

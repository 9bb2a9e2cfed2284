import FieldQuery.Number.Basic

/-!
# Decimal text of numbers

A number is written with the fewest decimal digits that read back to it. `Number.shortest` selects
the digits by exact arithmetic, and a `DecimalStyle` says how they are laid out.
-/
namespace FieldQuery

/-- The value `digits * 10 ^ exponent`. -/
structure Decimal where
  digits : Nat
  exponent : Int
deriving DecidableEq, Repr

/-- Which of two equally near decimals is taken. -/
inductive Tie where
  | toEven
  | up
deriving DecidableEq, Repr

namespace Number

/-- A finite size as a decimal, exactly, with the unit in the last binary place as a multiple of
the same power of ten. -/
def exactDecimal (x : Number) : Decimal × Nat :=
  let (m, q) := x.parts
  if 0 ≤ q then (⟨m * Nat.pow 2 q.toNat, 0⟩, Nat.pow 2 q.toNat)
  else (⟨m * Nat.pow 5 (-q).toNat, q⟩, Nat.pow 5 (-q).toNat)

/-- Whether the gap to the number below is half of the gap to the number above. -/
def narrowBelow (x : Number) : Bool := x.code % binade == 0 && 2 * binade ≤ x.code

/-- Whether a natural, taken at the scale of `exactDecimal`, lies among the reals that round to
the number: within half a gap on each side, the ends included for an even code. -/
def readsBack (x : Number) (n : Nat) : Bool :=
  let (d, gap) := x.exactDecimal
  let low := 4 * d.digits - if x.narrowBelow then gap else 2 * gap
  let high := 4 * d.digits + 2 * gap
  if x.code % 2 = 0 then low ≤ 4 * n && 4 * n ≤ high else low < 4 * n && 4 * n < high

/-- The multiple of a power of ten that reads back and lies nearest, among the two neighbours of
the value. -/
def nearestOnGrid (x : Number) (tie : Tie) (unit : Nat) : Option Nat :=
  let d := x.exactDecimal.1.digits
  let c := d / unit
  match x.readsBack (c * unit), x.readsBack ((c + 1) * unit) with
  | false, false => none
  | true, false => some c
  | false, true => some (c + 1)
  | true, true =>
    match compare (2 * d) ((2 * c + 1) * unit) with
    | .lt => some c
    | .gt => some (c + 1)
    | .eq => match tie with
      | .up => some (c + 1)
      | .toEven => some (c + c % 2)

/-- Tries grids from coarse to fine; `places` counts the decimal places still to be dropped. -/
def searchGrids (x : Number) (tie : Tie) (exponent : Int) : Nat → Decimal
  | 0 => ⟨x.exactDecimal.1.digits, exponent⟩
  | places + 1 =>
    match x.nearestOnGrid tie (Nat.pow 10 (places + 1)) with
    | some c => ⟨c, exponent + (places + 1 : Nat)⟩
    | none => searchGrids x tie exponent places

end Number

def Decimal.stripped (d : Decimal) : Nat → Decimal
  | 0 => d
  | fuel + 1 =>
    if d.digits % 10 = 0 && d.digits != 0 then
      Decimal.stripped ⟨d.digits / 10, d.exponent + 1⟩ fuel
    else d

def decimalDigits (n : Nat) : List Char := Nat.toDigits 10 n

/-- The shortest decimal that reads back to a finite number other than zero. -/
def Number.shortest (x : Number) (tie : Tie) : Decimal :=
  let d := x.exactDecimal.1
  let places := (decimalDigits d.digits).length
  let found := x.searchGrids tie d.exponent (places - 1)
  found.stripped places

/-- How decimal digits are laid out. Numbers whose leading digit stands for `10 ^ e` are written
positionally for `plainFrom ≤ e ≤ plainTo`, otherwise with an exponent. -/
structure DecimalStyle where
  plainFrom : Option Int
  plainTo : Option Int
  /-- Whether a positional number without a fraction ends in `.0`. -/
  pointZero : Bool
  /-- Whether a positive exponent carries a plus sign. -/
  exponentPlus : Bool
  tie : Tie

namespace DecimalStyle

def isPlain (st : DecimalStyle) (e : Int) : Bool :=
  (st.plainFrom.map (decide <| · ≤ e)).getD true && (st.plainTo.map (decide <| e ≤ ·)).getD true

def zeros (n : Nat) : List Char := List.replicate n '0'

/-- Digits with the point `point` places after their beginning. -/
def plain (st : DecimalStyle) (ds : List Char) (point : Int) : List Char :=
  if point ≤ 0 then ['0', '.'] ++ zeros (-point).toNat ++ ds
  else if point < ds.length then ds.take point.toNat ++ ['.'] ++ ds.drop point.toNat
  else ds ++ zeros (point.toNat - ds.length) ++ if st.pointZero then ['.', '0'] else []

def scientific (st : DecimalStyle) (ds : List Char) (e : Int) : List Char :=
  let mantissa := match ds with
    | [] => []
    | [d] => [d]
    | d :: rest => d :: '.' :: rest
  let sign := if e < 0 then ['-'] else if st.exponentPlus then ['+'] else []
  mantissa ++ ['e'] ++ sign ++ decimalDigits e.natAbs

def ofDecimal (st : DecimalStyle) (d : Decimal) : List Char :=
  let ds := decimalDigits d.digits
  let point : Int := ds.length + d.exponent
  if st.isPlain (point - 1) then st.plain ds point else st.scientific ds (point - 1)

def render (st : DecimalStyle) (x : Number) : String :=
  if x.isNaN then "NaN"
  else
    let size :=
      if x.isInfinite then ['i', 'n', 'f']
      else if x.isZero then (if st.pointZero then ['0', '.', '0'] else ['0'])
      else st.ofDecimal (x.shortest st.tie)
    String.ofList (if x.negative then '-' :: size else size)

end DecimalStyle

namespace Number

/-- Numbers inside JSON are positional from `0.00001` to below `1e+16`, and always show a fraction
or an exponent. -/
def jsonStyle : DecimalStyle := ⟨some (-5), some 15, true, true, .toEven⟩

/-- Displayed values are always positional and show a fraction only if there is one. -/
def displayStyle : DecimalStyle := ⟨none, none, false, false, .up⟩

/-- Bounds of a rejected range are positional from `0.0001` to below `1e16`. -/
def boundStyle : DecimalStyle := ⟨some (-4), some 15, true, false, .up⟩

def display (x : Number) : String := displayStyle.render x

end Number

end FieldQuery

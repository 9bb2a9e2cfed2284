import FieldQuery.Json.Basic
import FieldQuery.Number.Reader

/-!
# Reading JSON numbers

A numeral without fraction and exponent is whole if it fits 64 bits. Any other numeral takes as
many of its leading digits as fit 64 bits and scales them by one power of ten, so the result is
rounded up to twice. A numeral too large for a finite number has no value.
-/
namespace FieldQuery

structure NumeralText where
  negative : Bool
  whole : List Char
  /-- The digits after the point, none without a point. -/
  fraction : Option (List Char)
  exponent : Option Int
deriving DecidableEq, Repr

namespace NumeralText

/-- Takes digits as long as the value fits 64 bits: the value, and the digits left over. -/
def takeFitting : Nat → List Char → Nat × List Char
  | n, [] => (n, [])
  | n, d :: rest =>
    if 10 * n + digitValue d < wordLimit then takeFitting (10 * n + digitValue d) rest
    else (n, d :: rest)

/-- Divides by `10 ^ 308` until the exponent is within reach, `tries` times at most; by then
nothing is left. -/
def scaleDown : Nat → Number → Int → Number
  | 0, x, _ => ⟨x.negative, 0⟩
  | tries + 1, x, e =>
    if x.isZero then x
    else if -308 ≤ e then x.div (Number.ofDecimal false 1 (-e))
    else scaleDown tries (x.div (Number.ofDecimal false 1 308)) (e + 308)

/-- The natural `n`, scaled by `10 ^ e` in one floating-point operation; none beyond the greatest
finite number. -/
def scale (n : Nat) (e : Int) : Option Number :=
  let x := Number.ofInt n
  if e < 0 then some (scaleDown 4 x e)
  else if x.isZero then some x
  else if e ≤ 308 then
    let y := x.mul (Number.ofDecimal false 1 e)
    if y.isFinite then some y else none
  else none

/-- The scaled value of a numeral, without its sign. -/
def size? (t : NumeralText) : Option Number :=
  let (n, long) := takeFitting 0 t.whole
  let fraction := t.fraction.getD []
  let (m, rest) := takeFitting n fraction
  let used := fraction.length - rest.length
  scale m ((long.length : Int) - used + t.exponent.getD 0)

def value? (t : NumeralText) : Option Numeral :=
  let n := digitsValue t.whole
  let signed (x : Number) : Numeral := .real (if t.negative then x.neg else x)
  if t.fraction.isNone && t.exponent.isNone && n < wordLimit then
    if !t.negative then some (.int n)
    else if n = 0 || intLimit < n then some (signed (Number.ofInt n))
    else some (.int (-n))
  else t.size?.map signed

end NumeralText

end FieldQuery

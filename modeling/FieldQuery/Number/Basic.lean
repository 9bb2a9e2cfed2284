import FieldQuery.Number.Word

/-!
# Binary numbers

Numbers of a request or a record are 64-bit binary floating-point numbers. A number is held as a
sign and a code, the other 63 bits: codes ascend with the size of the number, so order is order of
codes, and every operation is exact integer arithmetic followed by one rounding.
-/
namespace FieldQuery

/-- A 64-bit floating-point number. -/
structure Number where
  negative : Bool
  code : Nat
deriving DecidableEq, Repr

namespace Number

/-- The number of codes from a power of two up to the next. -/
def binade : Nat := 0x10000000000000

/-- The code of infinity; greater codes are not numbers. -/
def infinityCode : Nat := 0x7FF * binade

def isNaN (x : Number) : Bool := infinityCode < x.code

def isInfinite (x : Number) : Bool := x.code == infinityCode

def isFinite (x : Number) : Bool := x.code < infinityCode

def isZero (x : Number) : Bool := x.code == 0

def nan : Number := ⟨false, 0x7FF * binade + binade / 2⟩

def infinity (negative : Bool) : Number := ⟨negative, infinityCode⟩

def zero : Number := ⟨false, 0⟩

def neg (x : Number) : Number := ⟨!x.negative, x.code⟩

def toBits (x : Number) : Nat := x.code + if x.negative then intLimit else 0

def ofBits (b : Nat) : Number := ⟨intLimit ≤ b, b % intLimit⟩

/-- The two parts `m` and `q` of a finite size `m * 2 ^ q`. -/
def parts (x : Number) : Nat × Int :=
  let e : Nat := x.code / binade
  let f : Nat := x.code % binade
  if e = 0 then (f, -1074) else (binade + f, (e : Int) - 1075)

/-- The quotient of two naturals to the nearest natural, a half to the even neighbour. -/
def roundQuotient (num den : Nat) : Nat :=
  let q := num / den
  let r := num % den
  if 2 * r < den then q else if den < 2 * r then q + 1 else q + q % 2

/-- The greatest `e` with `2 ^ e ≤ num / den`, for positive arguments. -/
def binaryExponent (num den : Nat) : Int :=
  let e : Int := (num.log2 : Int) - (den.log2 : Int)
  if num * Nat.pow 2 (-e).toNat < den * Nat.pow 2 e.toNat then e - 1 else e

/-- The number nearest to a quotient, a tie to the even code. -/
def ofRatio (negative : Bool) (num den : Nat) : Number :=
  if num = 0 then ⟨negative, 0⟩
  else
    let q := max (binaryExponent num den - 52) (-1074)
    let m := roundQuotient (num * Nat.pow 2 (-q).toNat) (den * Nat.pow 2 q.toNat)
    ⟨negative, min ((q + 1074).toNat * binade + m) infinityCode⟩

def ofInt (n : Int) : Number := ofRatio (n < 0) n.natAbs 1

/-- The number nearest to `digits * 10 ^ exponent`. Beyond a thousand places the answer is
infinity or zero whatever the digits are, so the power is not formed. -/
def ofDecimal (negative : Bool) (digits : Nat) (exponent : Int) : Number :=
  if digits = 0 then ⟨negative, 0⟩
  else if 1000 < exponent then infinity negative
  else if exponent + (digits.log2 : Int) < -2000 then ⟨negative, 0⟩
  else ofRatio negative (digits * Nat.pow 10 exponent.toNat) (Nat.pow 10 (-exponent).toNat)

/-- The product of two finite numbers, rounded once. -/
def mul (x y : Number) : Number :=
  let (m, q) := x.parts
  let (n, r) := y.parts
  ofRatio (x.negative != y.negative) (m * n * Nat.pow 2 (q + r).toNat)
    (Nat.pow 2 (-(q + r)).toNat)

/-- The quotient of two finite numbers, the second not zero, rounded once. -/
def div (x y : Number) : Number :=
  let (m, q) := x.parts
  let (n, r) := y.parts
  ofRatio (x.negative != y.negative) (m * Nat.pow 2 (q - r).toNat)
    (n * Nat.pow 2 (r - q).toNat)

/-- The integer of the same size order: numbers compare as their ranks, and both zeros have
rank 0. -/
def rank (x : Number) : Int := if x.negative then -(x.code : Int) else x.code

/-- The order of two numbers; none if one of them is not a number. -/
def compare? (x y : Number) : Option Ordering :=
  if x.isNaN || y.isNaN then none else some (compare x.rank y.rank)

/-- A rank that tells all numbers apart: minus zero comes before zero, and what is not a number
comes at the ends. -/
def totalRank (x : Number) : Int := if x.negative then -(x.code : Int) - 1 else x.code

def totalCompare (x y : Number) : Ordering := compare x.totalRank y.totalRank

def toInt? (x : Number) : Option Int :=
  if !x.isFinite then none
  else
    let (m, q) := x.parts
    let size : Option Nat :=
      if 0 ≤ q then some (m * Nat.pow 2 q.toNat)
      else if m % Nat.pow 2 (-q).toNat = 0 then some (m / Nat.pow 2 (-q).toNat) else none
    size.map fun n => if x.negative then -(n : Int) else n

end Number

end FieldQuery

import FieldQuery.Number.Basic

/-!
# Reading decimal text as a number

The accepted texts are an optional sign followed by digits with an optional point and exponent, or
by one of the names `inf`, `infinity` and `nan` in any case. At least one digit must stand before
or after the point. The value is the number nearest to the decimal.
-/
namespace FieldQuery

def digitValue (c : Char) : Nat := c.toNat - '0'.toNat

def digitsValue (ds : List Char) : Nat := ds.foldl (fun n c => 10 * n + digitValue c) 0

/-- An optional sign: whether it is a minus, and the rest. -/
def takeSign : List Char → Bool × List Char
  | '-' :: rest => (true, rest)
  | '+' :: rest => (false, rest)
  | s => (false, s)

namespace Number

/-- An exponent part that makes up the whole text, the empty one being zero. -/
def readExponent : List Char → Option Int
  | [] => some 0
  | c :: rest =>
    if c = 'e' || c = 'E' then
      let (negative, ds) := takeSign rest
      if ds.isEmpty || !ds.all Char.isDigit then none
      else some (if negative then -(digitsValue ds : Int) else digitsValue ds)
    else none

def readUnsigned (negative : Bool) (s : List Char) : Option Number :=
  let whole := s.takeWhile Char.isDigit
  let rest := s.dropWhile Char.isDigit
  let (fraction, tail) := match rest with
    | '.' :: r => (r.takeWhile Char.isDigit, r.dropWhile Char.isDigit)
    | r => ([], r)
  if whole.isEmpty && fraction.isEmpty then none
  else (readExponent tail).map fun e =>
    ofDecimal negative (digitsValue (whole ++ fraction)) (e - fraction.length)

def read? (s : List Char) : Option Number :=
  let (negative, rest) := takeSign s
  let name := rest.map Char.toLower
  if name = "nan".toList then some ⟨negative, nan.code⟩
  else if name = "inf".toList || name = "infinity".toList then some (infinity negative)
  else readUnsigned negative rest

end Number

end FieldQuery

/-!
# Base64

Octets as text over 64 characters, four for every three octets, padded with `=`. Reading is strict:
the length is a multiple of four, padding stands only at the end, and the bits that padding leaves
over are zero. Main statement: what was written in the standard alphabet is read back.
-/
namespace FieldQuery.Text.Base64

/-- Which characters stand for the values 62 and 63. -/
inductive Alphabet where
  | standard
  | urlSafe
deriving DecidableEq, Repr

namespace Alphabet

def digit62 : Alphabet → Char
  | standard => '+'
  | urlSafe => '-'

def digit63 : Alphabet → Char
  | standard => '/'
  | urlSafe => '_'

def digit (a : Alphabet) (n : Nat) : Char :=
  if n < 26 then Char.ofNat ('A'.toNat + n)
  else if n < 52 then Char.ofNat ('a'.toNat + (n - 26))
  else if n < 62 then Char.ofNat ('0'.toNat + (n - 52))
  else if n = 62 then a.digit62
  else a.digit63

def value? (a : Alphabet) (c : Char) : Option Nat :=
  if 'A' ≤ c ∧ c ≤ 'Z' then some (c.toNat - 'A'.toNat)
  else if 'a' ≤ c ∧ c ≤ 'z' then some (c.toNat - 'a'.toNat + 26)
  else if '0' ≤ c ∧ c ≤ '9' then some (c.toNat - '0'.toNat + 52)
  else if c = a.digit62 then some 62
  else if c = a.digit63 then some 63
  else none

end Alphabet

/-- Writes octets in the standard alphabet. -/
def encode : List UInt8 → List Char
  | [] => []
  | [x] =>
    let n := x.toNat
    [Alphabet.standard.digit (n / 4), Alphabet.standard.digit (n % 4 * 16), '=', '=']
  | [x, y] =>
    let n := x.toNat * 256 + y.toNat
    [Alphabet.standard.digit (n / 1024), Alphabet.standard.digit (n / 16 % 64),
      Alphabet.standard.digit (n % 16 * 4), '=']
  | x :: y :: z :: rest =>
    let n := (x.toNat * 256 + y.toNat) * 256 + z.toNat
    Alphabet.standard.digit (n / 262144) :: Alphabet.standard.digit (n / 4096 % 64) ::
      Alphabet.standard.digit (n / 64 % 64) :: Alphabet.standard.digit (n % 64) :: encode rest

/-- The last four characters, when they are padded. -/
def decodePadded (a : Alphabet) (c d e f : Char) : Option (List UInt8) :=
  if f ≠ '=' then none
  else if e = '=' then do
    let x ← a.value? c
    let y ← a.value? d
    if y % 16 = 0 then some [UInt8.ofNat (x * 4 + y / 16)] else none
  else do
    let x ← a.value? c
    let y ← a.value? d
    let z ← a.value? e
    if z % 4 = 0 then
      some [UInt8.ofNat (x * 4 + y / 16), UInt8.ofNat (y % 16 * 16 + z / 4)]
    else none

/-- Four characters without padding. -/
def decodeQuad (a : Alphabet) (c d e f : Char) : Option (List UInt8) := do
  let x ← a.value? c
  let y ← a.value? d
  let z ← a.value? e
  let w ← a.value? f
  some [UInt8.ofNat (x * 4 + y / 16), UInt8.ofNat (y % 16 * 16 + z / 4),
    UInt8.ofNat (z % 4 * 64 + w)]

def decode? (a : Alphabet) : List Char → Option (List UInt8)
  | [] => some []
  | [c, d, e, f] => (decodeQuad a c d e f).or (decodePadded a c d e f)
  | c :: d :: e :: f :: rest => do
    let front ← decodeQuad a c d e f
    let back ← decode? a rest
    some (front ++ back)
  | _ => none

theorem Alphabet.value?_digit (a : Alphabet) : ∀ n < 64, a.value? (a.digit n) = some n := by
  cases a <;> decide

theorem decodeQuad_digits (a : Alphabet) {p q r s : Nat} (hp : p < 64) (hq : q < 64) (hr : r < 64)
    (hs : s < 64) :
    decodeQuad a (a.digit p) (a.digit q) (a.digit r) (a.digit s) =
      some [UInt8.ofNat (p * 4 + q / 16), UInt8.ofNat (q % 16 * 16 + r / 4),
        UInt8.ofNat (r % 4 * 64 + s)] := by
  simp [decodeQuad, a.value?_digit _ hp, a.value?_digit _ hq, a.value?_digit _ hr,
    a.value?_digit _ hs]

theorem decodeQuad_pad (a : Alphabet) (c d e : Char) : decodeQuad a c d e '=' = none := by
  have h : a.value? '=' = none := by cases a <;> decide
  simp [decodeQuad, h]

theorem ofNat_eq {n : Nat} {x : UInt8} (h : n = x.toNat) : UInt8.ofNat n = x := by
  rw [h, UInt8.ofNat_toNat]

/-- What was written in the standard alphabet is read back. -/
theorem decode?_encode (bs : List UInt8) : decode? .standard (encode bs) = some bs := by
  have pad : ∀ n < 64, Alphabet.standard.digit n ≠ '=' := by decide
  fun_induction encode bs with
  | case1 => rfl
  | case2 x n =>
    have hx := x.toNat_lt
    simp only [decode?, decodeQuad_pad, Option.none_or, decodePadded]
    rw [Alphabet.value?_digit _ _ (by omega), Alphabet.value?_digit _ _ (by omega)]
    have zero : n % 4 * 16 % 16 = 0 := by omega
    simp only [ne_eq, not_true_eq_false, if_false, if_true, Option.bind_eq_bind, Option.bind_some,
      zero]
    rw [ofNat_eq (x := x) (by omega)]
  | case3 x y n =>
    have hx := x.toNat_lt
    have hy := y.toNat_lt
    simp only [decode?, decodeQuad_pad, Option.none_or, decodePadded]
    rw [Alphabet.value?_digit _ _ (by omega), Alphabet.value?_digit _ _ (by omega),
      Alphabet.value?_digit _ _ (by omega)]
    have zero : n % 16 * 4 % 4 = 0 := by omega
    simp only [ne_eq, not_true_eq_false, if_false, if_true, Option.bind_eq_bind, Option.bind_some,
      zero, pad _ (show n % 16 * 4 < 64 by omega)]
    rw [ofNat_eq (x := x) (by omega), ofNat_eq (x := y) (by omega)]
  | case4 x y z rest n ih =>
    have hx := x.toNat_lt
    have hy := y.toNat_lt
    have hz := z.toNat_lt
    have quad := decodeQuad_digits .standard (show n / 262144 < 64 by omega)
      (show n / 4096 % 64 < 64 by omega) (show n / 64 % 64 < 64 by omega)
      (show n % 64 < 64 by omega)
    rw [ofNat_eq (x := x) (by omega), ofNat_eq (x := y) (by omega),
      ofNat_eq (x := z) (by omega)] at quad
    cases more : encode rest with
    | nil =>
      rw [more, decode?] at ih
      rw [decode?, quad, ← Option.some.inj ih]
      rfl
    | cons c cs =>
      rw [more] at ih
      rw [decode?, quad, ih]
      · rfl
      · simp

end FieldQuery.Text.Base64

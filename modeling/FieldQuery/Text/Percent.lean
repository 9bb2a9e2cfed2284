import FieldQuery.Text.Utf8

/-!
# Percent escapes

In a URL an octet may be written as `%` and two hexadecimal digits. A `%` that no two hexadecimal
digits follow stands for itself.
-/
namespace FieldQuery.Text.Percent

def hexValue? (b : UInt8) : Option Nat :=
  let n := b.toNat
  if 0x30 ≤ n ∧ n ≤ 0x39 then some (n - 0x30)
  else if 0x41 ≤ n ∧ n ≤ 0x46 then some (n - 0x41 + 10)
  else if 0x61 ≤ n ∧ n ≤ 0x66 then some (n - 0x61 + 10)
  else none

def percent : UInt8 := 0x25

/-- Replaces the escapes among octets by the octets they stand for. -/
def unescape : List UInt8 → List UInt8
  | x :: y :: z :: rest =>
    if x = percent then
      match hexValue? y, hexValue? z with
      | some h, some l => UInt8.ofNat (h * 16 + l) :: unescape rest
      | _, _ => x :: unescape (y :: z :: rest)
    else x :: unescape (y :: z :: rest)
  | bs => bs

def decode (s : List Char) : Except Utf8.Fault (List Char) :=
  Utf8.decode (unescape (Utf8.encode s))

end FieldQuery.Text.Percent

/-!
# Words

The limits of integers that are held in 64 bits.
-/
namespace FieldQuery

def wordLimit : Nat := 0x10000000000000000

/-- Integers of 64 bits lie below this limit, and not below its negative. -/
def intLimit : Nat := 0x8000000000000000

/-- A natural as a word holds it: beyond the limit it stays at the greatest one. -/
def saturated (n : Nat) : Nat := min n (wordLimit - 1)

theorem saturated_le (n : Nat) : saturated n ≤ n := Nat.min_le_left _ _

theorem saturated_of_lt {n : Nat} (h : n < wordLimit) : saturated n = n :=
  Nat.min_eq_left (Nat.le_sub_one_of_lt h)

end FieldQuery

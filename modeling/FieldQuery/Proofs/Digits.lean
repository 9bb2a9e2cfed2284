import FieldQuery.Json.Numeral
import FieldQuery.Number.Decimal
import Mathlib.Algebra.Group.Nat.Defs

/-!
# Decimal digits

The digits that a natural is written with, and the value that is read from them.
-/
namespace FieldQuery

theorem isDigit_of_mem_decimalDigits {n : Nat} {c : Char} (h : c ∈ decimalDigits n) :
    c.isDigit = true :=
  Nat.isDigit_of_mem_toDigits (by decide) (by decide) h

theorem decimalDigits_ne_nil (n : Nat) : decimalDigits n ≠ [] := Nat.toDigits_ne_nil

theorem digitsValue_decimalDigits (n : Nat) : digitsValue (decimalDigits n) = n := by
  have value := @Nat.ofDigitChars_ten_toDigits n
  rw [Nat.ofDigitChars_eq_foldl] at value
  exact value

/-- Only zero begins with a zero. -/
theorem head?_decimalDigits {n : Nat} (h : n ≠ 0) : (decimalDigits n).head? ≠ some '0' := by
  induction n using Nat.strongRecOn with
  | _ n ih =>
    by_cases small : n < 10
    · have checked : ∀ d < 10, d ≠ 0 → [Nat.digitChar d].head? ≠ some '0' := by decide
      rw [decimalDigits, Nat.toDigits_of_lt_base small]
      exact checked n small h
    · have front := ih (n / 10) (by omega) (by omega)
      rw [decimalDigits, Nat.toDigits_of_base_le (by decide) (by omega), List.head?_append]
      intro zero
      cases first : (Nat.toDigits 10 (n / 10)).head? with
      | none => exact decimalDigits_ne_nil (n / 10) (List.head?_eq_none_iff.mp first)
      | some c =>
        rw [first] at zero
        exact front (first.trans zero)

/-- A power of ten puts zeros behind the digits. -/
theorem decimalDigits_mul_pow {n : Nat} (h : n ≠ 0) (k : Nat) :
    decimalDigits (n * 10 ^ k) = decimalDigits n ++ List.replicate k '0' := by
  induction k with
  | zero => rw [Nat.pow_zero, Nat.mul_one, List.replicate_zero, List.append_nil]
  | succ k ih =>
    have positive : 0 < n * 10 ^ k := Nat.mul_pos (Nat.pos_of_ne_zero h) (Nat.pow_pos (by decide))
    have next := Nat.toDigits_append_toDigits (b := 10) (d := 0) (by decide) positive (by decide)
    have product : n * 10 ^ (k + 1) = 10 * (n * 10 ^ k) + 0 := by
      rw [Nat.pow_succ, ← Nat.mul_assoc, Nat.mul_comm _ 10, Nat.add_zero]
    rw [product, decimalDigits, ← next, List.replicate_succ', ← List.append_assoc]
    exact congrArg (· ++ ['0']) ih

namespace NumeralText

theorem le_foldl_digits (ds : List Char) (n : Nat) :
    n ≤ ds.foldl (fun n c => 10 * n + digitValue c) n := by
  induction ds generalizing n with
  | nil => exact Nat.le_refl n
  | cons c rest ih =>
    have step : n ≤ 10 * n + digitValue c := by omega
    exact Nat.le_trans step (ih _)

/-- All digits are taken if their value fits. -/
theorem takeFitting_all {ds : List Char} {n : Nat}
    (h : ds.foldl (fun n c => 10 * n + digitValue c) n < wordLimit) :
    takeFitting n ds = (ds.foldl (fun n c => 10 * n + digitValue c) n, []) := by
  induction ds generalizing n with
  | nil => rfl
  | cons c rest ih =>
    have fits : 10 * n + digitValue c < wordLimit := Nat.lt_of_le_of_lt (le_foldl_digits rest _) h
    rw [takeFitting, if_pos fits]
    exact ih h

end NumeralText

end FieldQuery

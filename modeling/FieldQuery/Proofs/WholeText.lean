import FieldQuery.Proofs.Digits
import FieldQuery.Proofs.Rounding

/-!
# The text of small whole numbers

The search for the fewest digits of a whole number below `2 ^ 52` ends with digits of that very
number: every other decimal on a grid of tens or coarser is at least one away, and the gap to the
next number is smaller than that. Inside JSON the number is then written with all its digits.
-/
namespace FieldQuery

/-- Dropping zeros keeps the value, and with enough fuel leaves none behind. -/
theorem Decimal.stripped_spec (d : Decimal) (fuel : Nat) (nonzero : d.digits ≠ 0)
    (enough : d.digits < 10 ^ fuel) : ∃ j : Nat, (d.stripped fuel).exponent = d.exponent + j ∧
      (d.stripped fuel).digits * 10 ^ j = d.digits ∧ (d.stripped fuel).digits % 10 ≠ 0 := by
  induction fuel generalizing d with
  | zero => omega
  | succ fuel ih =>
    rw [stripped]
    split
    · rename_i zero
      simp only [Bool.and_eq_true, decide_eq_true_eq, bne_iff_ne] at zero
      rw [Nat.pow_succ] at enough
      obtain ⟨j, exponent, digits, last⟩ := ih ⟨d.digits / 10, d.exponent + 1⟩
        (show d.digits / 10 ≠ 0 by omega) (show d.digits / 10 < 10 ^ fuel by omega)
      refine ⟨j + 1, ?_, ?_, last⟩
      · rw [exponent]
        simp only
        omega
      · rw [Nat.pow_succ, ← Nat.mul_assoc, digits]
        simp only
        omega
    · rename_i zero
      simp only [Bool.and_eq_true, decide_eq_true_eq, bne_iff_ne, not_and] at zero
      exact ⟨0, by simp, by simp, fun last => zero last nonzero⟩

namespace Number

section grids

variable {x : Number} {digits gap : Nat} {exponent : Int}
  (exact : x.exactDecimal = (⟨digits, exponent⟩, gap))

include exact

theorem readsBack_digits (positive : 0 < gap) (nonzero : 0 < digits) :
    x.readsBack digits = true := by
  unfold readsBack
  rw [exact]
  simp only
  split <;> simp only [Bool.and_eq_true, decide_eq_true_eq] <;> split <;> omega

/-- A decimal that reads back is at most half a gap away. -/
theorem near_of_readsBack {n : Nat} (h : x.readsBack n = true) :
    2 * digits ≤ 2 * n + gap ∧ 2 * n ≤ 2 * digits + gap := by
  unfold readsBack at h
  rw [exact] at h
  simp only at h
  split at h <;> simp only [Bool.and_eq_true, decide_eq_true_eq] at h <;> split at h <;> omega

variable {n k : Nat} (value : digits = n * 10 ^ k) (nonzero : 0 < digits) (positive : 0 < gap)
  (narrow : gap < 10 ^ k)

include value narrow

/-- Two multiples of one power of ten that are less than it apart are the same. -/
theorem eq_of_readsBack {m : Nat} (h : x.readsBack (m * 10 ^ k) = true) : m * 10 ^ k = digits := by
  obtain ⟨below, above⟩ := near_of_readsBack exact h
  rw [value] at below above
  have upper : n < m + 1 := by
    refine Nat.lt_of_mul_lt_mul_right (a := 10 ^ k) ?_
    rw [Nat.succ_mul]
    omega
  have lower : m < n + 1 := by
    refine Nat.lt_of_mul_lt_mul_right (a := 10 ^ k) ?_
    rw [Nat.succ_mul]
    omega
  have same : m = n := by omega
  rw [value, same]

include nonzero positive

/-- What is found on a grid is the number itself. -/
theorem nearestOnGrid_whole {tie : Tie} {j c : Nat}
    (h : x.nearestOnGrid tie (10 ^ j) = some c) : c * 10 ^ j = digits := by
  have unit : 0 < 10 ^ j := Nat.pow_pos (by decide)
  unfold nearestOnGrid at h
  rw [exact] at h
  simp only at h
  by_cases even : 10 ^ j ∣ digits
  · have here : digits / 10 ^ j * 10 ^ j = digits := Nat.div_mul_cancel even
    have found : x.readsBack (digits / 10 ^ j * 10 ^ j) = true := by
      rw [here]
      exact readsBack_digits exact positive nonzero
    have nearer : compare (2 * digits) ((2 * (digits / 10 ^ j) + 1) * 10 ^ j) = .lt := by
      rw [Nat.compare_eq_lt]
      have sum : (2 * (digits / 10 ^ j) + 1) * 10 ^ j = 2 * digits + 10 ^ j := by
        rw [Nat.add_mul, Nat.mul_assoc, here, Nat.one_mul]
      omega
    generalize x.readsBack ((digits / 10 ^ j + 1) * 10 ^ j) = next at h
    rw [found, nearer] at h
    cases next <;>
    · cases h
      exact here
  · exfalso
    have divides : 10 ^ k ∣ 10 ^ j := by
      refine Nat.pow_dvd_pow 10 (Nat.le_of_not_le fun coarse => even ?_)
      rw [value]
      exact Nat.dvd_mul_left_of_dvd (Nat.pow_dvd_pow 10 coarse) n
    obtain ⟨t, scale⟩ := divides
    have apart (c : Nat) : x.readsBack (c * 10 ^ j) = false := by
      refine Bool.eq_false_iff.mpr fun back => even ?_
      have grid : c * 10 ^ j = c * t * 10 ^ k := by
        rw [scale]
        ring
      rw [← eq_of_readsBack exact value narrow (grid ▸ back), ← grid]
      exact Nat.dvd_mul_left _ c
    rw [apart, apart] at h
    cases h

theorem searchGrids_whole (tie : Tie) (places : Nat) : ∃ j : Nat,
    (x.searchGrids tie exponent places).exponent = exponent + j ∧
      (x.searchGrids tie exponent places).digits * 10 ^ j = digits := by
  induction places with
  | zero =>
    refine ⟨0, ?_, ?_⟩
    · simp [searchGrids]
    · rw [searchGrids, exact]
      simp
  | succ places ih =>
    rw [searchGrids]
    cases found : x.nearestOnGrid tie (Nat.pow 10 (places + 1)) with
    | none => exact ih
    | some c =>
      exact ⟨places + 1, rfl, nearestOnGrid_whole exact value nonzero positive narrow found⟩

end grids

variable {n : Nat}

theorem exactDecimal_eq {x : Number} {m : Nat} {q : Int} (parts : x.parts = (m, q)) (down : q < 0) :
    x.exactDecimal = (⟨m * 5 ^ (-q).toNat, q⟩, 5 ^ (-q).toNat) := by
  unfold exactDecimal
  rw [parts]
  exact if_neg (by omega)

/-- The exact decimal of a whole number with bits behind the point. -/
theorem exactDecimal_whole (h : Fits n) (negative : Bool) (bits : n.log2 < 52) :
    (whole negative n).exactDecimal =
      (⟨n * 10 ^ (52 - n.log2), -((52 - n.log2 : Nat) : Int)⟩, 5 ^ (52 - n.log2)) := by
  have shift : (-((n.log2 : Int) - 52)).toNat = 52 - n.log2 := by omega
  have place : (n.log2 : Int) - 52 = -((52 - n.log2 : Nat) : Int) := by omega
  have scaled : significand n = n * 2 ^ (52 - n.log2) := by
    have scale := h.significand_scale
    rw [Nat.sub_eq_zero_of_le (Nat.le_of_lt bits), Nat.pow_zero, Nat.mul_one] at scale
    exact scale.symm
  have digits : significand n * 5 ^ (52 - n.log2) = n * 10 ^ (52 - n.log2) := by
    rw [scaled, Nat.mul_assoc, ← Nat.mul_pow]
  rw [exactDecimal_eq (h.parts_whole negative) (by omega), shift, digits, place]

/-- Digits that do not end in a zero take all zeros of a product for places. -/
theorem zeros_of_last {m n i k : Nat} (last : m % 10 ≠ 0) (value : m * 10 ^ i = n * 10 ^ k) :
    ∃ z, i = z + k ∧ m * 10 ^ z = n := by
  have reached : k ≤ i := by
    by_contra short
    obtain ⟨r, rfl⟩ : ∃ r, k = r + 1 + i := ⟨k - i - 1, by omega⟩
    rw [Nat.pow_add 10 (r + 1), ← Nat.mul_assoc] at value
    have whole := Nat.eq_of_mul_eq_mul_right (Nat.pow_pos (show 0 < 10 by decide)) value
    rw [Nat.pow_succ, ← Nat.mul_assoc] at whole
    omega
  obtain ⟨z, rfl⟩ : ∃ z, i = z + k := ⟨i - k, by omega⟩
  rw [Nat.pow_add, ← Nat.mul_assoc] at value
  exact ⟨z, rfl, Nat.eq_of_mul_eq_mul_right (Nat.pow_pos (by decide)) value⟩

/-- The shortest decimal of a whole number is the number without the zeros at its end. -/
theorem shortest_whole (h : Fits n) (negative : Bool) (bits : n.log2 < 52) (tie : Tie) :
    ∃ (m z : Nat), (whole negative n).shortest tie = ⟨m, z⟩ ∧ m * 10 ^ z = n := by
  have exact := exactDecimal_whole h negative bits
  have shallow : 52 - n.log2 ≠ 0 := by omega
  generalize 52 - n.log2 = k at exact shallow
  have nonzero : 0 < n * 10 ^ k :=
    Nat.mul_pos (Nat.pos_of_ne_zero h.positive) (Nat.pow_pos (by decide))
  obtain ⟨j, exponent, digits⟩ := searchGrids_whole exact rfl nonzero (Nat.pow_pos (by decide))
    (Nat.pow_lt_pow_left (by decide) shallow) tie ((decimalDigits (n * 10 ^ k)).length - 1)
  unfold shortest
  rw [exact]
  simp only
  generalize searchGrids _ _ _ _ = found at *
  have length : n * 10 ^ k < 10 ^ (decimalDigits (n * 10 ^ k)).length := by
    have nonempty : 0 < (decimalDigits (n * 10 ^ k)).length :=
      List.length_pos_iff.mpr (decimalDigits_ne_nil _)
    exact (Nat.length_toDigits_le_iff (by decide) nonempty).mp (Nat.le_refl _)
  have positive : found.digits ≠ 0 := by
    intro zero
    rw [zero, Nat.zero_mul] at digits
    omega
  have enough : found.digits < 10 ^ (decimalDigits (n * 10 ^ k)).length := by
    refine Nat.lt_of_le_of_lt ?_ length
    rw [← digits]
    exact Nat.le_mul_of_pos_right _ (Nat.pow_pos (by decide))
  obtain ⟨i, exponent', digits', last⟩ := found.stripped_spec _ positive enough
  generalize found.stripped _ = d at *
  have value : d.digits * 10 ^ (i + j) = n * 10 ^ k := by
    rw [Nat.pow_add, ← Nat.mul_assoc, digits', digits]
  obtain ⟨z, zeros, value⟩ := zeros_of_last last value
  refine ⟨d.digits, z, ?_, value⟩
  have place : d.exponent = z := by omega
  rw [← place]

end Number

/-- A whole number of at most sixteen digits is laid out with all of them. -/
theorem DecimalStyle.ofDecimal_whole {m z n : Nat} (value : m * 10 ^ z = n) (positive : n ≠ 0)
    (small : n < 10 ^ 16) : Number.jsonStyle.ofDecimal ⟨m, z⟩ = decimalDigits n ++ ['.', '0'] := by
  have nonzero : m ≠ 0 := by
    rintro rfl
    omega
  have digits : decimalDigits n = decimalDigits m ++ List.replicate z '0' := by
    rw [← value, decimalDigits_mul_pow nonzero]
  have length : (decimalDigits m).length + z ≤ 16 := by
    have whole := (Nat.length_toDigits_le_iff (b := 10) (k := 16) (by decide) (by decide)).mpr small
    have split := congrArg List.length digits
    rw [List.length_append, List.length_replicate] at split
    rw [← split]
    exact whole
  have nonempty : 0 < (decimalDigits m).length := List.length_pos_iff.mpr (decimalDigits_ne_nil m)
  unfold ofDecimal
  simp only
  generalize decimalDigits m = ds at *
  have plain : Number.jsonStyle.isPlain (ds.length + z - 1) = true := by
    simp [isPlain, Number.jsonStyle]
    omega
  rw [if_pos plain, DecimalStyle.plain, if_neg (by omega), if_neg (by omega)]
  have rest : ((ds.length : Int) + z).toNat - ds.length = z := by omega
  rw [rest, digits, zeros]
  rfl

/-- Inside JSON a small whole number is written with all its digits. -/
theorem render_whole {n : Nat} (h : Number.Fits n) (negative : Bool) (bits : n.log2 < 52) :
    Number.jsonStyle.render (Number.whole negative n) = String.ofList
      ((if negative then ['-'] else []) ++ decimalDigits n ++ ['.', '0']) := by
  have small : n < 10 ^ 16 := by
    have power := (Nat.log2_lt h.positive).mp bits
    omega
  obtain ⟨m, z, shortest, value⟩ := Number.shortest_whole h negative bits .toEven
  have code : 0 < (Number.whole negative n).code ∧
      (Number.whole negative n).code < Number.infinityCode := by
    have bounds := h.significand_bounds
    unfold Number.whole Number.infinityCode Number.binade at *
    simp only
    omega
  have nan : (Number.whole negative n).isNaN = false := by
    simp only [Number.isNaN, decide_eq_false_iff_not]
    omega
  have infinite : (Number.whole negative n).isInfinite = false := by
    simp only [Number.isInfinite, beq_eq_false_iff_ne]
    omega
  have zero : (Number.whole negative n).isZero = false := by
    simp only [Number.isZero, beq_eq_false_iff_ne]
    omega
  have tie : Number.jsonStyle.tie = .toEven := rfl
  unfold DecimalStyle.render
  simp only [nan, infinite, zero, tie, shortest,
    DecimalStyle.ofDecimal_whole value h.positive small, Bool.false_eq_true, if_false]
  cases negative <;> rfl

end FieldQuery

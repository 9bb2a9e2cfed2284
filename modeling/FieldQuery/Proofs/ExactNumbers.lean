import FieldQuery.Proofs.Nearest
import Mathlib.Order.Monotone.Basic

/-!
# What numbers are, exactly

Every number is a whole multiple of the least positive one, so that numbers and integers can be
compared without rounding. Numbers are ordered as these multiples are, and an integer that is
rounded never passes a number on its way. Main statements: `units_le_iff`, `nearest_of_units_le` and
`nearest_of_le_units`.
-/
namespace FieldQuery.Number

/-- The binary places of the least positive number. -/
@[irreducible] def places : Nat := 1074

theorem places_eq : places = 1074 := by rw [places]

/-- How many times the least positive number goes into one. -/
def unitsPerOne : Nat := 2 ^ places

/-- A number as a multiple of the least positive one. Infinity stands where the next power of two
would be, above all finite numbers. -/
def units (x : Number) : Int :=
  let (m, q) := x.parts
  let size := m * 2 ^ (q + places).toNat
  if x.negative then -(size : Int) else size

def size (code : Nat) : Nat :=
  if code / binade = 0 then code % binade
  else (binade + code % binade) * 2 ^ (code / binade - 1)

variable {c d e f n : Nat} {x y : Number} {a : Int}

theorem units_eq (x : Number) :
    x.units = if x.negative then -(size x.code : Int) else size x.code := by
  unfold units parts size
  dsimp only
  generalize x.code / binade = e
  generalize x.code % binade = f
  by_cases subnormal : e = 0
  · have place : ((-1074 : Int) + places).toNat = 0 := by
      rw [places_eq]
      rfl
    simp only [subnormal, ↓reduceIte, place, Nat.pow_zero, Nat.mul_one]
  · have place : ((e : Int) - 1075 + places).toNat = e - 1 := by
      rw [places_eq]
      omega
    simp only [subnormal, ↓reduceIte, place]

theorem size_subnormal (small : c < binade) : size c = c := by
  rw [size, Nat.div_eq_of_lt small, if_pos rfl, Nat.mod_eq_of_lt small]

theorem size_normal (small : f < binade) :
    size ((e + 1) * binade + f) = (binade + f) * 2 ^ e := by
  have quotient : ((e + 1) * binade + f) / binade = e + 1 := by
    unfold binade at *
    omega
  have rest : ((e + 1) * binade + f) % binade = f := by
    unfold binade at *
    omega
  rw [size, quotient, rest, if_neg (Nat.succ_ne_zero e), Nat.add_sub_cancel]

/-- A code is that of a subnormal number, or has an exponent and a fraction. -/
theorem code_cases (c : Nat) :
    c < binade ∨ ∃ e f, f < binade ∧ c = (e + 1) * binade + f := by
  rcases Nat.lt_or_ge c binade with small | large
  · exact .inl small
  · refine .inr ⟨c / binade - 1, c % binade, ?_, ?_⟩
    · exact Nat.mod_lt c (by decide)
    · unfold binade at *
      omega

theorem size_lt_succ (c : Nat) : size c < size (c + 1) := by
  rcases code_cases c with small | ⟨e, f, small, rfl⟩
  · rcases Nat.lt_or_eq_of_le (Nat.succ_le_of_lt small) with below | last
    · rw [size_subnormal small, size_subnormal below]
      omega
    · have first : c + 1 = (0 + 1) * binade + 0 := by omega
      rw [size_subnormal small, first, size_normal (by decide)]
      omega
  · have power := Nat.two_pow_pos e
    rcases Nat.lt_or_eq_of_le (Nat.succ_le_of_lt small) with below | last
    · rw [Nat.add_assoc, size_normal small, size_normal below]
      exact Nat.mul_lt_mul_of_pos_right (by omega) power
    · have next : (e + 1) * binade + f + 1 = (e + 1 + 1) * binade + 0 := by
        rw [Nat.add_one_mul (e + 1)]
        omega
      rw [next, size_normal small, size_normal (by decide), Nat.pow_succ, Nat.mul_comm (2 ^ e),
        ← Nat.mul_assoc]
      exact Nat.mul_lt_mul_of_pos_right (by omega) power

theorem size_strictMono : StrictMono size := strictMono_nat_of_lt_succ size_lt_succ

theorem size_zero : size 0 = 0 := size_subnormal (by decide)

/-- Numbers are ordered as their codes are, with the sign. -/
theorem units_le_iff : x.units ≤ y.units ↔ x.rank ≤ y.rank := by
  have least := size_strictMono.le_iff_le (a := x.code) (b := 0)
  have least' := size_strictMono.le_iff_le (a := y.code) (b := 0)
  have order := size_strictMono.le_iff_le (a := x.code) (b := y.code)
  have reverse := size_strictMono.le_iff_le (a := y.code) (b := x.code)
  rw [size_zero] at least least'
  rw [units_eq, units_eq, rank, rank]
  cases x.negative <;> cases y.negative <;> simp only [↓reduceIte, Bool.false_eq_true] <;> omega

theorem units_of_rank (x : Number) : x.units =
    if x.rank < 0 then -(size x.rank.natAbs : Int) else size x.rank.natAbs := by
  rw [units_eq, rank]
  cases x.negative with
  | false => simp
  | true =>
    by_cases zero : x.code = 0
    · simp [zero, size_zero]
    · simp [zero]

theorem units_neg (x : Number) : x.neg.units = -x.units := by
  rw [units_eq, units_eq, neg]
  cases x.negative <;> simp

theorem unitsPerOne_eq : unitsPerOne = 2 ^ 52 * 2 ^ (places - 52) := by
  rw [unitsPerOne, ← Nat.pow_add, places_eq]

theorem unitsPerOne_pos : 0 < unitsPerOne := Nat.two_pow_pos places

theorem size_codeOf (fits : n = 0 ∨ Fits n) : size (codeOf n) = n * unitsPerOne := by
  rcases fits with rfl | fits
  · rw [codeOf, if_pos rfl, size_zero, Nat.zero_mul]
  · obtain ⟨low, high⟩ := fits.significand_bounds
    have code : codeOf n =
        (n.log2 + (places - 52) + 1) * binade + (significand n - binade) := by
      rw [codeOf, if_neg fits.positive, Nat.add_one_mul]
      change (n.log2 + 1022) * binade + significand n = _
      have point : places - 52 = 1022 := by rw [places_eq]
      rw [point]
      omega
    calc size (codeOf n)
        = (binade + (significand n - binade)) * 2 ^ (n.log2 + (places - 52)) := by
          rw [code, size_normal (by omega)]
      _ = significand n * 2 ^ n.log2 * 2 ^ (places - 52) := by
          rw [Nat.add_sub_cancel' low, Nat.pow_add, Nat.mul_assoc]
      _ = n * unitsPerOne := by rw [fits.significand_mul, unitsPerOne_eq, Nat.mul_assoc]

theorem natAbs_rankOf (a : Int) : (rankOf a).natAbs = codeOf a.natAbs := by
  unfold rankOf
  split <;> omega

/-- The number of an integer is the integer nearest to it, in units. -/
theorem units_ofInt (bits : a.natAbs.log2 ≤ 1021) :
    (ofInt a).units = nearest a * unitsPerOne := by
  have fits : (nearest a).natAbs = 0 ∨ Fits (nearest a).natAbs :=
    (fits_nearest bits).imp_left Int.natAbs_eq_zero.mpr
  have sign : rankOf (nearest a) < 0 ↔ nearest a < 0 := by
    constructor
    · intro below
      by_contra above
      rw [rankOf, if_neg above] at below
      omega
    · intro below
      exact rankOf_lt (fits_nearest bits) (.inl rfl) below
  rw [units_of_rank, rank_ofInt bits, natAbs_rankOf, size_codeOf fits, Nat.cast_mul]
  simp only [sign]
  split
  case isTrue below =>
    rw [show ((nearest a).natAbs : Int) = -nearest a by omega, Int.neg_mul, Int.neg_neg]
  case isFalse above => rw [show ((nearest a).natAbs : Int) = nearest a by omega]

/-- A number that is not too large is an integer that fits, or small. -/
theorem size_cases (bounded : size c ≤ 2 ^ 64 * unitsPerOne) :
    size c < 2 ^ 52 * unitsPerOne ∨ ∃ n, size c = n * unitsPerOne ∧ Fits n := by
  rcases code_cases c with small | ⟨e, f, small, rfl⟩
  · left
    rw [size_subnormal small]
    exact Nat.lt_of_lt_of_le small (Nat.le_mul_of_pos_right _ unitsPerOne_pos)
  · rw [size_normal small] at bounded ⊢
    rcases Nat.lt_or_ge e places with below | above
    · left
      have half : 2 * 2 ^ e ≤ unitsPerOne := by
        rw [unitsPerOne, Nat.mul_comm, ← Nat.pow_succ]
        exact Nat.pow_le_pow_right (by decide) below
      calc (binade + f) * 2 ^ e < 2 ^ 53 * 2 ^ e :=
            Nat.mul_lt_mul_of_pos_right (by unfold binade at *; omega) (Nat.two_pow_pos e)
        _ = 2 ^ 52 * (2 * 2 ^ e) := by ring
        _ ≤ 2 ^ 52 * unitsPerOne := Nat.mul_le_mul_left _ half
    · right
      have positive : binade + f ≠ 0 := by unfold binade; omega
      have scale : (binade + f) * 2 ^ e = (binade + f) * 2 ^ (e - places) * unitsPerOne := by
        rw [unitsPerOne, Nat.mul_assoc, ← Nat.pow_add, Nat.sub_add_cancel above]
      refine ⟨(binade + f) * 2 ^ (e - places), scale, ?_⟩
      rw [scale] at bounded
      have word := Nat.le_of_mul_le_mul_right bounded unitsPerOne_pos
      have bits : ((binade + f) * 2 ^ (e - places)).log2 ≤ 64 := by
        have nonzero := Nat.mul_ne_zero positive (Nat.ne_of_gt (Nat.two_pow_pos (e - places)))
        exact Nat.le_of_lt_succ ((Nat.log2_lt nonzero).mpr (by omega))
      rw [log2_mul_two_pow positive] at bits
      exact (fits_of_lt positive (by unfold binade at *; omega)).mul_two_pow (by omega)

theorem nearest_neg (a : Int) : nearest (-a) = -nearest a := by
  have zero : held 0 = 0 := held_of_lt (by decide)
  unfold nearest
  rw [Int.natAbs_neg]
  rcases Int.lt_trichotomy a 0 with below | rfl | above
  · rw [if_neg (by omega), if_pos below, Int.neg_neg]
  · simp [zero]
  · rw [if_pos (by omega), if_neg (by omega)]

theorem natAbs_units (x : Number) : x.units.natAbs = size x.code := by
  rw [units_eq]
  split <;> omega

/-- A number that is not too large equals an integer that fits, or is small. -/
theorem units_cases (bounded : x.units.natAbs ≤ 2 ^ 64 * unitsPerOne) :
    x.units.natAbs < 2 ^ 52 * unitsPerOne ∨ ∃ k : Int, x.units = k * unitsPerOne ∧
      Fits k.natAbs := by
  rw [natAbs_units] at bounded ⊢
  refine (size_cases bounded).imp_right ?_
  rintro ⟨n, exact, fits⟩
  rw [units_eq, exact]
  cases x.negative with
  | false => exact ⟨n, by simp, by simpa using fits⟩
  | true => exact ⟨-n, by simp, by simpa using fits⟩

/-- Integers above others have greater sizes in units. -/
theorem mul_units_le {a b : Int} (le : a ≤ b) : a * unitsPerOne ≤ b * unitsPerOne :=
  Int.mul_le_mul_of_nonneg_right le (Int.natCast_nonneg _)

theorem le_of_mul_units_le {a b : Int} (le : a * unitsPerOne ≤ b * unitsPerOne) : a ≤ b :=
  Int.le_of_mul_le_mul_right le (Int.natCast_pos.mpr unitsPerOne_pos)

theorem lt_of_mul_units_lt {a b : Int} (less : a * unitsPerOne < b * unitsPerOne) : a < b :=
  Int.lt_of_mul_lt_mul_right less (Int.natCast_nonneg _)

theorem neg_le_nearest (word : a.natAbs < wordLimit) : -(2 ^ 64) ≤ nearest a := by
  have fits : Fits (-(2 ^ 64) : Int).natAbs := ⟨by decide, by decide, by decide⟩
  have least : nearest (-(2 ^ 64)) = -(2 ^ 64) := (nearest_eq_iff (by decide)).mpr (.inr fits)
  rw [← least]
  refine nearest_mono ?_
  unfold wordLimit at word
  omega

/-- An integer that is rounded down does not pass a number. -/
theorem nearest_of_units_le (word : a.natAbs < wordLimit) (le : x.units ≤ a * unitsPerOne) :
    x.units ≤ nearest a * unitsPerOne := by
  by_contra passed
  have passed := Int.not_le.mp passed
  have down : nearest a < a := lt_of_mul_units_lt (Int.lt_of_lt_of_le passed le)
  have least := mul_units_le (neg_le_nearest word)
  have most : a * unitsPerOne ≤ (2 ^ 64 : Int) * unitsPerOne := by
    refine mul_units_le ?_
    unfold wordLimit at word
    omega
  rcases units_cases (x := x) (by omega) with small | ⟨k, whole, fits⟩
  · -- integers that are rounded at all are far away from small numbers
    have far : 2 ^ 53 < a.natAbs := by
      by_contra near
      rw [nearest_of_le (Nat.not_lt.mp near)] at down
      omega
    rcases Int.lt_or_le a 0 with below | above
    · have beyond := mul_units_le (show a ≤ -(2 ^ 53) by omega)
      omega
    · have exact : nearest (2 ^ 53) = 2 ^ 53 := nearest_of_le (by decide)
      have beyond := mul_units_le (nearest_mono (show 2 ^ 53 ≤ a by omega))
      rw [exact] at beyond
      omega
  · -- the number would be nearer to the integer than the nearest one
    rw [whole] at le passed
    have after := lt_of_mul_units_lt passed
    have before := le_of_mul_units_le le
    have closest := nearest_closest (a := a) (k := k) (.inr fits)
    omega

/-- An integer that is rounded up does not pass a number. -/
theorem nearest_of_le_units (word : a.natAbs < wordLimit) (le : a * unitsPerOne ≤ x.units) :
    nearest a * unitsPerOne ≤ x.units := by
  have mirrored := nearest_of_units_le (x := x.neg) (a := -a) (by rwa [Int.natAbs_neg])
    (by rw [units_neg, Int.neg_mul]; omega)
  rw [units_neg, nearest_neg, Int.neg_mul] at mirrored
  omega

/-- A number in place of an exact value: the number that has the value, or the one of the integer
that has it. -/
def Near (u : Int) (x : Number) : Prop :=
  x.isNaN = false ∧ (u = x.units ∨ ∃ n : Int, n.natAbs < wordLimit ∧ u = n * unitsPerOne ∧
    x = ofInt n)

theorem near_units (there : x.isNaN = false) : Near x.units x := ⟨there, .inl rfl⟩

theorem near_ofInt (word : a.natAbs < wordLimit) : Near (a * unitsPerOne) (ofInt a) :=
  ⟨isNaN_ofInt a, .inr ⟨a, word, rfl, rfl⟩⟩

/-- Numbers in place of exact values are in their order, however they were rounded. -/
theorem Near.mono {u w : Int} (hx : Near u x) (hy : Near w y) (le : u ≤ w) :
    x.units ≤ y.units := by
  obtain ⟨-, rfl | ⟨a, word, rfl, rfl⟩⟩ := hx
  · obtain ⟨-, rfl | ⟨b, word, rfl, rfl⟩⟩ := hy
    · exact le
    · rw [units_ofInt (log2_of_word word)]
      exact nearest_of_units_le word le
  · rw [units_ofInt (log2_of_word word)]
    obtain ⟨-, rfl | ⟨b, word', rfl, rfl⟩⟩ := hy
    · exact nearest_of_le_units word le
    · rw [units_ofInt (log2_of_word word')]
      exact mul_units_le (nearest_mono (le_of_mul_units_le le))

theorem compare?_of_there (hx : x.isNaN = false) (hy : y.isNaN = false) :
    x.compare? y = some (compare x.rank y.rank) := by
  rw [compare?, hx, hy]
  rfl

theorem isLE_compare_rank : (compare x.rank y.rank).isLE ↔ x.units ≤ y.units := by
  rw [units_le_iff]
  exact Int.isLE_compare

theorem isGE_compare_rank : (compare x.rank y.rank).isGE ↔ y.units ≤ x.units := by
  rw [units_le_iff]
  exact Int.isGE_compare

end FieldQuery.Number

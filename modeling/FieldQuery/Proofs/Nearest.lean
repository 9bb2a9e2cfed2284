import FieldQuery.Proofs.Rounding

/-!
# Integers as numbers

An integer that is too long for the significant bits of a number is held as one of the two
multiples next to it of the unit at its size: the nearer one, or the even one if it lies in the
middle. Integers up to `2 ^ 53` are held exactly, and greater integers as numbers that are no
smaller. Main statements: `nearest_closest`, `toInt?_ofInt` and `compare?_ofInt`.
-/
namespace FieldQuery.Number

variable {n k d : Nat}

/-- The quotient is rounded down or up. -/
theorem roundQuotient_cases (n d : Nat) :
    (roundQuotient n d = n / d ∧ 2 * (n % d) ≤ d) ∨
      (roundQuotient n d = n / d + 1 ∧ d ≤ 2 * (n % d)) := by
  unfold roundQuotient
  dsimp only
  split
  · omega
  · split <;> omega

theorem roundQuotient_bounds (n : Nat) (hd : 0 < d) :
    2 * (roundQuotient n d * d) ≤ 2 * n + d ∧ 2 * n ≤ 2 * (roundQuotient n d * d) + d := by
  have whole : n / d * d + n % d = n := Nat.div_add_mod' n d
  have rest := Nat.mod_lt n hd
  rcases roundQuotient_cases n d with ⟨down, low⟩ | ⟨up, high⟩
  · rw [down]
    omega
  · rw [up, Nat.add_one_mul (n / d)]
    omega

theorem roundQuotient_mono (hd : 0 < d) (le : n ≤ k) : roundQuotient n d ≤ roundQuotient k d := by
  rcases Nat.lt_or_eq_of_le le with less | rfl
  · have high := (roundQuotient_bounds n hd).1
    have low := (roundQuotient_bounds k hd).2
    refine Nat.le_of_lt_succ (Nat.lt_of_mul_lt_mul_right (a := d) ?_)
    rw [Nat.succ_mul]
    omega
  · exact Nat.le_refl _

/-- No multiple is nearer than the one that a quotient is rounded to. -/
theorem roundQuotient_closest (n : Nat) (hd : 0 < d) (c : Nat) :
    ((n : Int) - (roundQuotient n d * d : Nat)).natAbs ≤ ((n : Int) - (c * d : Nat)).natAbs := by
  obtain ⟨high, low⟩ := roundQuotient_bounds n hd
  generalize roundQuotient n d = q at *
  rcases Nat.lt_trichotomy c q with less | rfl | more
  · have apart : c * d + d ≤ q * d := by
      rw [← Nat.succ_mul]
      exact Nat.mul_le_mul_right d less
    omega
  · exact Nat.le_refl _
  · have apart : q * d + d ≤ c * d := by
      rw [← Nat.succ_mul]
      exact Nat.mul_le_mul_right d more
    omega

/-- How far numbers of the size of a natural are apart, and one for the small ones. -/
def unit (n : Nat) : Nat := 2 ^ (n.log2 - 52)

theorem unit_pos (n : Nat) : 0 < unit n := Nat.two_pow_pos _

theorem unit_of_lt (small : n < 2 ^ 53) : unit n = 1 := by
  have bits : n.log2 ≤ 52 := by
    by_cases zero : n = 0
    · subst zero
      decide
    · exact Nat.le_of_lt_succ ((Nat.log2_lt zero).mpr small)
  rw [unit, Nat.sub_eq_zero_of_le bits, Nat.pow_zero]

/-- The bits of a natural that is too long for a significand. -/
theorem two_pow_log2 (large : 2 ^ 53 ≤ n) : 2 ^ n.log2 = 2 ^ 52 * unit n := by
  have bits : 53 ≤ n.log2 := (Nat.le_log2 (by omega)).mpr large
  rw [unit, ← Nat.pow_add]
  congr 1
  omega

def held (n : Nat) : Nat := roundQuotient n (unit n) * unit n

theorem held_of_dvd (exact : unit n ∣ n) : held n = n := by
  obtain ⟨m, whole⟩ := exact
  have quotient := roundQuotient_mul m (unit_pos n)
  rw [Nat.mul_comm m, ← whole] at quotient
  rw [held, quotient, Nat.mul_comm]
  exact whole.symm

theorem held_of_lt (small : n < 2 ^ 53) : held n = n := held_of_dvd (by simp [unit_of_lt small])

theorem held_of_le (small : n ≤ 2 ^ 53) : held n = n := by
  rcases Nat.lt_or_eq_of_le small with less | rfl
  · exact held_of_lt less
  · decide +kernel

/-- The significant bits of what is held, one more of them if rounding carries. -/
theorem roundQuotient_unit_bounds (large : 2 ^ 53 ≤ n) :
    2 ^ 52 ≤ roundQuotient n (unit n) ∧ roundQuotient n (unit n) ≤ 2 ^ 53 := by
  obtain ⟨low, high⟩ := log2_bounds (show n ≠ 0 by omega)
  rw [Nat.pow_succ, two_pow_log2 large] at high
  rw [two_pow_log2 large] at low
  constructor
  · calc 2 ^ 52 = roundQuotient (2 ^ 52 * unit n) (unit n) :=
          (roundQuotient_mul _ (unit_pos n)).symm
      _ ≤ roundQuotient n (unit n) := roundQuotient_mono (unit_pos n) low
  · calc roundQuotient n (unit n) ≤ roundQuotient (2 ^ 53 * unit n) (unit n) :=
          roundQuotient_mono (unit_pos n) (by omega)
      _ = 2 ^ 53 := roundQuotient_mul _ (unit_pos n)

/-- Rounding does not leave the binade, but for its end. -/
theorem held_bounds (positive : n ≠ 0) : 2 ^ n.log2 ≤ held n ∧ held n ≤ 2 ^ (n.log2 + 1) := by
  rcases Nat.lt_or_ge n (2 ^ 53) with small | large
  · obtain ⟨low, high⟩ := log2_bounds positive
    rw [held_of_lt small]
    exact ⟨low, Nat.le_of_lt high⟩
  · obtain ⟨low, high⟩ := roundQuotient_unit_bounds large
    rw [Nat.pow_succ, two_pow_log2 large, held]
    constructor
    · exact Nat.mul_le_mul_right _ low
    · have scaled := Nat.mul_le_mul_right (unit n) high
      omega

theorem held_pos (positive : n ≠ 0) : 0 < held n :=
  Nat.lt_of_lt_of_le (Nat.two_pow_pos _) (held_bounds positive).1

theorem held_mono (le : n ≤ k) : held n ≤ held k := by
  by_cases zero : n = 0
  · subst zero
    exact Nat.zero_le _
  · have nonzero : k ≠ 0 := by omega
    have order : n.log2 ≤ k.log2 :=
      (Nat.le_log2 nonzero).mpr (Nat.le_trans (Nat.log2_self_le zero) le)
    rcases Nat.lt_or_eq_of_le order with apart | same
    · calc held n ≤ 2 ^ (n.log2 + 1) := (held_bounds zero).2
        _ ≤ 2 ^ k.log2 := Nat.pow_le_pow_right (by decide) apart
        _ ≤ held k := (held_bounds nonzero).1
    · have alike : unit n = unit k := by rw [unit, unit, same]
      unfold held
      rw [alike]
      exact Nat.mul_le_mul_right _ (roundQuotient_mono (unit_pos k) le)

/-- A natural whose significant bits fit is a multiple of its unit. -/
theorem Fits.unit_dvd (h : Fits n) : unit n ∣ n := by
  have scale := h.significand_scale
  rcases Nat.lt_or_ge n (2 ^ 53) with small | large
  · simp [unit_of_lt small]
  · have bits : 53 ≤ n.log2 := (Nat.le_log2 h.positive).mpr large
    rw [Nat.sub_eq_zero_of_le (show 52 ≤ n.log2 by omega), Nat.pow_zero, Nat.mul_one] at scale
    exact ⟨significand n, scale.trans (Nat.mul_comm _ _)⟩

/-- No natural that fits is nearer to a natural than what is held. -/
theorem held_closest (n : Nat) (hk : Fits k) :
    ((n : Int) - held n).natAbs ≤ ((n : Int) - k).natAbs := by
  rcases Nat.lt_or_ge n (2 ^ 53) with small | large
  · rw [held_of_lt small]
    omega
  · have closest := roundQuotient_closest n (unit_pos n)
    rcases Nat.lt_or_ge k.log2 n.log2 with below | above
    · -- the least natural of the binade is nearer than all below it
      have least := closest (2 ^ 52)
      have high := (log2_bounds hk.positive).2
      have power := Nat.pow_le_pow_right (n := 2) (by decide) below
      have low := (log2_bounds (show n ≠ 0 by omega)).1
      rw [← two_pow_log2 large] at least
      unfold held
      omega
    · obtain ⟨c, multiple⟩ : unit n ∣ k :=
        (Nat.pow_dvd_pow 2 (Nat.sub_le_sub_right above 52)).trans hk.unit_dvd
      rw [multiple, Nat.mul_comm]
      exact closest c

theorem Fits.mul_two_pow {m : Nat} (h : Fits m) {j : Nat} (small : m.log2 + j ≤ 1022) :
    Fits (m * 2 ^ j) := by
  have bits := log2_mul_two_pow h.positive j
  refine ⟨Nat.mul_ne_zero h.positive (Nat.ne_of_gt (Nat.two_pow_pos j)), by omega, ?_⟩
  rw [bits, Nat.pow_add, Nat.mul_right_comm]
  exact Nat.mul_dvd_mul_right h.exact _

/-- What is held of a long natural, as significant bits and a power of two. -/
theorem held_eq (n : Nat) : held n = roundQuotient n (unit n) * 2 ^ (n.log2 - 52) := rfl

theorem fits_held (positive : n ≠ 0) (size : n.log2 ≤ 1021) : Fits (held n) := by
  rcases Nat.lt_or_ge n (2 ^ 53) with small | large
  · rw [held_of_lt small]
    exact fits_of_lt positive small
  · obtain ⟨low, high⟩ := roundQuotient_unit_bounds large
    have nonzero : roundQuotient n (unit n) ≠ 0 := by omega
    have bits : (roundQuotient n (unit n)).log2 < 54 := (Nat.log2_lt nonzero).mpr (by omega)
    exact (fits_of_le nonzero high).mul_two_pow (by omega)

/-- The code of a natural with 53 significant bits, which may be one more than fit. -/
theorem code_whole_mul {m : Nat} (low : 2 ^ 52 ≤ m) (high : m ≤ 2 ^ 53) (negative : Bool)
    (j : Nat) : whole negative (m * 2 ^ j) = ⟨negative, (52 + j + 1022) * binade + m⟩ := by
  have size : binade = 2 ^ 52 := by decide
  have bits := log2_mul_two_pow (show m ≠ 0 by omega) j
  rcases Nat.lt_or_eq_of_le high with less | rfl
  · rw [log2_eq low less] at bits
    have significant : significand (m * 2 ^ j) = m := by
      refine significand_eq bits ?_
      rw [Nat.pow_add]
      ring
    rw [whole, bits, significant]
  · rw [Nat.log2_two_pow] at bits
    have significant : significand (2 ^ 53 * 2 ^ j) = 2 ^ 52 := by
      refine significand_eq bits ?_
      rw [Nat.pow_add]
      ring
    have carried : (53 + j + 1022) * binade + 2 ^ 52 = (52 + j + 1022) * binade + 2 ^ 53 := by
      rw [size]
      omega
    rw [whole, bits, significant, carried]

/-- A natural is read as the number that is held for it. -/
theorem ofRatio_one (negative : Bool) (positive : n ≠ 0) (size : n.log2 ≤ 1021) :
    ofRatio negative n 1 = whole negative (held n) := by
  rcases Nat.lt_or_ge n (2 ^ 53) with small | large
  · have exact := (fits_of_lt positive small).ofRatio_mul negative Nat.one_pos
    rw [Nat.mul_one] at exact
    rw [exact, held_of_lt small]
  · have bits : 53 ≤ n.log2 := (Nat.le_log2 positive).mpr large
    obtain ⟨low, high⟩ := roundQuotient_unit_bounds large
    have exponent := binaryExponent_mul positive Nat.one_ne_zero
    rw [Nat.mul_one] at exponent
    have scale : max ((n.log2 : Int) - 52) (-1074) = n.log2 - 52 := by omega
    have up : (-((n.log2 : Int) - 52)).toNat = 0 := by omega
    have down : ((n.log2 : Int) - 52).toNat = n.log2 - 52 := by omega
    have place : ((n.log2 : Int) - 52 + 1074).toNat = 52 + (n.log2 - 52) + 1022 := by omega
    have finite : (52 + (n.log2 - 52) + 1022) * binade + roundQuotient n (unit n) ≤
        infinityCode := by
      unfold infinityCode binade at *
      omega
    rw [held_eq, code_whole_mul low high, ofRatio, if_neg positive]
    simp only [exponent, scale, up, down, place, Nat.pow_eq, Nat.pow_zero, Nat.mul_one, Nat.one_mul]
    exact congrArg (Number.mk negative) (Nat.min_eq_left finite)

/-- The integer that the number of an integer equals. -/
def nearest (n : Int) : Int := if n < 0 then -(held n.natAbs : Int) else held n.natAbs

theorem Fits.toInt?_whole (h : Fits n) (negative : Bool) :
    (whole negative n).toInt? = some (if negative then -(n : Int) else n) := by
  have high := h.significand_bounds.2
  have small := h.small
  have finite : (whole negative n).isFinite = true := by
    refine decide_eq_true (show (n.log2 + 1022) * binade + significand n < infinityCode from ?_)
    unfold infinityCode binade at *
    omega
  have scale := h.significand_scale
  have down : (-((n.log2 : Int) - 52)).toNat = 52 - n.log2 := by omega
  have up : ((n.log2 : Int) - 52).toNat = n.log2 - 52 := by omega
  have sign : (whole negative n).negative = negative := rfl
  unfold toInt?
  rw [finite, h.parts_whole]
  simp only [Bool.not_true, Bool.false_eq_true, ↓reduceIte, up, down, Nat.pow_eq, sign]
  rcases Nat.lt_or_ge n.log2 52 with below | above
  · rw [Nat.sub_eq_zero_of_le (Nat.le_of_lt below), Nat.pow_zero, Nat.mul_one] at scale
    rw [if_neg (by omega), ← scale, if_pos (Nat.mul_mod_left _ _),
      Nat.mul_div_cancel _ (Nat.two_pow_pos _)]
    rfl
  · rw [Nat.sub_eq_zero_of_le above, Nat.pow_zero, Nat.mul_one] at scale
    rw [if_pos (by omega), ← scale]
    rfl

variable {a b : Int}

theorem log2_of_word (small : n < wordLimit) : n.log2 ≤ 1021 := by
  by_cases zero : n = 0
  · subst zero
    decide
  · have bits : n.log2 < 64 := (Nat.log2_lt zero).mpr small
    omega

theorem nearest_of_le (small : a.natAbs ≤ 2 ^ 53) : nearest a = a := by
  unfold nearest
  rw [held_of_le small]
  split <;> omega

theorem toInt?_ofInt (size : a.natAbs.log2 ≤ 1021) : (ofInt a).toInt? = some (nearest a) := by
  by_cases zero : a = 0
  · subst zero
    decide +kernel
  · have positive : a.natAbs ≠ 0 := Int.natAbs_ne_zero.mpr zero
    rw [ofInt, ofRatio_one _ positive size, (fits_held positive size).toInt?_whole, nearest]
    simp only [decide_eq_true_eq]

theorem nearest_mono (le : a ≤ b) : nearest a ≤ nearest b := by
  unfold nearest
  by_cases first : a < 0
  · by_cases second : b < 0
    · have smaller := held_mono (show b.natAbs ≤ a.natAbs by omega)
      rw [if_pos first, if_pos second]
      omega
    · rw [if_pos first, if_neg second]
      omega
  · have smaller := held_mono (show a.natAbs ≤ b.natAbs by omega)
    rw [if_neg first, if_neg (show ¬ b < 0 by omega)]
    omega

/-- An integer below `2 ^ 53` in size is told apart from all others. -/
theorem eq_of_nearest_eq (small : a.natAbs < 2 ^ 53 ∨ b.natAbs < 2 ^ 53)
    (same : nearest a = nearest b) : a = b := by
  -- what lies beyond that size is held at that size at least
  have far {n : Int} (large : 2 ^ 53 ≤ n.natAbs) : 2 ^ 53 ≤ (nearest n).natAbs := by
    have bound := held_mono large
    rw [held_of_le (Nat.le_refl _)] at bound
    unfold nearest
    split <;> omega
  have near {n m : Int} (small : n.natAbs < 2 ^ 53) (same : nearest n = nearest m) : n = m := by
    have kept := nearest_of_le (Nat.le_of_lt small)
    rcases Nat.lt_or_ge m.natAbs (2 ^ 53) with below | above
    · rw [← kept, same, nearest_of_le (Nat.le_of_lt below)]
    · have large := far above
      rw [← same, kept] at large
      omega
  rcases small with first | second
  · exact near first same
  · exact (near second same.symm).symm

theorem isNaN_ofInt (a : Int) : (ofInt a).isNaN = false := by
  refine decide_eq_false (Nat.not_lt.mpr ?_)
  unfold ofInt ofRatio
  split
  · exact Nat.zero_le _
  · exact Nat.min_le_right _ _

theorem natAbs_nearest (a : Int) : (nearest a).natAbs = held a.natAbs := by
  unfold nearest
  split <;> omega

theorem nearest_neg_iff : nearest a < 0 ↔ a < 0 := by
  unfold nearest
  constructor
  · intro below
    by_contra above
    rw [if_neg above] at below
    omega
  · intro below
    have positive := held_pos (show a.natAbs ≠ 0 by omega)
    rw [if_pos below]
    omega

theorem fits_nearest (size : a.natAbs.log2 ≤ 1021) : nearest a = 0 ∨ Fits (nearest a).natAbs := by
  rw [natAbs_nearest]
  by_cases zero : a = 0
  · subst zero
    exact .inl (nearest_of_le (by decide))
  · exact .inr (fits_held (Int.natAbs_ne_zero.mpr zero) size)

/-- An integer equals its number if it is zero or its size fits, and only then. -/
theorem nearest_eq_iff (size : a.natAbs.log2 ≤ 1021) :
    nearest a = a ↔ a = 0 ∨ Fits a.natAbs := by
  constructor
  · intro exact
    have fits := fits_nearest size
    rwa [exact] at fits
  · rintro (rfl | fits)
    · exact nearest_of_le (by decide)
    · unfold nearest
      rw [held_of_dvd fits.unit_dvd]
      split <;> omega

/-- No integer that equals a number is nearer to an integer than the one that its number equals. -/
theorem nearest_closest {k : Int} (hk : k = 0 ∨ Fits k.natAbs) :
    (a - nearest a).natAbs ≤ (a - k).natAbs := by
  have closest : ((a.natAbs : Int) - held a.natAbs).natAbs ≤
      ((a.natAbs : Int) - k.natAbs).natAbs := by
    rcases hk with rfl | fits
    · by_cases zero : a = 0
      · subst zero
        simp [held_of_lt (show 0 < 2 ^ 53 by decide)]
      · have one := held_closest a.natAbs (fits_of_lt Nat.one_ne_zero (by decide))
        omega
    · exact held_closest a.natAbs fits
  unfold nearest
  split <;> omega

/-- The rank of zero or of an integer whose size fits. -/
def rankOf (n : Int) : Int := if n < 0 then -(codeOf n.natAbs : Int) else codeOf n.natAbs

theorem rankOf_lt (ha : a = 0 ∨ Fits a.natAbs) (hb : b = 0 ∨ Fits b.natAbs) (less : a < b) :
    rankOf a < rankOf b := by
  unfold rankOf
  by_cases first : a < 0
  · have fits : Fits a.natAbs := ha.resolve_left (by omega)
    have positive : 0 < codeOf a.natAbs := codeOf_lt (.inl rfl) fits (by omega)
    by_cases second : b < 0
    · have fits' : Fits b.natAbs := hb.resolve_left (by omega)
      have smaller := codeOf_lt (.inr fits') fits (by omega)
      rw [if_pos first, if_pos second]
      omega
    · rw [if_pos first, if_neg second]
      omega
  · have fits' : Fits b.natAbs := hb.resolve_left (by omega)
    have small : a.natAbs = 0 ∨ Fits a.natAbs := ha.imp_left Int.natAbs_eq_zero.mpr
    have greater := codeOf_lt small fits' (by omega)
    rw [if_neg first, if_neg (show ¬ b < 0 by omega)]
    omega

/-- The rank of a number goes by the integer that it equals. -/
theorem rank_ofInt (size : a.natAbs.log2 ≤ 1021) : (ofInt a).rank = rankOf (nearest a) := by
  have code : (ofInt a.natAbs).code = codeOf (held a.natAbs) := by
    by_cases zero : a.natAbs = 0
    · rw [zero]
      rfl
    · have positive := held_pos zero
      have sign : decide ((a.natAbs : Int) < 0) = false := by simp
      rw [ofInt, sign, Int.natAbs_natCast, ofRatio_one false zero size, codeOf,
        if_neg (Nat.ne_of_gt positive)]
  rw [ofInt_eq, rank, code, rankOf, natAbs_nearest]
  simp only [decide_eq_true_eq, nearest_neg_iff]

/-- Integers compare, as numbers, as the integers that their numbers equal. -/
theorem compare?_ofInt (ha : a.natAbs.log2 ≤ 1021) (hb : b.natAbs.log2 ≤ 1021) :
    (ofInt a).compare? (ofInt b) = some (compare (nearest a) (nearest b)) := by
  have fits := fits_nearest ha
  have fits' := fits_nearest hb
  unfold compare?
  rw [isNaN_ofInt, isNaN_ofInt, rank_ofInt ha, rank_ofInt hb]
  refine congrArg some ?_
  rcases Int.lt_trichotomy (nearest a) (nearest b) with less | same | more
  · rw [compare_lt_iff_lt.mpr less, compare_lt_iff_lt.mpr (rankOf_lt fits fits' less)]
  · rw [same, compare_eq_iff_eq.mpr rfl, compare_eq_iff_eq.mpr rfl]
  · rw [compare_gt_iff_gt.mpr more, compare_gt_iff_gt.mpr (rankOf_lt fits' fits more)]

end FieldQuery.Number

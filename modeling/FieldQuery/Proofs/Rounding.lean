import FieldQuery.Number.Decimal
import Mathlib.Tactic.Ring

/-!
# Arithmetic without rounding

A natural whose significant bits fit a code is held exactly, and a quotient that comes out even at
such a natural is that natural. This is what the reader of numerals relies on when it forms ten
times a number and divides by ten.
-/
namespace FieldQuery.Number

theorem log2_bounds {n : Nat} (h : n ≠ 0) : 2 ^ n.log2 ≤ n ∧ n < 2 ^ (n.log2 + 1) :=
  ⟨Nat.log2_self_le h, Nat.lt_log2_self⟩

theorem log2_eq {n k : Nat} (low : 2 ^ k ≤ n) (high : n < 2 ^ (k + 1)) : n.log2 = k := by
  have nonzero : n ≠ 0 := by
    have := Nat.two_pow_pos k
    omega
  exact (Nat.log2_eq_iff nonzero).mpr ⟨low, high⟩

theorem roundQuotient_mul (m : Nat) {d : Nat} (h : 0 < d) : roundQuotient (m * d) d = m := by
  unfold roundQuotient
  rw [Nat.mul_div_cancel m h, Nat.mul_mod_left]
  exact if_pos (by omega)

/-- The logarithm of a product is one of two neighbours. -/
theorem log2_mul {n d : Nat} (hn : n ≠ 0) (hd : d ≠ 0) :
    (n * d).log2 = n.log2 + d.log2 ∨ (n * d).log2 = n.log2 + d.log2 + 1 := by
  obtain ⟨lowN, highN⟩ := log2_bounds hn
  obtain ⟨lowD, highD⟩ := log2_bounds hd
  have low : 2 ^ (n.log2 + d.log2) ≤ n * d := by
    rw [Nat.pow_add]
    exact Nat.mul_le_mul lowN lowD
  have high : n * d < 2 ^ (n.log2 + d.log2 + 1 + 1) := by
    have sum : n.log2 + d.log2 + 1 + 1 = (n.log2 + 1) + (d.log2 + 1) := by omega
    rw [sum, Nat.pow_add]
    exact Nat.mul_lt_mul'' highN highD
  by_cases less : n * d < 2 ^ (n.log2 + d.log2 + 1)
  · exact .inl (log2_eq low less)
  · exact .inr (log2_eq (Nat.not_lt.mp less) high)

theorem log2_mul_two_pow {m : Nat} (positive : m ≠ 0) (j : Nat) :
    (m * 2 ^ j).log2 = m.log2 + j := by
  obtain ⟨low, high⟩ := log2_bounds positive
  apply log2_eq
  · rw [Nat.pow_add]
    exact Nat.mul_le_mul_right _ low
  · rw [Nat.add_right_comm, Nat.pow_add]
    exact Nat.mul_lt_mul_of_pos_right high (Nat.two_pow_pos j)

theorem binaryExponent_mul {n d : Nat} (hn : n ≠ 0) (hd : d ≠ 0) :
    binaryExponent (n * d) d = n.log2 := by
  obtain ⟨low, high⟩ := log2_bounds hn
  have positive : 0 < d := Nat.pos_of_ne_zero hd
  unfold binaryExponent
  rcases log2_mul hn hd with same | next
  · have e : ((n * d).log2 : Int) - d.log2 = n.log2 := by omega
    have scale : (-(n.log2 : Int)).toNat = 0 := by omega
    simp only [e, scale, Int.toNat_natCast]
    refine if_neg (Nat.not_lt.mpr ?_)
    rw [Nat.mul_comm d, Nat.pow_eq, Nat.pow_eq, Nat.pow_zero, Nat.mul_one]
    exact Nat.mul_le_mul_right d low
  · have e : ((n * d).log2 : Int) - d.log2 = (n.log2 + 1 : Nat) := by omega
    have scale : (-((n.log2 + 1 : Nat) : Int)).toNat = 0 := by omega
    simp only [e, scale, Int.toNat_natCast]
    rw [if_pos]
    · omega
    · rw [Nat.mul_comm d, Nat.pow_eq, Nat.pow_eq, Nat.pow_zero, Nat.mul_one]
      exact Nat.mul_lt_mul_of_pos_right high positive

/-- The significant bits of a natural, 53 of them. -/
def significand (n : Nat) : Nat := n * 2 ^ 52 / 2 ^ n.log2

/-- Naturals with a code of their own. -/
structure Fits (n : Nat) : Prop where
  positive : n ≠ 0
  small : n.log2 ≤ 1022
  exact : 2 ^ n.log2 ∣ n * 2 ^ 52

def whole (negative : Bool) (n : Nat) : Number :=
  ⟨negative, (n.log2 + 1022) * binade + significand n⟩

namespace Fits

variable {n : Nat} (h : Fits n)

include h

theorem significand_mul : significand n * 2 ^ n.log2 = n * 2 ^ 52 := Nat.div_mul_cancel h.exact

theorem significand_bounds : binade ≤ significand n ∧ significand n < 2 * binade := by
  obtain ⟨low, high⟩ := log2_bounds h.positive
  have power : 0 < 2 ^ n.log2 := Nat.two_pow_pos _
  have size : binade = 2 ^ 52 := by decide
  have product := h.significand_mul
  rw [size]
  constructor
  · refine Nat.le_of_mul_le_mul_right ?_ power
    rw [product, Nat.mul_comm]
    exact Nat.mul_le_mul_right _ low
  · refine Nat.lt_of_mul_lt_mul_right (a := 2 ^ n.log2) ?_
    calc significand n * 2 ^ n.log2 = n * 2 ^ 52 := product
      _ < 2 ^ (n.log2 + 1) * 2 ^ 52 := Nat.mul_lt_mul_of_pos_right high (by decide)
      _ = 2 * 2 ^ 52 * 2 ^ n.log2 := by ring

theorem parts_whole (negative : Bool) :
    (whole negative n).parts = (significand n, (n.log2 : Int) - 52) := by
  obtain ⟨low, high⟩ := h.significand_bounds
  have quotient : ((n.log2 + 1022) * binade + significand n) / binade = n.log2 + 1023 := by
    unfold binade at *
    omega
  have rest : ((n.log2 + 1022) * binade + significand n) % binade = significand n - binade := by
    unfold binade at *
    omega
  unfold parts whole
  simp only [quotient, rest]
  rw [if_neg (by omega), Nat.add_sub_cancel' low]
  exact congrArg (Prod.mk _) (by omega)

/-- The significant bits are the natural itself at the scale of its code. -/
theorem significand_scale :
    n * 2 ^ (52 - n.log2) = significand n * 2 ^ (n.log2 - 52) := by
  have product := h.significand_mul
  by_cases small : n.log2 ≤ 52
  · refine Nat.eq_of_mul_eq_mul_right (Nat.two_pow_pos n.log2) ?_
    rw [Nat.sub_eq_zero_of_le small, Nat.pow_zero, Nat.mul_one, product, Nat.mul_assoc,
      ← Nat.pow_add, Nat.sub_add_cancel small]
  · refine Nat.eq_of_mul_eq_mul_right (Nat.two_pow_pos 52) ?_
    rw [Nat.sub_eq_zero_of_le (by omega), Nat.pow_zero, Nat.mul_one, Nat.mul_assoc, ← Nat.pow_add,
      Nat.sub_add_cancel (by omega), product]

/-- A quotient that comes out even at a natural that fits. -/
theorem ofRatio_mul (negative : Bool) {d : Nat} (hd : 0 < d) :
    ofRatio negative (n * d) d = whole negative n := by
  have nonzero : n * d ≠ 0 := Nat.mul_ne_zero h.positive (Nat.ne_of_gt hd)
  have exponent : max ((n.log2 : Int) - 52) (-1074) = n.log2 - 52 := by omega
  have up : (-((n.log2 : Int) - 52)).toNat = 52 - n.log2 := by omega
  have down : ((n.log2 : Int) - 52).toNat = n.log2 - 52 := by omega
  have place : ((n.log2 : Int) - 52 + 1074).toNat = n.log2 + 1022 := by omega
  have scaled : n * d * 2 ^ (52 - n.log2) = significand n * (d * 2 ^ (n.log2 - 52)) := by
    rw [Nat.mul_right_comm, h.significand_scale]
    ring
  have bits : roundQuotient (n * d * 2 ^ (52 - n.log2)) (d * 2 ^ (n.log2 - 52)) =
      significand n := by
    rw [scaled]
    exact roundQuotient_mul _ (Nat.mul_pos hd (Nat.two_pow_pos _))
  have finite : (n.log2 + 1022) * binade + significand n ≤ infinityCode := by
    have high := h.significand_bounds.2
    have small := h.small
    unfold infinityCode binade at *
    omega
  rw [ofRatio, if_neg nonzero]
  simp only [binaryExponent_mul h.positive (Nat.ne_of_gt hd), exponent, up, down, place,
    Nat.pow_eq, bits, Nat.min_eq_left finite]
  rfl

theorem ofInt_natCast : ofInt (n : Int) = whole false n := by
  have sign : decide ((n : Int) < 0) = false := by simp
  have := h.ofRatio_mul false Nat.one_pos
  rw [Nat.mul_one] at this
  rw [ofInt, sign, Int.natAbs_natCast, this]

end Fits

theorem fits_of_lt {n : Nat} (positive : n ≠ 0) (small : n < 2 ^ 53) : Fits n := by
  have bits : n.log2 < 53 := (Nat.log2_lt positive).mpr small
  refine ⟨positive, by omega, Nat.dvd_mul_left_of_dvd ?_ n⟩
  exact Nat.pow_dvd_pow 2 (by omega)

/-- Beyond `2 ^ 53` every other natural fits, and ten times a natural is even. -/
theorem fits_ten_mul {n : Nat} (positive : n ≠ 0) (small : 10 * n ≤ 2 ^ 54) : Fits (10 * n) := by
  have nonzero : 10 * n ≠ 0 := by omega
  have bits : (10 * n).log2 < 54 := (Nat.log2_lt nonzero).mpr (by omega)
  refine ⟨nonzero, by omega, ?_⟩
  have even : 10 * n * 2 ^ 52 = 5 * n * 2 ^ 53 := by ring
  rw [even]
  exact Nat.dvd_mul_left_of_dvd (Nat.pow_dvd_pow 2 (by omega)) _

theorem div_eq {x y : Number} {m k : Nat} {q r : Int} (hx : x.parts = (m, q))
    (hy : y.parts = (k, r)) : x.div y = ofRatio (x.negative != y.negative)
      (m * 2 ^ (q - r).toNat) (k * 2 ^ (r - q).toNat) := by
  unfold div
  rw [hx, hy]
  rfl

/-- Ten times a natural, divided by ten in floating point. -/
theorem div_ten {n : Nat} (positive : n ≠ 0) (small : 10 * n ≤ 2 ^ 54) :
    (ofInt ((10 * n : Nat) : Int)).div (ofDecimal false 1 1) = whole false n := by
  have tenfold := fits_ten_mul positive small
  have ten : Fits 10 := ⟨by decide, by decide, by decide⟩
  have divisor : ofDecimal false 1 1 = whole false 10 := by decide
  have three : (10 : Nat).log2 = 3 := by decide
  have large : 3 ≤ (10 * n).log2 := (Nat.le_log2 (by omega)).mpr (by omega)
  have up : (((10 * n).log2 : Int) - 52 - ((3 : Nat) - 52)).toNat = (10 * n).log2 - 3 := by omega
  have down : (((3 : Nat) : Int) - 52 - (((10 * n).log2 : Int) - 52)).toNat = 0 := by omega
  have even : significand (10 * n) * 2 ^ ((10 * n).log2 - 3) = n * significand 10 := by
    have tenth := ten.significand_mul
    rw [three] at tenth
    refine Nat.eq_of_mul_eq_mul_right (Nat.two_pow_pos 3) ?_
    calc significand (10 * n) * 2 ^ ((10 * n).log2 - 3) * 2 ^ 3
        = significand (10 * n) * 2 ^ (10 * n).log2 := by
          rw [Nat.mul_assoc, ← Nat.pow_add, Nat.sub_add_cancel large]
      _ = 10 * n * 2 ^ 52 := tenfold.significand_mul
      _ = n * (10 * 2 ^ 52) := by ring
      _ = n * significand 10 * 2 ^ 3 := by rw [← tenth, Nat.mul_assoc]
  rw [tenfold.ofInt_natCast, divisor, div_eq (tenfold.parts_whole false) (ten.parts_whole false),
    three, up, down, even, Nat.pow_zero, Nat.mul_one]
  exact (fits_of_lt positive (by omega)).ofRatio_mul false (by decide)

theorem significand_eq {n s l : Nat} (bits : n.log2 = l) (h : s * 2 ^ l = n * 2 ^ 52) :
    significand n = s := by
  rw [significand, bits, ← h, Nat.mul_div_cancel _ (Nat.two_pow_pos l)]

/-- The size of an integer and the parts of the number that equals it. -/
theorem parts_of_toInt? {x : Number} {k : Int} {m : Nat} {q : Int} (h : x.toInt? = some k)
    (parts : x.parts = (m, q)) : m * 2 ^ q.toNat = k.natAbs * 2 ^ (-q).toNat := by
  have abs (n : Nat) : (if x.negative then -(n : Int) else n).natAbs = n := by
    split <;> omega
  unfold toInt? at h
  rw [parts] at h
  split at h
  · cases h
  simp only at h
  by_cases up : 0 ≤ q
  · rw [if_pos up] at h
    obtain rfl := Option.some.inj h
    have shift : (-q).toNat = 0 := by omega
    rw [shift, Nat.pow_zero, Nat.mul_one]
    exact (abs _).symm
  · rw [if_neg up] at h
    by_cases even : m % Nat.pow 2 (-q).toNat = 0
    · rw [if_pos even] at h
      obtain rfl := Option.some.inj h
      have shift : q.toNat = 0 := by omega
      rw [shift, Nat.pow_zero, Nat.mul_one]
      have quotient := abs (m / Nat.pow 2 (-q).toNat)
      exact (Nat.div_mul_cancel (Nat.dvd_of_mod_eq_zero even)).symm.trans
        (congrArg (· * Nat.pow 2 (-q).toNat) quotient.symm)
    · rw [if_neg even] at h
      cases h

/-- A number that equals zero. -/
theorem code_of_toInt?_zero {x : Number} (h : x.toInt? = some 0) : x.code = 0 := by
  obtain ⟨negative, code⟩ := x
  have split : code = code / binade * binade + code % binade := (Nat.div_add_mod' _ _).symm
  have positive (q : Int) : 2 ^ q.toNat ≠ 0 := Nat.ne_of_gt (Nat.two_pow_pos _)
  by_cases subnormal : code / binade = 0
  · have parts := parts_of_toInt? (m := code % binade) h (if_pos subnormal)
    rw [Int.natAbs_zero, Nat.zero_mul] at parts
    have fraction : code % binade = 0 := (Nat.mul_eq_zero.mp parts).resolve_right (positive _)
    rw [subnormal, fraction, Nat.zero_mul] at split
    exact split
  · have parts := parts_of_toInt? (m := binade + code % binade) h (if_neg subnormal)
    rw [Int.natAbs_zero, Nat.zero_mul] at parts
    have fraction := (Nat.mul_eq_zero.mp parts).resolve_right (positive _)
    have unit : 0 < binade := by decide
    omega

/-- The significant bits of a natural that comes scaled up to 53 of them. -/
theorem significand_of_scaled {n m j : Nat} (positive : n ≠ 0) (low : 2 ^ 52 ≤ m)
    (high : m < 2 ^ 53) (scaled : m = n * 2 ^ j) :
    j ≤ 52 ∧ n.log2 = 52 - j ∧ significand n = m := by
  have scale := log2_mul_two_pow positive j
  rw [← scaled, log2_eq low high] at scale
  have room : j ≤ 52 := by omega
  have bits : n.log2 = 52 - j := by omega
  refine ⟨room, bits, significand_eq bits ?_⟩
  rw [scaled, Nat.mul_assoc, ← Nat.pow_add, Nat.add_sub_cancel' room]

/-- The unit of a subnormal number is far below one. -/
theorem not_subnormal_of_toInt? {x : Number} {k : Int} (h : x.toInt? = some k) (nonzero : k ≠ 0) :
    x.code / binade ≠ 0 := by
  intro subnormal
  have parts := parts_of_toInt? (m := x.code % binade) h (if_pos subnormal)
  have shift : (-1074 : Int).toNat = 0 := rfl
  have deep : 52 ≤ (-(-1074 : Int)).toNat := by decide
  have below : x.code % binade < 2 ^ 52 := Nat.mod_lt _ (by decide)
  have large := Nat.le_trans (Nat.pow_le_pow_right (n := 2) (by decide) deep)
    (Nat.le_mul_of_pos_left _ (Int.natAbs_pos.mpr nonzero))
  rw [shift, Nat.pow_zero, Nat.mul_one] at parts
  rw [← parts] at large
  omega

/-- A number that equals a small integer other than zero. -/
theorem eq_whole_of_toInt? {x : Number} {k : Int} (h : x.toInt? = some k) (nonzero : k ≠ 0)
    (small : k.natAbs < 2 ^ 53) : x = whole x.negative k.natAbs := by
  have normal := not_subnormal_of_toInt? h nonzero
  obtain ⟨negative, code⟩ := x
  generalize abs : k.natAbs = n at *
  have positive : n ≠ 0 := by omega
  have split : code = code / binade * binade + code % binade := (Nat.div_add_mod' _ _).symm
  have below : code % binade < binade := Nat.mod_lt _ (by decide)
  have size : binade = 2 ^ 52 := by decide
  have parts := parts_of_toInt? h (if_neg normal)
  generalize code / binade = e at *
  generalize code % binade = f at *
  have down : e ≤ 1075 := by
    by_contra up
    have left : (-((e : Int) - 1075)).toNat = 0 := by omega
    obtain ⟨q, right⟩ : ∃ q, ((e : Int) - 1075).toNat = q + 1 := ⟨e - 1076, by omega⟩
    rw [left, right, Nat.pow_zero, Nat.mul_one, abs, Nat.pow_succ'] at parts
    have large : binade * 2 ≤ (binade + f) * (2 * 2 ^ q) :=
      Nat.mul_le_mul (by omega) (Nat.le_mul_of_pos_right 2 (Nat.two_pow_pos q))
    rw [parts, size] at large
    omega
  obtain ⟨j, hj⟩ : ∃ j, e + j = 1075 := ⟨1075 - e, by omega⟩
  have left : ((e : Int) - 1075).toNat = 0 := by omega
  have right : (-((e : Int) - 1075)).toNat = j := by omega
  rw [left, right, Nat.pow_zero, Nat.mul_one, abs] at parts
  obtain ⟨room, bits, significant⟩ :=
    significand_of_scaled positive (by omega) (by omega) parts
  have place : e * binade + f = (52 - j + 1022) * binade + (binade + f) := by
    unfold binade
    omega
  rw [whole, bits, significant, split, place]

/-- Up to `2 ^ 53` every natural fits. -/
theorem fits_of_le {n : Nat} (positive : n ≠ 0) (small : n ≤ 2 ^ 53) : Fits n := by
  rcases Nat.lt_or_eq_of_le small with less | rfl
  · exact fits_of_lt positive less
  · exact ⟨by decide, by decide, by decide⟩

/-- Greater naturals have greater codes. -/
theorem code_whole_lt {n k : Nat} (hn : Fits n) (hk : Fits k) (less : n < k) :
    (whole false n).code < (whole false k).code := by
  have high := hn.significand_bounds.2
  have low := hk.significand_bounds.1
  have order : n.log2 ≤ k.log2 := (Nat.le_log2 hk.positive).mpr
    (Nat.le_trans (Nat.log2_self_le hn.positive) (Nat.le_of_lt less))
  change (n.log2 + 1022) * binade + significand n < (k.log2 + 1022) * binade + significand k
  rcases Nat.lt_or_eq_of_le order with apart | same
  · unfold binade at *
    omega
  · rw [same]
    refine Nat.add_lt_add_left (Nat.lt_of_mul_lt_mul_right (a := 2 ^ k.log2) ?_) _
    have first := hn.significand_mul
    rw [same] at first
    rw [first, hk.significand_mul]
    exact Nat.mul_lt_mul_of_pos_right less (by decide)

/-- The code of a whole number depends on its size alone. -/
theorem ofInt_eq (k : Int) : ofInt k = ⟨k < 0, (ofInt k.natAbs).code⟩ := by
  unfold ofInt ofRatio
  rw [Int.natAbs_natCast]
  split <;> rfl

/-- The code of zero or of a natural that fits. -/
def codeOf (n : Nat) : Nat := if n = 0 then 0 else (whole false n).code

theorem codeOf_lt {n k : Nat} (hn : n = 0 ∨ Fits n) (hk : Fits k) (less : n < k) :
    codeOf n < codeOf k := by
  unfold codeOf
  rw [if_neg hk.positive]
  rcases hn with rfl | hn
  · have low := hk.significand_bounds.1
    change 0 < (k.log2 + 1022) * binade + significand k
    unfold binade at *
    omega
  · rw [if_neg hn.positive]
    exact code_whole_lt hn hk less

theorem code_ofInt {n : Nat} (h : n = 0 ∨ Fits n) : (ofInt n).code = codeOf n := by
  rcases h with rfl | h
  · rfl
  · rw [h.ofInt_natCast, codeOf, if_neg h.positive]

theorem code_ofInt_lt {n k : Nat} (small : k ≤ 2 ^ 53) (less : n < k) :
    (ofInt n).code < (ofInt k).code := by
  have hk := fits_of_le (by omega) small
  have hn : n = 0 ∨ Fits n := by
    by_cases zero : n = 0
    · exact .inl zero
    · exact .inr (fits_of_le zero (by omega))
  rw [code_ofInt hn, code_ofInt (.inr hk)]
  exact codeOf_lt hn hk less

theorem totalRank_ofInt_lt {a b : Int} (ha : a.natAbs ≤ 2 ^ 53) (hb : b.natAbs ≤ 2 ^ 53)
    (less : a < b) : (ofInt a).totalRank < (ofInt b).totalRank := by
  rw [ofInt_eq a, ofInt_eq b]
  unfold totalRank
  by_cases first : a < 0
  · by_cases second : b < 0
    · have smaller := code_ofInt_lt ha (n := b.natAbs) (by omega)
      simp only [first, second, decide_true, ↓reduceIte]
      omega
    · simp only [first, second, decide_true, decide_false, ↓reduceIte, Bool.false_eq_true]
      omega
  · have second : ¬ b < 0 := by omega
    have smaller := code_ofInt_lt hb (n := a.natAbs) (by omega)
    simp only [first, second, decide_false, ↓reduceIte, Bool.false_eq_true]
    omega

/-- Integers up to `2 ^ 53` are ordered as numbers as they are among themselves. -/
theorem totalCompare_ofInt {a b : Int} (ha : a.natAbs ≤ 2 ^ 53) (hb : b.natAbs ≤ 2 ^ 53) :
    (ofInt a).totalCompare (ofInt b) = compare a b := by
  unfold totalCompare
  rcases Int.lt_trichotomy a b with less | rfl | more
  · rw [compare_lt_iff_lt.mpr less, compare_lt_iff_lt.mpr (totalRank_ofInt_lt ha hb less)]
  · rw [compare_eq_iff_eq.mpr rfl, compare_eq_iff_eq.mpr rfl]
  · rw [compare_gt_iff_gt.mpr more, compare_gt_iff_gt.mpr (totalRank_ofInt_lt hb ha more)]

end FieldQuery.Number

import FieldQuery.Calendar.Writer
import FieldQuery.Proofs.Digits
import Mathlib.Tactic.Ring

/-!
# The order of texts

Texts are compared character by character. Of texts made of parts, the first parts that differ
decide if they are equally long, and numbers written to one width compare as texts as they do as
numbers.
-/
namespace FieldQuery

theorem cons_lt_cons {c d : Char} {s t : List Char} : c :: s < d :: t ↔ c < d ∨ c = d ∧ s < t :=
  List.cons_lt_cons_iff

theorem compare_chars (s t : List Char) : Ord.compare s t = compareOfLessAndEq s t := by
  induction s generalizing t with
  | nil => cases t <;> rfl
  | cons c s ih =>
    cases t with
    | nil => rfl
    | cons d t =>
      rw [List.compare_cons_cons, ih]
      change (compareOfLessAndEq c d).then _ = _
      unfold compareOfLessAndEq
      by_cases less : c < d
      · have whole : c :: s < d :: t := cons_lt_cons.mpr (.inl less)
        rw [if_pos less, if_pos whole]
        rfl
      · by_cases same : c = d
        · subst same
          have whole : c :: s < c :: t ↔ s < t :=
            cons_lt_cons.trans ⟨fun h => (h.resolve_left less).2, fun h => .inr ⟨rfl, h⟩⟩
          rw [if_neg less, if_pos rfl]
          simp only [whole, List.cons.injEq, true_and]
          rfl
        · have whole : ¬ c :: s < d :: t := by
            rw [cons_lt_cons]
            simp [less, same]
          have other : c :: s ≠ d :: t := fun eq => same (List.cons.inj eq).1
          rw [if_neg less, if_neg same, if_neg whole, if_neg other]
          rfl

/-- Strings compare as the lists of their characters. -/
theorem compare_strings (s t : String) : Ord.compare s t = Ord.compare s.toList t.toList := by
  rw [compare_chars]
  change compareOfLessAndEq s t = _
  unfold compareOfLessAndEq
  have same : s = t ↔ s.toList = t.toList := String.toList_inj.symm
  have less : s < t ↔ s.toList < t.toList := Iff.rfl
  simp only [less, same]

/-- The first parts decide if they are equally long. -/
theorem compare_append {s s' : List Char} (long : s.length = s'.length) (t t' : List Char) :
    Ord.compare (s ++ t) (s' ++ t') = (Ord.compare s s').then (Ord.compare t t') := by
  induction s generalizing s' with
  | nil =>
    rw [List.length_nil] at long
    rw [List.length_eq_zero_iff.mp long.symm]
    rfl
  | cons c s ih =>
    cases s' with
    | nil => cases long
    | cons d s' =>
      rw [List.cons_append, List.cons_append, List.compare_cons_cons, List.compare_cons_cons,
        ih (Nat.succ.inj long), Ordering.then_assoc]

/-- What stands in both in front does not count. -/
theorem compare_append_left (s t t' : List Char) :
    Ord.compare (s ++ t) (s ++ t') = Ord.compare t t' := by
  rw [compare_append rfl, Std.ReflOrd.compare_self]
  rfl

/-- Comparing depends on nothing but which is less and which is equal. -/
theorem compare_congr {p p' q q' : Nat} (less : p < p' ↔ q < q') (same : p = p' ↔ q = q') :
    Ord.compare p p' = Ord.compare q q' := by
  rcases Nat.lt_trichotomy p p' with h | h | h
  · rw [Nat.compare_eq_lt.mpr h, Nat.compare_eq_lt.mpr (less.mp h)]
  · rw [Nat.compare_eq_eq.mpr h, Nat.compare_eq_eq.mpr (same.mp h)]
  · rw [Nat.compare_eq_gt.mpr h, Nat.compare_eq_gt.mpr (by omega)]

/-- Of numbers in two places the first place decides. -/
theorem compare_places {base a b x y : Nat} (hx : x < base) (hy : y < base) :
    Ord.compare (a * base + x) (b * base + y) = (Ord.compare a b).then (Ord.compare x y) := by
  rcases Nat.lt_trichotomy a b with less | rfl | more
  · have below : a * base + base ≤ b * base := Nat.succ_mul a base ▸ Nat.mul_le_mul_right base less
    rw [Nat.compare_eq_lt.mpr less, Nat.compare_eq_lt.mpr (by omega)]
    rfl
  · rw [Nat.compare_eq_eq.mpr rfl, Ordering.eq_then]
    rcases Nat.lt_trichotomy x y with less | rfl | more
    · rw [Nat.compare_eq_lt.mpr less, Nat.compare_eq_lt.mpr (by omega)]
    · rw [Nat.compare_eq_eq.mpr rfl, Nat.compare_eq_eq.mpr rfl]
    · rw [Nat.compare_eq_gt.mpr more, Nat.compare_eq_gt.mpr (by omega)]
  · have above : b * base + base ≤ a * base := Nat.succ_mul b base ▸ Nat.mul_le_mul_right base more
    rw [Nat.compare_eq_gt.mpr more, Nat.compare_eq_gt.mpr (by omega)]
    rfl

theorem digitsValue_cons (c : Char) (ds : List Char) :
    digitsValue (c :: ds) = digitValue c * 10 ^ ds.length + digitsValue ds := by
  have general (n : Nat) : ds.foldl (fun n c => 10 * n + digitValue c) n =
      n * 10 ^ ds.length + digitsValue ds := by
    unfold digitsValue
    induction ds generalizing n with
    | nil => simp
    | cons d rest ih =>
      rw [List.foldl_cons, List.foldl_cons, ih, ih (10 * 0 + digitValue d), List.length_cons,
        Nat.pow_succ]
      ring
  have first : digitsValue (c :: ds) = (10 * 0 + digitValue c) * 10 ^ ds.length + digitsValue ds :=
    general _
  rw [first, Nat.mul_zero, Nat.zero_add]

theorem digitsValue_append (s t : List Char) :
    digitsValue (s ++ t) = digitsValue s * 10 ^ t.length + digitsValue t := by
  induction s with
  | nil => exact (Nat.zero_add _).symm.trans (congrArg (· + _) (Nat.zero_mul _).symm)
  | cons c s ih =>
    rw [List.cons_append, digitsValue_cons, digitsValue_cons, ih, List.length_append]
    ring

theorem digit_bounds {c : Char} (digit : c.isDigit = true) : 48 ≤ c.toNat ∧ c.toNat ≤ 57 :=
  Char.isDigit_iff_toNat.mp digit

theorem digitsValue_lt {ds : List Char} (digits : ∀ c ∈ ds, c.isDigit = true) :
    digitsValue ds < 10 ^ ds.length := by
  induction ds with
  | nil => decide
  | cons c rest ih =>
    obtain ⟨first, digits⟩ := List.forall_mem_cons.mp digits
    have later := ih digits
    have small : digitValue c ≤ 9 := Nat.sub_le_sub_right (digit_bounds first).2 48
    have most := Nat.mul_le_mul_right (10 ^ rest.length) small
    rw [digitsValue_cons, List.length_cons, Nat.pow_succ]
    omega

theorem compare_digit {c d : Char} (hc : c.isDigit = true) (hd : d.isDigit = true) :
    Ord.compare c d = Ord.compare (digitValue c) (digitValue d) := by
  obtain ⟨c_le, -⟩ := digit_bounds hc
  obtain ⟨d_le, -⟩ := digit_bounds hd
  have less : c < d ↔ digitValue c < digitValue d := by
    change c.toNat < d.toNat ↔ c.toNat - 48 < d.toNat - 48
    omega
  have same : c = d ↔ digitValue c = digitValue d := by
    rw [← Char.toNat_inj]
    change c.toNat = d.toNat ↔ c.toNat - 48 = d.toNat - 48
    omega
  change compareOfLessAndEq c d = compareOfLessAndEq (digitValue c) (digitValue d)
  simp only [compareOfLessAndEq, less, same]

/-- Equally many digits compare as what they denote. -/
theorem compare_digits {s t : List Char} (long : s.length = t.length)
    (hs : ∀ c ∈ s, c.isDigit = true) (ht : ∀ c ∈ t, c.isDigit = true) :
    Ord.compare s t = Ord.compare (digitsValue s) (digitsValue t) := by
  induction s generalizing t with
  | nil => rw [List.length_eq_zero_iff.mp long.symm]; rfl
  | cons c s ih =>
    cases t with
    | nil => cases long
    | cons d t =>
      obtain ⟨hc, hs⟩ := List.forall_mem_cons.mp hs
      obtain ⟨hd, ht⟩ := List.forall_mem_cons.mp ht
      have rest := Nat.succ.inj long
      have below := digitsValue_lt ht
      rw [← rest] at below
      rw [List.compare_cons_cons, compare_digit hc hd, ih rest hs ht, digitsValue_cons,
        digitsValue_cons, ← rest, compare_places (digitsValue_lt hs) below]

theorem isDigit_of_mem_padded {width n : Nat} {c : Char} (h : c ∈ padded width n) :
    c.isDigit = true := by
  rcases List.mem_append.mp h with zero | digit
  · rw [List.eq_of_mem_replicate zero]
    rfl
  · exact isDigit_of_mem_decimalDigits digit

theorem length_padded {width n : Nat} (positive : 0 < width) (fits : n < 10 ^ width) :
    (padded width n).length = width := by
  have short : (decimalDigits n).length ≤ width :=
    (Nat.length_toDigits_le_iff (by decide) positive).mpr fits
  unfold padded
  rw [List.length_append, List.length_replicate]
  omega

theorem digitsValue_padded (width n : Nat) : digitsValue (padded width n) = n := by
  have zeros (k : Nat) (ds : List Char) :
      digitsValue (List.replicate k '0' ++ ds) = digitsValue ds := by
    induction k with
    | zero => rfl
    | succ k ih => exact ih
  exact (zeros _ _).trans (digitsValue_decimalDigits n)

/-- Numbers written to one width compare as texts as they do as numbers. -/
theorem compare_padded {width n k : Nat} (positive : 0 < width) (hn : n < 10 ^ width)
    (hk : k < 10 ^ width) : Ord.compare (padded width n) (padded width k) = Ord.compare n k := by
  have long := (length_padded positive hn).trans (length_padded positive hk).symm
  rw [compare_digits long (fun _ => isDigit_of_mem_padded) fun _ => isDigit_of_mem_padded,
    digitsValue_padded, digitsValue_padded]

/-- A number is written as its leading and its trailing digits. -/
theorem padded_add {w v n : Nat} (hw : 0 < w) (hv : 0 < v) (fits : n < 10 ^ (w + v)) :
    padded (w + v) n = padded w (n / 10 ^ v) ++ padded v (n % 10 ^ v) := by
  have front : n / 10 ^ v < 10 ^ w := Nat.div_lt_of_lt_mul (by rwa [← Nat.pow_add, Nat.add_comm])
  have back : n % 10 ^ v < 10 ^ v := Nat.mod_lt _ (Nat.pow_pos (by decide))
  have long : (padded (w + v) n).length =
      (padded w (n / 10 ^ v) ++ padded v (n % 10 ^ v)).length := by
    rw [List.length_append, length_padded hw front, length_padded hv back,
      length_padded (by omega) fits]
  have digits : ∀ c ∈ padded w (n / 10 ^ v) ++ padded v (n % 10 ^ v), c.isDigit = true := by
    intro c h
    exact (List.mem_append.mp h).elim isDigit_of_mem_padded isDigit_of_mem_padded
  have same := compare_digits long (fun _ => isDigit_of_mem_padded) digits
  rw [digitsValue_append, digitsValue_padded, digitsValue_padded, digitsValue_padded,
    length_padded hv back, Nat.div_add_mod', Nat.compare_eq_eq.mpr rfl] at same
  exact Std.LawfulEqOrd.eq_of_compare same

/-- Comparing texts that go on after a number of one width. -/
theorem compare_padded_append {width n k : Nat} (positive : 0 < width) (hn : n < 10 ^ width)
    (hk : k < 10 ^ width) (s t : List Char) :
    Ord.compare (padded width n ++ s) (padded width k ++ t) =
      (Ord.compare n k).then (Ord.compare s t) := by
  rw [compare_append ((length_padded positive hn).trans (length_padded positive hk).symm),
    compare_padded positive hn hk]

/-- A text that comes before all that begin with a point or a digit. -/
def Low (s : List Char) : Prop := ∀ c ∈ s.head?, c < '.'

theorem Low.compare_cons {tail : List Char} (low : Low tail) {c : Char} (high : '.' ≤ c)
    (s : List Char) : Ord.compare tail (c :: s) = .lt := by
  cases tail with
  | nil => rfl
  | cons d tail =>
    have less : d < c := Nat.lt_of_lt_of_le (low d rfl) high
    rw [compare_chars]
    exact if_pos (cons_lt_cons.mpr (.inl less))

/-- Of numbers behind a point the shorter one is as if filled up with zeros, if the longer one does
not end with them. -/
theorem compare_cut {w v x z : Nat} {tail : List Char} (low : Low tail) (hw : 0 < w) (hv : 0 < v)
    (hx : x < 10 ^ w) (hz : z < 10 ^ (w + v)) (rest : z % 10 ^ v ≠ 0) :
    Ord.compare (padded w x ++ tail) (padded (w + v) z ++ tail) = Ord.compare (x * 10 ^ v) z := by
  have front : z / 10 ^ v < 10 ^ w := Nat.div_lt_of_lt_mul (by rwa [← Nat.pow_add, Nat.add_comm])
  have more : 0 < 10 ^ v := Nat.pow_pos (by decide)
  have back : z % 10 ^ v < 10 ^ v := Nat.mod_lt _ more
  have longer : Ord.compare tail (padded v (z % 10 ^ v) ++ tail) = .lt := by
    have long := length_padded hv back
    cases digits : padded v (z % 10 ^ v) with
    | nil => rw [digits] at long; cases hv.ne long
    | cons c cs =>
      have digit : c.isDigit = true := isDigit_of_mem_padded (digits ▸ List.mem_cons_self)
      refine low.compare_cons ?_ _
      have := (digit_bounds digit).1
      change 46 ≤ c.toNat
      omega
  have value := compare_places (a := x) (b := z / 10 ^ v) more back
  rw [Nat.add_zero, Nat.div_add_mod'] at value
  rw [padded_add hw hv hz, List.append_assoc, compare_padded_append hw hx front, longer, value,
    Nat.compare_eq_lt.mpr (Nat.pos_of_ne_zero rest)]

end FieldQuery

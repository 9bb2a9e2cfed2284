import FieldQuery.Proofs.TextOrder

/-!
# The order of calendar texts

Days of the years 0 to 9999, times of day and instants in universal time come one after another as
their texts do. Main statements: `Day.compare_text`, `Clock.compare_text`, `Moment.compare_text`.
-/
namespace FieldQuery

instance Day.transCmp : Std.TransCmp Day.compare :=
  inferInstanceAs (Std.TransCmp (compareOn Day.number))

instance Clock.transCmp : Std.TransCmp Clock.compare :=
  inferInstanceAs (Std.TransCmp (compareLex (compareOn Clock.second) (compareOn Clock.nano)))

instance Moment.transCmp : Std.TransCmp Moment.compare :=
  inferInstanceAs (Std.TransCmp (compareLex (compareOn fun m : Moment => m.day.number)
    (compareLex (compareOn fun m : Moment => m.clock.second)
      (compareOn fun m : Moment => m.clock.nano))))

instance Day.lawfulEqCmp : Std.LawfulEqCmp Day.compare where
  eq_of_compare tie := congrArg Day.mk (Std.LawfulEqCmp.eq_of_compare tie)

instance Clock.lawfulEqCmp : Std.LawfulEqCmp Clock.compare where
  eq_of_compare tie := by
    obtain ⟨seconds, nanos⟩ := Ordering.then_eq_eq.mp tie
    exact congrArg₂ Clock.mk (Std.LawfulEqCmp.eq_of_compare seconds)
      (Std.LawfulEqCmp.eq_of_compare nanos)

instance Moment.lawfulEqCmp : Std.LawfulEqCmp Moment.compare where
  eq_of_compare tie := by
    obtain ⟨days, clocks⟩ := Ordering.then_eq_eq.mp tie
    exact congrArg₂ Moment.mk (Std.LawfulEqCmp.eq_of_compare days)
      (Std.LawfulEqCmp.eq_of_compare clocks)

namespace Day

/-- The day in its era of 400 years, which begins on 1 March. -/
def dayOfEra (d : Day) : Int := (d.number + 719468) % 146097

def yearOfEra (doe : Int) : Int := (doe - doe / 1460 + doe / 36524 - doe / 146096) / 365

def dayOfYear (doe : Int) : Int :=
  doe - (365 * yearOfEra doe + yearOfEra doe / 4 - yearOfEra doe / 100)

/-- Months from March, which is 0. -/
def monthOfYear (doy : Int) : Int := (5 * doy + 2) / 153

def dayOfMonth (doy : Int) : Int := doy - (153 * monthOfYear doy + 2) / 5 + 1

theorem dayOfEra_bounds (d : Day) : 0 ≤ d.dayOfEra ∧ d.dayOfEra < 146097 :=
  ⟨Int.emod_nonneg _ (by decide), Int.emod_lt_of_pos _ (by decide)⟩

theorem yearOfEra_mono {a b : Int} (le : a ≤ b) : yearOfEra a ≤ yearOfEra b := by
  have spans : a - a / 1460 ≤ b - b / 1460 := by omega
  have centuries : a / 36524 - a / 146096 ≤ b / 36524 - b / 146096 := by
    have quarter (n : Int) : n / 146096 = n / 36524 / 4 := by omega
    have le : a / 36524 ≤ b / 36524 := Int.ediv_le_ediv (by decide) le
    rw [quarter, quarter]
    generalize a / 36524 = c at *
    omega
  refine Int.ediv_le_ediv (by decide) ?_
  omega

theorem yearOfEra_bounds {doe : Int} (first : 0 ≤ doe) (last : doe < 146097) :
    0 ≤ yearOfEra doe ∧ yearOfEra doe ≤ 399 :=
  ⟨yearOfEra_mono first, yearOfEra_mono (b := 146096) (by omega)⟩

/-- Years take 365 days each, but for the leap days. -/
theorem yearOfEra_spec {doe : Int} (first : 0 ≤ doe) (last : doe < 146096) :
    365 * yearOfEra doe ≤ doe - doe / 1460 + doe / 36524 ∧
      doe - doe / 1460 + doe / 36524 < 365 * yearOfEra doe + 365 := by
  have whole : doe / 146096 = 0 := Int.ediv_eq_zero_of_lt first last
  unfold yearOfEra
  rw [whole]
  omega

theorem yearOfEra_div_hundred {doe : Int} (first : 0 ≤ doe) (last : doe < 146096) :
    yearOfEra doe / 100 = doe / 36524 := by
  obtain ⟨long, short⟩ := yearOfEra_spec first last
  have centuries : 36524 * (doe / 36524) ≤ doe ∧ doe < 36524 * (doe / 36524) + 36524 := by omega
  have spans : 1460 * (doe / 1460) ≤ doe ∧ doe < 1460 * (doe / 1460) + 1460 := by omega
  generalize yearOfEra doe = y, doe / 36524 = c, doe / 1460 = a at *
  have least : 100 * c ≤ y := by omega
  have most : y < 100 * c + 100 := by omega
  omega

theorem dayOfYear_bounds (d : Day) :
    0 ≤ dayOfYear d.dayOfEra ∧ dayOfYear d.dayOfEra ≤ 365 := by
  obtain ⟨first, last⟩ := d.dayOfEra_bounds
  generalize d.dayOfEra = doe at *
  -- only the last day of an era lies behind its four centuries of 36524 days
  by_cases leap : doe = 146096
  · subst leap
    decide
  · have last : doe < 146096 := by omega
    obtain ⟨long, short⟩ := yearOfEra_spec first last
    unfold dayOfYear
    rw [yearOfEra_div_hundred first last]
    generalize yearOfEra doe = y at *
    omega

theorem monthOfYear_bounds {doy : Int} (year : 0 ≤ doy ∧ doy ≤ 365) :
    0 ≤ monthOfYear doy ∧ monthOfYear doy ≤ 11 := by
  unfold monthOfYear
  omega

theorem dayOfMonth_bounds (doy : Int) : 1 ≤ dayOfMonth doy ∧ dayOfMonth doy ≤ 31 := by
  unfold dayOfMonth monthOfYear
  omega

/-- Years that begin in March. -/
def marchYear (d : Day) : Int := yearOfEra d.dayOfEra + (d.number + 719468) / 146097 * 400

theorem marchYear_lt {d e : Day} (less : d.number < e.number) : d.marchYear < e.marchYear ∨
    d.marchYear = e.marchYear ∧ dayOfYear d.dayOfEra < dayOfYear e.dayOfEra := by
  obtain ⟨first, last⟩ := d.dayOfEra_bounds
  obtain ⟨first', last'⟩ := e.dayOfEra_bounds
  unfold marchYear
  by_cases era : (d.number + 719468) / 146097 = (e.number + 719468) / 146097
  · have later : d.dayOfEra < e.dayOfEra := by
      unfold dayOfEra
      omega
    have mono := yearOfEra_mono later.le
    by_cases same : yearOfEra d.dayOfEra = yearOfEra e.dayOfEra
    · right
      unfold dayOfYear
      omega
    · left
      omega
  · left
    have year := yearOfEra_bounds first last
    have year' := yearOfEra_bounds first' last'
    omega

theorem monthOfYear_lt {a b : Int} (less : a < b) : monthOfYear a < monthOfYear b ∨
    monthOfYear a = monthOfYear b ∧ dayOfMonth a < dayOfMonth b := by
  have mono : monthOfYear a ≤ monthOfYear b := Int.ediv_le_ediv (by decide) (by omega)
  unfold dayOfMonth
  omega

/-- The months of a calendar year are those of a year from March, ten months on. -/
theorem civil_spec (d : Day) : d.civil.1 * 12 + d.civil.2.1 =
      d.marchYear * 12 + monthOfYear (dayOfYear d.dayOfEra) + 3 ∧
    (1 ≤ d.civil.2.1 ∧ d.civil.2.1 ≤ 12) ∧
    d.civil.2.2 = dayOfMonth (dayOfYear d.dayOfEra) ∧ d.civil.2.2 ≤ 31 := by
  obtain ⟨early, late⟩ := monthOfYear_bounds d.dayOfYear_bounds
  obtain ⟨low, high⟩ := dayOfMonth_bounds (dayOfYear d.dayOfEra)
  have parts : d.civil =
      (let mp := monthOfYear (dayOfYear d.dayOfEra)
      let m := if mp < 10 then (mp + 3).toNat else (mp - 9).toNat
      (if m ≤ 2 then d.marchYear + 1 else d.marchYear, m,
        (dayOfMonth (dayOfYear d.dayOfEra)).toNat)) := rfl
  rw [parts]
  simp only
  split <;> split <;> omega

/-- A later day has a later year, or a later month in it, or a later day in that. -/
theorem civil_lt {d e : Day} (less : d.number < e.number) : d.civil.1 < e.civil.1 ∨
    d.civil.1 = e.civil.1 ∧ (d.civil.2.1 < e.civil.2.1 ∨
      d.civil.2.1 = e.civil.2.1 ∧ d.civil.2.2 < e.civil.2.2) := by
  obtain ⟨months, short, day, -⟩ := d.civil_spec
  obtain ⟨months', short', day', -⟩ := e.civil_spec
  have month := monthOfYear_bounds d.dayOfYear_bounds
  have month' := monthOfYear_bounds e.dayOfYear_bounds
  rcases marchYear_lt less with year | ⟨year, later⟩
  · omega
  · have month := monthOfYear_lt later
    omega

/-- A year of four digits, written without a sign. -/
def Plain (d : Day) : Prop := 0 ≤ d.civil.1 ∧ d.civil.1 ≤ 9999

instance (d : Day) : Decidable d.Plain := inferInstanceAs (Decidable (_ ∧ _))

/-- Year, month and day as one number. -/
def serial (d : Day) : Nat := (d.civil.1.toNat * 13 + d.civil.2.1) * 32 + d.civil.2.2

theorem serial_lt {d e : Day} (plain : d.Plain) (less : d.number < e.number) :
    d.serial < e.serial := by
  obtain ⟨-, ⟨-, short⟩, -, few⟩ := d.civil_spec
  obtain ⟨first, -⟩ := plain
  unfold serial
  have later := civil_lt less
  omega

theorem compare_serial {d e : Day} (hd : d.Plain) (he : e.Plain) :
    Ord.compare d.serial e.serial = d.compare e := by
  unfold compare
  rcases Int.lt_trichotomy d.number e.number with less | same | more
  · rw [Int.compare_eq_lt.mpr less, Nat.compare_eq_lt.mpr (serial_lt hd less)]
  · have same : d = e := congrArg Day.mk same
    rw [same, Int.compare_eq_eq.mpr rfl, Nat.compare_eq_eq.mpr rfl]
  · rw [Int.compare_eq_gt.mpr more, Nat.compare_eq_gt.mpr (serial_lt he more)]

theorem text_of_plain {d : Day} (plain : d.Plain) :
    d.text = padded 4 d.civil.1.toNat ++
      '-' :: (padded 2 d.civil.2.1 ++ '-' :: padded 2 d.civil.2.2) := by
  have unsigned : yearText d.civil.1 = padded 4 d.civil.1.toNat := if_pos plain
  change yearText d.civil.1 ++ ['-'] ++ padded 2 d.civil.2.1 ++ ['-'] ++ padded 2 d.civil.2.2 = _
  rw [unsigned]
  simp only [List.append_assoc, List.cons_append, List.nil_append]

/-- Days compare as their texts, which are equally long. -/
theorem compare_text_append {d e : Day} (hd : d.Plain) (he : e.Plain) (s t : List Char) :
    Ord.compare (d.text ++ s) (e.text ++ t) = (d.compare e).then (Ord.compare s t) := by
  obtain ⟨-, ⟨-, short⟩, -, few⟩ := d.civil_spec
  obtain ⟨-, ⟨-, short'⟩, -, few'⟩ := e.civil_spec
  have last := hd.2
  have last' := he.2
  have sign (u v : List Char) : Ord.compare ('-' :: u) ('-' :: v) = Ord.compare u v :=
    compare_append_left ['-'] u v
  rw [text_of_plain hd, text_of_plain he, ← compare_serial hd he]
  unfold serial
  rw [compare_places (by omega) (by omega), compare_places (by omega) (by omega)]
  simp only [List.append_assoc, List.cons_append, Ordering.then_assoc]
  rw [compare_padded_append (by decide) (by omega) (by omega), sign,
    compare_padded_append (by decide) (by omega) (by omega), sign,
    compare_padded_append (by decide) (by omega) (by omega)]

/-- Days compare as their texts. -/
theorem compare_text {d e : Day} (hd : d.Plain) (he : e.Plain) :
    Ord.compare d.text e.text = d.compare e := by
  have whole := compare_text_append hd he [] []
  rw [List.append_nil, List.append_nil] at whole
  exact whole.trans Ordering.then_eq

end Day

/-- A fraction of a second in groups of three digits, as few as it needs. -/
structure Grouped (n : Nat) (s : List Char) (g x : Nat) : Prop where
  some : 0 < g
  few : g ≤ 3
  small : x < 10 ^ (3 * g)
  needed : x % 1000 ≠ 0
  value : n = x * 10 ^ (3 * (3 - g))
  written : s = '.' :: padded (3 * g) x

theorem Grouped.compare_le {n n' : Nat} {s s' : List Char} {g x g' x' : Nat} (h : Grouped n s g x)
    (h' : Grouped n' s' g' x') (le : g ≤ g') {tail : List Char} (low : Low tail) :
    Ord.compare (s ++ tail) (s' ++ tail) = Ord.compare n n' := by
  obtain ⟨v, rfl⟩ := Nat.exists_eq_add_of_le le
  have := h.some
  have := h'.few
  have scale : n = x * 10 ^ (3 * v) * 10 ^ (3 * (3 - (g + v))) := by
    rw [h.value, Nat.mul_assoc, ← Nat.pow_add]
    congr 2
    omega
  have positive : 0 < 10 ^ (3 * (3 - (g + v))) := Nat.pow_pos (by decide)
  rw [h.written, h'.written, List.cons_append, List.cons_append, List.compare_cons_cons,
    Std.ReflOrd.compare_self, Ordering.eq_then, scale, h'.value,
    compare_congr (Nat.mul_lt_mul_right positive) (Nat.mul_left_inj positive.ne')]
  cases v with
  | zero =>
    rw [Nat.add_zero] at h' ⊢
    rw [compare_padded_append (by omega) h.small h'.small,
      Std.ReflOrd.compare_self, Ordering.then_eq, Nat.mul_zero, Nat.pow_zero, Nat.mul_one]
  | succ v =>
    have wide : 3 * (g + (v + 1)) = 3 * g + 3 * (v + 1) := Nat.mul_add ..
    have small := h'.small
    rw [wide] at small ⊢
    refine compare_cut low (by omega) (by omega) h.small small ?_
    intro zero
    have thousands : 10 ^ 3 ∣ x' :=
      (Nat.pow_dvd_pow 10 (by omega)).trans (Nat.dvd_of_mod_eq_zero zero)
    exact h'.needed (Nat.mod_eq_zero_of_dvd thousands)

theorem Grouped.compare {n n' : Nat} {s s' : List Char} {g x g' x' : Nat} (h : Grouped n s g x)
    (h' : Grouped n' s' g' x') {tail : List Char} (low : Low tail) :
    Ord.compare (s ++ tail) (s' ++ tail) = Ord.compare n n' := by
  rcases Nat.le_total g g' with le | le
  · exact h.compare_le h' le low
  · rw [Std.OrientedOrd.eq_swap, h'.compare_le h le low]
    exact Std.OrientedCmp.eq_swap.symm

namespace Clock

theorem fractionText_cases (t : Clock) :
    (t.nano % billion = 0 ∧ t.fractionText = []) ∨
      ∃ g x, Grouped (t.nano % billion) t.fractionText g x := by
  have small : t.nano % billion < billion := Nat.mod_lt _ (by decide)
  unfold fractionText
  generalize t.nano % billion = n at *
  unfold billion at small
  by_cases none : n = 0
  · exact .inl ⟨none, if_pos none⟩
  · refine .inr ?_
    by_cases three : n % 1000000 = 0
    · refine ⟨1, n / 1000000, by decide, by decide, by omega, by omega, by omega, ?_⟩
      rw [if_neg none, if_pos three]
    · by_cases six : n % 1000 = 0
      · refine ⟨2, n / 1000, by decide, by decide, by omega, by omega, by omega, ?_⟩
        rw [if_neg none, if_neg three, if_pos six]
      · refine ⟨3, n, by decide, by decide, by omega, six, by omega, ?_⟩
        rw [if_neg none, if_neg three, if_neg six]

theorem compare_fractionText (t u : Clock) {tail : List Char} (low : Low tail) :
    Ord.compare (t.fractionText ++ tail) (u.fractionText ++ tail) =
      Ord.compare (t.nano % billion) (u.nano % billion) := by
  have positive {n : Nat} {s : List Char} {g x : Nat} (h : Grouped n s g x) : 0 < n := by
    have := h.needed
    rw [h.value]
    exact Nat.mul_pos (by omega) (Nat.pow_pos (by decide))
  rcases t.fractionText_cases with ⟨zero, empty⟩ | ⟨g, x, h⟩ <;>
    rcases u.fractionText_cases with ⟨zero', empty'⟩ | ⟨g', x', h'⟩
  · rw [zero, zero', empty, empty', Nat.compare_eq_eq.mpr rfl]
    exact Std.ReflCmp.compare_self
  · rw [zero, empty, h'.written, Nat.compare_eq_lt.mpr (positive h')]
    exact low.compare_cons (Nat.le_refl _) _
  · rw [zero', empty', h.written, Nat.compare_eq_gt.mpr (positive h), Std.OrientedOrd.eq_swap]
    exact congrArg Ordering.swap (low.compare_cons (Nat.le_refl _) _)
  · exact h.compare h' low

/-- A time of day that exists: leap seconds end a minute. -/
structure Proper (t : Clock) : Prop where
  second_lt : t.second < 86400
  nano_lt : t.nano < 2 * billion
  leap : t.nano < billion ∨ t.second % 60 = 59

instance (t : Clock) : Decidable t.Proper :=
  decidable_of_iff
    (t.second < 86400 ∧ t.nano < 2 * billion ∧ (t.nano < billion ∨ t.second % 60 = 59))
    ⟨fun h => ⟨h.1, h.2.1, h.2.2⟩, fun h => ⟨h.1, h.2, h.3⟩⟩

/-- These are the times of day that parts can be put together to. -/
theorem proper_iff (t : Clock) : t.Proper ↔ ∃ h m s nano, ofParts? h m s nano = some t := by
  constructor
  · rintro ⟨second_lt, nano_lt, leap⟩
    refine ⟨t.second / 3600, t.second / 60 % 60, t.second % 60, t.nano, ?_⟩
    unfold ofParts?
    rw [if_pos ⟨by omega, by omega, by omega, nano_lt, leap⟩]
    have whole : t.second / 3600 * 3600 + t.second / 60 % 60 * 60 + t.second % 60 = t.second := by
      omega
    rw [whole]
  · rintro ⟨h, m, s, nano, parts⟩
    unfold ofParts? at parts
    split at parts
    case isTrue exist =>
      obtain ⟨h_lt, m_lt, s_lt, nano_lt, leap⟩ := exist
      cases parts
      exact ⟨by simp only; omega, nano_lt, by simp only; omega⟩
    case isFalse => cases parts

theorem Proper.seconds {t : Clock} (h : t.Proper) :
    t.nano / billion = 0 ∨ t.nano / billion = 1 ∧ t.second % 60 = 59 := by
  obtain ⟨-, nano_lt, leap⟩ := h
  unfold billion at *
  omega

/-- A leap second comes after the second it is counted with, and before the next minute. -/
theorem compare_seconds {s s' l l' : Nat} (leap : l = 0 ∨ l = 1 ∧ s % 60 = 59)
    (leap' : l' = 0 ∨ l' = 1 ∧ s' % 60 = 59) :
    (Ord.compare (s / 60) (s' / 60)).then (Ord.compare (s % 60 + l) (s' % 60 + l')) =
      (Ord.compare s s').then (Ord.compare l l') := by
  have shown : s % 60 + l < 100 := by omega
  have shown' : s' % 60 + l' < 100 := by omega
  have two : l < 2 := by omega
  have two' : l' < 2 := by omega
  rw [← compare_places shown shown', ← compare_places two two']
  exact compare_congr (by omega) (by omega)

/-- Of texts that begin with times of day the seconds decide first, and then the leap seconds. -/
theorem compare_shortText_append {t u : Clock} (ht : t.Proper) (hu : u.Proper)
    (s s' : List Char) : Ord.compare (t.shortText ++ s) (u.shortText ++ s') =
      (Ord.compare t.second u.second).then
        ((Ord.compare (t.nano / billion) (u.nano / billion)).then (Ord.compare s s')) := by
  have second_lt := ht.second_lt
  have second_lt' := hu.second_lt
  have leap := ht.seconds
  have leap' := hu.seconds
  have minutes : Ord.compare (t.second / 60) (u.second / 60) =
      (Ord.compare (t.second / 3600) (u.second / 3600)).then
        (Ord.compare (t.second / 60 % 60) (u.second / 60 % 60)) := by
    have small (n : Nat) : n % 60 < 60 := Nat.mod_lt n (by decide)
    rw [← compare_places (small _) (small _)]
    exact congrArg₂ _ (by omega) (by omega)
  unfold shortText
  simp only [List.append_assoc]
  rw [compare_padded_append (by decide) (by omega) (by omega), compare_append_left,
    compare_padded_append (by decide) (by omega) (by omega), compare_append_left,
    compare_padded_append (by decide) (by omega) (by omega), ← Ordering.then_assoc, ← minutes,
    ← Ordering.then_assoc, compare_seconds leap leap', Ordering.then_assoc]

theorem compare_nano (t u : Clock) : Ord.compare t.nano u.nano =
    (Ord.compare (t.nano / billion) (u.nano / billion)).then
      (Ord.compare (t.nano % billion) (u.nano % billion)) := by
  rw [← compare_places (Nat.mod_lt _ (by decide)) (Nat.mod_lt _ (by decide)), Nat.div_add_mod',
    Nat.div_add_mod']

/-- Times of day compare as the texts that begin with them. -/
theorem compare_text_append {t u : Clock} (ht : t.Proper) (hu : u.Proper) {tail : List Char}
    (low : Low tail) : Ord.compare (t.text ++ tail) (u.text ++ tail) = t.compare u := by
  unfold text compare
  simp only [List.append_assoc]
  rw [compare_shortText_append ht hu, compare_fractionText t u low, ← compare_nano]

/-- Times of day compare as their texts. -/
theorem compare_text {t u : Clock} (ht : t.Proper) (hu : u.Proper) :
    Ord.compare t.text u.text = t.compare u := by
  have low : Low [] := fun _ none => nomatch none
  have whole := compare_text_append ht hu low
  rwa [List.append_nil, List.append_nil] at whole

end Clock

namespace Moment

structure Plain (m : Moment) : Prop where
  day : m.day.Plain
  clock : m.clock.Proper

instance (m : Moment) : Decidable m.Plain :=
  decidable_of_iff (m.day.Plain ∧ m.clock.Proper) ⟨fun h => ⟨h.1, h.2⟩, fun h => ⟨h.1, h.2⟩⟩

/-- Instants in universal time compare as their texts. -/
theorem compare_text {m n : Moment} (hm : m.Plain) (hn : n.Plain) :
    Ord.compare m.zonedText n.zonedText = m.compare n := by
  have low : Low (offsetText 0) := fun _ sign => Option.some.inj sign ▸ by decide
  unfold zonedText textWith
  simp only [List.append_assoc]
  rw [Day.compare_text_append hm.day hn.day, compare_append_left,
    Clock.compare_text_append hm.clock hn.clock low]
  rfl

end Moment

end FieldQuery

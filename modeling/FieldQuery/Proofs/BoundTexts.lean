import FieldQuery.Proofs.Spelling
import FieldQuery.Proofs.Transport
import FieldQuery.Statement.Value

/-!
# Instants bound as texts

SQLite has no instants and compares their texts octet by octet, so an instant is bound as year,
month, day and time of day, each in its place. The texts of two instants come one after another as
the texts of their years do: within a year, and up to any year of four digits, as the instants
themselves. A year with a sign comes before all without one, whatever it is. Main statement:
`bound_texts_follow_years`.
-/
namespace FieldQuery

open Text

theorem compare_char_lt {c d : Char} (less : c < d) : Ord.compare c d = .lt := if_pos less

theorem compare_char_gt {c d : Char} (more : d < c) : Ord.compare c d = .gt := by
  rw [Std.OrientedOrd.eq_swap, compare_char_lt more]
  rfl

section

variable {c : Char} {u v : List Char}

/-- A text that ends at a sign below all of its own comes before those that go on. -/
theorem compare_append_sign (hu : ∀ d ∈ u, c < d) (hv : ∀ d ∈ v, c < d) (s t : List Char) :
    Ord.compare (u ++ c :: s) (v ++ c :: t) = (Ord.compare u v).then (Ord.compare s t) := by
  induction u generalizing v with
  | nil =>
    cases v with
    | nil =>
      rw [List.nil_append, List.nil_append, List.compare_cons_cons, Std.ReflOrd.compare_self]
      rfl
    | cons d v =>
      have less : Ord.compare c d = .lt := compare_char_lt (hv d List.mem_cons_self)
      rw [List.nil_append, List.cons_append, List.compare_cons_cons, less]
      rfl
  | cons d u ih =>
    obtain ⟨first, hu⟩ := List.forall_mem_cons.mp hu
    cases v with
    | nil =>
      have more : Ord.compare d c = .gt := compare_char_gt first
      rw [List.nil_append, List.cons_append, List.compare_cons_cons, more]
      rfl
    | cons e v =>
      obtain ⟨-, hv⟩ := List.forall_mem_cons.mp hv
      rw [List.cons_append, List.cons_append, List.compare_cons_cons, List.compare_cons_cons,
        ih hu hv, Ordering.then_assoc]

end

theorem sign_lt_of_isDigit {d : Char} (digit : d.isDigit = true) : '+' < d ∧ '-' < d := by
  have least := (digit_bounds digit).1
  exact ⟨show 43 < d.toNat by omega, show 45 < d.toNat by omega⟩

/-- A number is written with one digit at least. -/
theorem exists_padded (width n : Nat) :
    ∃ c ds, padded width n = c :: ds ∧ c.isDigit = true ∧ ∀ d ∈ ds, d.isDigit = true := by
  have digits : ∀ d ∈ padded width n, d.isDigit = true := fun _ => isDigit_of_mem_padded
  cases shape : padded width n with
  | nil => exact absurd (List.append_eq_nil_iff.mp shape).2 (decimalDigits_ne_nil n)
  | cons c ds =>
    rw [shape] at digits
    exact ⟨c, ds, rfl, List.forall_mem_cons.mp digits⟩

section

variable {y z : Int}

theorem yearText_plain (plain : 0 ≤ y ∧ y ≤ 9999) : yearText y = padded 4 y.toNat := if_pos plain

theorem yearText_negative (before : y < 0) : yearText y = '-' :: padded 4 y.natAbs := by
  have signed : ¬ (0 ≤ y ∧ y ≤ 9999) := by omega
  simp [yearText, signed, before]

theorem yearText_great (after : 9999 < y) : yearText y = '+' :: padded 4 y.natAbs := by
  have signed : ¬ (0 ≤ y ∧ y ≤ 9999) := by omega
  have positive : ¬ y < 0 := by omega
  simp [yearText, signed, positive]

theorem year_cases (y : Int) : y < 0 ∨ (0 ≤ y ∧ y ≤ 9999) ∨ 9999 < y := by omega

/-- A year is written with one character, which may be a sign, and digits. -/
theorem exists_yearText (y : Int) :
    ∃ c ds, yearText y = c :: ds ∧ ∀ d ∈ ds, d.isDigit = true := by
  rcases year_cases y with before | plain | after
  · exact ⟨_, _, yearText_negative before, fun _ => isDigit_of_mem_padded⟩
  · obtain ⟨c, ds, shape, -, digits⟩ := exists_padded 4 y.toNat
    exact ⟨c, ds, (yearText_plain plain).trans shape, digits⟩
  · exact ⟨_, _, yearText_great after, fun _ => isDigit_of_mem_padded⟩

theorem compare_yearText_append (y z : Int) (s t : List Char) :
    Ord.compare (yearText y ++ '-' :: s) (yearText z ++ '-' :: t) =
      (Ord.compare (yearText y) (yearText z)).then (Ord.compare s t) := by
  obtain ⟨c, ds, shape, digits⟩ := exists_yearText y
  obtain ⟨e, es, shape', digits'⟩ := exists_yearText z
  rw [shape, shape', List.cons_append, List.cons_append, List.compare_cons_cons,
    List.compare_cons_cons, Ordering.then_assoc]
  congr 1
  exact compare_append_sign (fun d h => (sign_lt_of_isDigit (digits d h)).2)
    (fun d h => (sign_lt_of_isDigit (digits' d h)).2) s t

/-- Up to a year without a sign, texts come in the order of years. -/
theorem isLE_yearText (le : y ≤ z) (plain : 0 ≤ z ∧ z ≤ 9999) :
    (Ord.compare (yearText y) (yearText z)).isLE := by
  rcases year_cases y with before | plain' | after
  · obtain ⟨c, ds, shape, digit, -⟩ := exists_padded 4 z.toNat
    have less : Ord.compare '-' c = .lt := compare_char_lt (sign_lt_of_isDigit digit).2
    rw [yearText_negative before, yearText_plain plain, shape, List.compare_cons_cons, less]
    rfl
  · rw [yearText_plain plain', yearText_plain plain,
      compare_padded (by decide) (by omega) (by omega), Nat.isLE_compare]
    omega
  · omega

/-- A year of five digits comes before all that have no more than four. -/
theorem compare_yearText_great (le : y ≤ 9999) (great : 9999 < z) :
    Ord.compare (yearText y) (yearText z) = .gt := by
  rw [yearText_great great]
  rcases year_cases y with before | plain | after
  · rw [yearText_negative before, List.compare_cons_cons]
    rfl
  · obtain ⟨c, ds, shape, digit, -⟩ := exists_padded 4 y.toNat
    have more : Ord.compare c '+' = .gt := compare_char_gt (sign_lt_of_isDigit digit).1
    rw [yearText_plain plain, shape, List.compare_cons_cons, more]
    rfl
  · omega

/-- Years before the year 0 come in the opposite order. -/
theorem compare_yearText_negative (first : -9999 ≤ y) (less : y < z) (before : z < 0) :
    Ord.compare (yearText y) (yearText z) = .gt := by
  rw [yearText_negative (less.trans before), yearText_negative before, List.compare_cons_cons,
    Std.ReflOrd.compare_self, Ordering.eq_then,
    compare_padded (by decide) (by omega) (by omega), Nat.compare_eq_gt]
  omega

theorem yearText_inj (same : yearText y = yearText z) : y = z := by
  have value {n k : Nat} (h : padded 4 n = padded 4 k) : n = k := by
    rw [← digitsValue_padded 4 n, h, digitsValue_padded]
  have apart {c : Char} {n k : Nat} (sign : c.isDigit = false) : padded 4 n ≠ c :: padded 4 k := by
    intro h
    have digit : c.isDigit = true := isDigit_of_mem_padded (h ▸ List.mem_cons_self)
    rw [digit] at sign
    cases sign
  rcases year_cases y with hy | hy | hy <;> rcases year_cases z with hz | hz | hz
  all_goals
    simp only [yearText_negative, yearText_plain, yearText_great, hy, hz, and_self] at same
  · have := value (List.cons.inj same).2
    omega
  · exact absurd same.symm (apart rfl)
  · cases (List.cons.inj same).1
  · exact absurd same (apart rfl)
  · have := value same
    omega
  · exact absurd same (apart rfl)
  · cases (List.cons.inj same).1
  · exact absurd same.symm (apart rfl)
  · have := value (List.cons.inj same).2
    omega

end

/-- Times of day do not come after later ones when they are cut off at milliseconds. -/
theorem Clock.isLE_milliText {t u : Clock} (ht : t.Proper) (hu : u.Proper)
    (le : (t.compare u).isLE) : (Ord.compare t.milliText u.milliText).isLE := by
  have small (n : Nat) : n % billion / 1000000 < 10 ^ 3 := by
    unfold billion
    omega
  have parts (t : Clock) : t.milliText =
      t.shortText ++ '.' :: padded 3 (t.nano % billion / 1000000) := by
    simp [milliText]
  have point (s s' : List Char) : Ord.compare ('.' :: s) ('.' :: s') = Ord.compare s s' :=
    compare_append_left ['.'] s s'
  unfold compare at le
  rw [parts, parts, compare_shortText_append ht hu, point,
    compare_padded (by decide) (small _) (small _)]
  simp only [Ordering.isLE_then_iff_or, Nat.compare_eq_lt, Nat.compare_eq_eq, Nat.isLE_compare]
    at le ⊢
  unfold billion
  omega

namespace Moment

variable {m n : Moment}

def year (m : Moment) : Int := m.day.civil.1

/-- The text that an instant is bound as, without its year. -/
def inYear (m : Moment) : List Char :=
  padded 2 m.day.civil.2.1 ++ '-' :: (padded 2 m.day.civil.2.2 ++ ' ' :: m.clock.milliText)

theorem milliText_eq (m : Moment) : m.milliText = yearText m.year ++ '-' :: m.inYear := by
  have day : m.day.text =
      yearText m.year ++ ['-'] ++ padded 2 m.day.civil.2.1 ++ ['-'] ++ padded 2 m.day.civil.2.2 :=
    rfl
  simp [milliText, inYear, day]

/-- The year decides first. -/
theorem compare_milliText (m n : Moment) : Ord.compare m.milliText n.milliText =
    (Ord.compare (yearText m.year) (yearText n.year)).then (Ord.compare m.inYear n.inYear) := by
  rw [milliText_eq, milliText_eq, compare_yearText_append]

theorem isLE_compare_cases (le : (m.compare n).isLE) :
    m.day.number < n.day.number ∨ m.day = n.day ∧ (m.clock.compare n.clock).isLE := by
  unfold compare at le
  rcases Ordering.isLE_then_iff_or.mp le with less | ⟨same, le⟩
  · exact .inl (compare_lt_iff_lt.mp less)
  · exact .inr ⟨Std.LawfulEqCmp.eq_of_compare same, le⟩

theorem year_mono (le : (m.compare n).isLE) : m.year ≤ n.year := by
  rcases isLE_compare_cases le with less | ⟨same, -⟩
  · have later := Day.civil_lt less
    unfold year
    omega
  · exact le_of_eq (congrArg (·.civil.1) same)

/-- Within one year the texts of instants come as the instants do. -/
theorem isLE_inYear (hm : m.clock.Proper) (hn : n.clock.Proper) (le : (m.compare n).isLE)
    (same : m.year = n.year) : (Ord.compare m.inYear n.inYear).isLE := by
  obtain ⟨-, ⟨-, short⟩, -, few⟩ := m.day.civil_spec
  obtain ⟨-, ⟨-, short'⟩, -, few'⟩ := n.day.civil_spec
  have line (s s' : List Char) : Ord.compare ('-' :: s) ('-' :: s') = Ord.compare s s' :=
    compare_append_left ['-'] s s'
  have blank (s s' : List Char) : Ord.compare (' ' :: s) (' ' :: s') = Ord.compare s s' :=
    compare_append_left [' '] s s'
  unfold inYear
  rw [compare_padded_append (by decide) (by omega) (by omega), line,
    compare_padded_append (by decide) (by omega) (by omega), blank]
  simp only [Ordering.isLE_then_iff_or, Nat.compare_eq_lt, Nat.compare_eq_eq]
  rcases isLE_compare_cases le with less | ⟨day, clock⟩
  · have later := Day.civil_lt less
    unfold year at same
    omega
  · have texts := Clock.isLE_milliText hm hn clock
    simp [day, texts]

/-- Instants come as their years do, when both are bound as texts. -/
theorem isLE_milliText_iff (hm : m.clock.Proper) (hn : n.clock.Proper)
    (le : (m.compare n).isLE) : (Ord.compare m.milliText n.milliText).isLE ↔
      (Ord.compare (yearText m.year) (yearText n.year)).isLE := by
  rw [compare_milliText]
  by_cases same : m.year = n.year
  · have texts := isLE_inYear hm hn le same
    simp [same, texts]
  · have apart : Ord.compare (yearText m.year) (yearText n.year) ≠ .eq :=
      fun tie => same (yearText_inj (Std.LawfulEqOrd.eq_of_compare tie))
    cases order : Ord.compare (yearText m.year) (yearText n.year) with
    | eq => exact absurd order apart
    | lt | gt => rfl

end Moment

theorem compare_octet {c d : Char} (hc : c.toNat < 0x80) (hd : d.toNat < 0x80) :
    Ord.compare (Utf8.octet c.toNat) (Utf8.octet d.toNat) = Ord.compare c d := by
  have less : Utf8.octet c.toNat < Utf8.octet d.toNat ↔ c < d := by
    rw [UInt8.lt_iff_toNat_lt, Utf8.octet_toNat (by omega), Utf8.octet_toNat (by omega)]
    rfl
  have same : Utf8.octet c.toNat = Utf8.octet d.toNat ↔ c = d := by
    rw [← UInt8.toNat_inj, Utf8.octet_toNat (by omega), Utf8.octet_toNat (by omega),
      Char.toNat_inj]
  change compareOfLessAndEq _ _ = compareOfLessAndEq _ _
  simp only [compareOfLessAndEq, less, same]

/-- Texts of ASCII compare octet by octet as they do character by character. -/
theorem compare_encode {s t : List Char} (hs : ∀ c ∈ s, c.toNat < 0x80)
    (ht : ∀ c ∈ t, c.toNat < 0x80) :
    Ord.compare (Utf8.encode s) (Utf8.encode t) = Ord.compare s t := by
  induction s generalizing t with
  | nil =>
    cases t with
    | nil => rfl
    | cons d t =>
      rw [Parameter.encode_cons_ascii (List.forall_mem_cons.mp ht).1]
      rfl
  | cons c s ih =>
    obtain ⟨hc, hs⟩ := List.forall_mem_cons.mp hs
    rw [Parameter.encode_cons_ascii hc]
    cases t with
    | nil => rfl
    | cons d t =>
      obtain ⟨hd, ht⟩ := List.forall_mem_cons.mp ht
      rw [Parameter.encode_cons_ascii hd, List.compare_cons_cons, List.compare_cons_cons,
        compare_octet hc hd, ih hs ht]

namespace Moment

theorem ascii_milliText (m : Moment) : ∀ c ∈ m.milliText, c.toNat < 0x80 := by
  have digits (width n : Nat) : ∀ c ∈ padded width n, c.toNat < 0x80 := by
    intro c digit
    have most := (digit_bounds (isDigit_of_mem_padded digit)).2
    omega
  have year : ∀ c ∈ yearText m.year, c.toNat < 0x80 := by
    rcases year_cases m.year with before | plain | after
    · rw [yearText_negative before]
      exact List.forall_mem_cons.mpr ⟨by decide, digits _ _⟩
    · rw [yearText_plain plain]
      exact digits _ _
    · rw [yearText_great after]
      exact List.forall_mem_cons.mpr ⟨by decide, digits _ _⟩
  rw [milliText_eq]
  simp only [inYear, Clock.milliText, Clock.shortText, List.forall_mem_append,
    List.forall_mem_cons]
  refine ⟨year, by decide, digits _ _, by decide, digits _ _, by decide, ?_⟩
  simpa using ⟨⟨⟨digits _ _, digits _ _⟩, digits _ _⟩, digits _ _⟩

/-- The octets that SQLite compares where an instant is bound. -/
def boundOctets (m : Moment) : List UInt8 :=
  match SqlValue.ofOperand .sqlite (.instant m) with
  | .text s => Utf8.encode s.toList
  | _ => []

theorem compare_boundOctets (m n : Moment) :
    Ord.compare m.boundOctets n.boundOctets = Ord.compare m.milliText n.milliText := by
  have octets (m : Moment) : m.boundOctets = Utf8.encode m.milliText :=
    congrArg Utf8.encode String.toList_ofList
  rw [octets, octets, compare_encode m.ascii_milliText n.ascii_milliText]

end Moment

/-- Of two instants that filters compare with, the earlier one is bound under SQLite as a text that
does not come after the other, octet by octet, exactly if the texts of their years come so. They do
if it is one year, and up to any year without a sign; a year of five digits comes before all years
that have no more than four, and years before the year 0 come in the opposite order. -/
theorem bound_texts_follow_years {m n : Moment} (hm : m.InFilter) (hn : n.InFilter)
    (le : (m.compare n).isLE) :
    ((Ord.compare m.boundOctets n.boundOctets).isLE ↔
      (Ord.compare (yearText m.year) (yearText n.year)).isLE) ∧
    (m.year = n.year → (Ord.compare m.boundOctets n.boundOctets).isLE) ∧
    (0 ≤ n.year → n.year ≤ 9999 → (Ord.compare m.boundOctets n.boundOctets).isLE) ∧
    (m.year ≤ 9999 → 9999 < n.year → Ord.compare m.boundOctets n.boundOctets = .gt) ∧
    (-9999 ≤ m.year → m.year < n.year → n.year < 0 →
      Ord.compare m.boundOctets n.boundOctets = .gt) := by
  have texts := Moment.isLE_milliText_iff hm.proper hn.proper le
  rw [Moment.compare_boundOctets]
  refine ⟨texts, ?_, ?_, ?_, ?_⟩
  · intro same
    rw [texts, same, Std.ReflOrd.compare_self]
    rfl
  · intro first last
    exact texts.mpr (isLE_yearText (Moment.year_mono le) ⟨first, last⟩)
  · intro short long
    rw [Moment.compare_milliText, compare_yearText_great short long]
    rfl
  · intro first less before
    rw [Moment.compare_milliText, compare_yearText_negative first less before]
    rfl

namespace Sample

/-- The last evening of the year 9999, an hour west, when universal time has the next year. -/
def lastEvening : String := "9999-12-31T23:30:00-01:00"

def lastEveningWest : Timestamp := ⟨⟨⟨2932897⟩, 1800, 0⟩, -3600⟩

/-- A leap second, with half a second gone. -/
def leapSecond : String := "2016-12-31T23:59:60.5Z"

def leapSecondRead : Timestamp := ⟨⟨⟨17166⟩, 86399, 1500000000⟩, 0⟩

def opening : String := "2025-01-10T08:30:00Z"

def openingRead : Timestamp := ⟨⟨⟨20098⟩, 30600, 0⟩, 0⟩

theorem inFilter_lastEvening : lastEveningWest.utc.InFilter :=
  ⟨lastEvening.toList, lastEveningWest, by decide +kernel, .inl rfl⟩

theorem inFilter_leapSecond : leapSecondRead.utc.InFilter :=
  ⟨leapSecond.toList, leapSecondRead, by decide +kernel, .inl rfl⟩

theorem inFilter_endOfLeapDay : leapSecondRead.endOfDay.InFilter :=
  ⟨leapSecond.toList, leapSecondRead, by decide +kernel, .inr (.inr rfl)⟩

theorem inFilter_opening : openingRead.utc.InFilter :=
  ⟨opening.toList, openingRead, by decide +kernel, .inl rfl⟩

end Sample

open Sample in
/-- The leap second is bound behind the end of its day, and the year 10000 before it, since its
text has a sign. -/
theorem bound_texts_follow_years_leap :
    (leapSecondRead.endOfDay.InFilter ∧ leapSecondRead.utc.InFilter ∧
      lastEveningWest.utc.InFilter) ∧
    ((leapSecondRead.endOfDay.compare leapSecondRead.utc).isLE ∧
      (Ord.compare leapSecondRead.endOfDay.boundOctets leapSecondRead.utc.boundOctets).isLE) ∧
    (leapSecondRead.utc.compare lastEveningWest.utc).isLE ∧
    Ord.compare leapSecondRead.utc.boundOctets lastEveningWest.utc.boundOctets = .gt := by
  have first : (leapSecondRead.endOfDay.compare leapSecondRead.utc).isLE := by decide
  have second : (leapSecondRead.utc.compare lastEveningWest.utc).isLE := by decide
  have day := bound_texts_follow_years inFilter_endOfLeapDay inFilter_leapSecond first
  have era := bound_texts_follow_years inFilter_leapSecond inFilter_lastEvening second
  refine ⟨⟨inFilter_endOfLeapDay, inFilter_leapSecond, inFilter_lastEvening⟩, ⟨first, ?_⟩,
    second, ?_⟩
  · exact day.2.1 (by decide)
  · exact era.2.2.2.1 (by decide) (by decide)

open Sample in
/-- The year 10000 is bound before the year 2025. -/
theorem five_digit_year_bound_first :
    openingRead.utc.InFilter ∧ lastEveningWest.utc.InFilter ∧
    (openingRead.utc.compare lastEveningWest.utc).isLE ∧
    SqlValue.ofOperand .sqlite (.instant openingRead.utc) = .text "2025-01-10 08:30:00.000" ∧
    SqlValue.ofOperand .sqlite (.instant lastEveningWest.utc) =
      .text "+10000-01-01 00:30:00.000" ∧
    ¬ (Ord.compare openingRead.utc.boundOctets lastEveningWest.utc.boundOctets).isLE := by
  refine ⟨inFilter_opening, inFilter_lastEvening, ?_, ?_, ?_, ?_⟩
  · decide
  · decide +kernel
  · decide +kernel
  · decide +kernel

end FieldQuery

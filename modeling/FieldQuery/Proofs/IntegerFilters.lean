import FieldQuery.Proofs.Bindings
import FieldQuery.Proofs.Judging
import FieldQuery.Proofs.Nearest
import FieldQuery.Proofs.Terms

/-!
# Filters on integers

The integer of a filter and that of a field are both taken for numbers before they are compared, so
that a filter asks how the integers stand to each other that the two numbers equal. That is how the
integers themselves stand unless they are different and fall on the same number, which takes two
integers beyond `2 ^ 53`. Main statement: `integer_filters_compare_nearest`.
-/
namespace FieldQuery

open Number (ofInt nearest)

def FieldValue.integer? : FieldValue → Option Int
  | int n => some n
  | uint n => some n
  | _ => none

def SqlValue.integer? : SqlValue → Option Int
  | int n => some n
  | number x => x.toInt?
  | _ => none

/-- A value that is bound for an integer. -/
structure SqlValue.StandsFor (x : SqlValue) (a : Int) : Prop where
  denotes : x.integer? = some (nearest a)
  exact : a.natAbs < 2 ^ 53 → x = .int a

/-- Two integers are told apart as numbers, unless they are one. -/
def ToldApart (a b : Int) : Prop := nearest a = nearest b → a = b

def Mode.onIntegers (mode : Mode) (b given : Int) : Option Bool :=
  match mode with
  | .equal => some (b = given)
  | .nequal => some (b ≠ given)
  | .gt => some (given < b)
  | .gte => some (given ≤ b)
  | .lt => some (b < given)
  | .lte => some (b ≤ given)
  | _ => none

def Bounds.coversInteger (r : Bounds Int) (b : Int) : Bool := r.low ≤ b && b ≤ r.high

/-- A range with its ends as the numbers nearest to them. -/
def Bounds.rounded (r : Bounds Int) : Bounds Int := ⟨nearest r.low, nearest r.high⟩

section

variable {a b : Int}

theorem nearest_lt_iff (apart : ToldApart a b) : nearest a < nearest b ↔ a < b := by
  constructor
  · intro less
    by_contra le
    have := Number.nearest_mono (Int.not_lt.mp le)
    omega
  · intro less
    have le := Number.nearest_mono (Int.le_of_lt less)
    have differ : nearest a ≠ nearest b := fun same => Int.ne_of_lt less (apart same)
    omega

theorem ToldApart.symm (apart : ToldApart a b) : ToldApart b a := fun same => (apart same.symm).symm

theorem Mode.onIntegers_congr (mode : Mode) {m n : Int} (less : a < b ↔ m < n)
    (more : b < a ↔ n < m) : mode.onIntegers a b = mode.onIntegers m n := by
  have same : a = b ↔ m = n := by omega
  have atMost : a ≤ b ↔ m ≤ n := by omega
  have atLeast : b ≤ a ↔ n ≤ m := by omega
  cases mode <;> simp only [onIntegers, ne_eq, same, less, more, atMost, atLeast]

theorem Mode.onIntegers_nearest (mode : Mode) (apart : ToldApart a b) :
    mode.onIntegers (nearest b) (nearest a) = mode.onIntegers b a :=
  mode.onIntegers_congr (nearest_lt_iff apart.symm) (nearest_lt_iff apart)

theorem Bounds.coversInteger_rounded {r : Bounds Int} (low : ToldApart r.low b)
    (high : ToldApart r.high b) : r.rounded.coversInteger (nearest b) = r.coversInteger b := by
  have above : nearest r.low ≤ nearest b ↔ r.low ≤ b := by
    rw [← Int.not_lt, nearest_lt_iff low.symm, Int.not_lt]
  have below : nearest b ≤ nearest r.high ↔ b ≤ r.high := by
    rw [← Int.not_lt, nearest_lt_iff high, Int.not_lt]
  unfold coversInteger rounded
  rw [decide_eq_decide.mpr above, decide_eq_decide.mpr below]

end

theorem SqlValue.standsFor_ofNumber {a : Int} (ha : a.natAbs < wordLimit) :
    (SqlValue.ofNumber (ofInt a)).StandsFor a := by
  have exact := Number.toInt?_ofInt (Number.log2_of_word ha)
  unfold ofNumber
  rw [exact]
  dsimp only
  constructor
  · split
    · rfl
    · exact exact
  · intro small
    rw [Number.nearest_of_le (Nat.le_of_lt small)]
    exact if_pos small

section

variable {v : FieldValue} {a b : Int} {mode : Mode} {answer : Bool}

theorem FieldValue.present_of_integer (field : v.integer? = some b) : v ≠ .null := by
  rintro rfl
  cases field

theorem FieldValue.compare_integer (field : v.integer? = some b) (hb : b.natAbs < wordLimit)
    (ha : a.natAbs < wordLimit) (foldCase : Bool) :
    v.compare foldCase (.number (ofInt a)) = .ok (some (Ord.compare (nearest b) (nearest a))) := by
  have seen : v.asNumber = .ok (ofInt b) := by
    cases v with
    | int n | uint n =>
      cases field
      rfl
    | _ => cases field
  have order := Number.compare?_ofInt (Number.log2_of_word hb) (Number.log2_of_word ha)
  rw [compare, seen]
  exact congrArg Except.ok order

/-- The comparison of a mode answers what the mode asks of integers. -/
theorem Mode.comparison_of_onIntegers (asked : mode.onIntegers b a = some answer) :
    ∃ op, Condition.comparison false mode = some op ∧ op.holds (Ord.compare b a) = answer := by
  have less : Ord.compare b a = .lt ↔ b < a := compare_lt_iff_lt
  have more : Ord.compare b a = .gt ↔ a < b := compare_gt_iff_gt
  have same : Ord.compare b a = .eq ↔ b = a := compare_eq_iff_eq
  cases mode with
  | equal =>
    cases asked
    exact ⟨.eq, rfl, Bool.eq_iff_iff.mpr (by simp [Comparison.holds, same])⟩
  | nequal =>
    cases asked
    exact ⟨.ne, rfl, Bool.eq_iff_iff.mpr (by simp [Comparison.holds, same])⟩
  | gt =>
    cases asked
    exact ⟨.gt, rfl, Bool.eq_iff_iff.mpr (by simp [Comparison.holds, more])⟩
  | gte =>
    cases asked
    exact ⟨.gte, rfl, Bool.eq_iff_iff.mpr (by simp [Comparison.holds, less])⟩
  | lt =>
    cases asked
    exact ⟨.lt, rfl, Bool.eq_iff_iff.mpr (by simp [Comparison.holds, less])⟩
  | lte =>
    cases asked
    exact ⟨.lte, rfl, Bool.eq_iff_iff.mpr (by simp [Comparison.holds, more])⟩
  | _ => cases asked

theorem Bounds.coversInteger_eq (r : Bounds Int) (b : Int) :
    r.coversInteger b = ((Ord.compare b r.low).isGE && (Ord.compare b r.high).isLE) := by
  have above : (Ord.compare b r.low).isGE = decide (r.low ≤ b) :=
    Bool.eq_iff_iff.mpr (Int.isGE_compare.trans decide_eq_true_iff.symm)
  have below : (Ord.compare b r.high).isLE = decide (b ≤ r.high) :=
    Bool.eq_iff_iff.mpr (Int.isLE_compare.trans decide_eq_true_iff.symm)
  rw [above, below, coversInteger]

variable {t : Term}

theorem Term.judge_of_number {value : TypedValue} {c : Condition} (numeric : t.dataType = .number)
    (typed : t.typed = .ok value) (present : value ≠ .absent)
    (built : Condition.ofTyped t.mode value = .ok (some c)) (there : v ≠ .null)
    (meets : c.meets v = .ok answer) : ∃ p, t.predicate = .ok p ∧ p.condition = c ∧
      p.judge v = .ok answer := by
  have compiled := predicate_of_typed typed present built
  rw [numeric] at compiled
  exact ⟨_, compiled, rfl, (Predicate.judge_value there c).trans meets⟩

theorem Term.typed_integer {m n : Int} (numeric : t.dataType = .number)
    (value : t.value = .num (.int a)) (asked : t.mode.onIntegers m n = some answer) :
    t.typed = .ok (.number (ofInt a)) := by
  have usual : t.mode.asksEmptiness = false ∧ t.mode.takesRange = false ∧
      DataType.number.supports t.mode = true := by
    cases mode : t.mode with
    | equal | nequal | gt | gte | lt | lte => decide
    | _ =>
      rw [mode] at asked
      cases asked
  obtain ⟨asks, single, supported⟩ := usual
  rw [typed_ok_iff asks, numeric, single, value]
  exact ⟨supported, rfl⟩

theorem Term.typed_integerRange {r : Bounds Int} (numeric : t.dataType = .number)
    (range : t.mode.takesRange = true) (hl : r.low.natAbs < wordLimit)
    (hh : r.high.natAbs < wordLimit)
    (value : t.value.bounds = .ok ⟨.num (.int r.low), .num (.int r.high)⟩) :
    (nearest r.low ≤ nearest r.high →
      t.typed = .ok (.numberRange ⟨ofInt r.low, ofInt r.high⟩)) ∧
    (nearest r.high < nearest r.low → ∃ fault, t.typed = .error fault) := by
  have usual : t.mode.asksEmptiness = false ∧ DataType.number.supports t.mode = true := by
    cases mode : t.mode with
    | range | inside | outside => decide
    | _ =>
      rw [mode] at range
      cases range
  obtain ⟨asks, supported⟩ := usual
  have order := Number.compare?_ofInt (Number.log2_of_word hl) (Number.log2_of_word hh)
  have typed : t.typed = TypedValue.numberRange <$>
      Bounds.ordered Number.compare? Number.boundStyle.render ⟨ofInt r.low, ofInt r.high⟩ := by
    rw [typed_eq, numeric, supported, asks, range]
    change DataType.typedRange .number t.value = _
    unfold DataType.typedRange
    rw [value]
    rfl
  rw [typed]
  unfold Bounds.ordered
  rw [order]
  constructor
  · intro le
    have least : Ord.compare (nearest r.low) (nearest r.high) ≠ .gt :=
      fun more => Int.not_lt.mpr le (compare_gt_iff_gt.mp more)
    rw [if_neg fun more => least (Option.some.inj more)]
    rfl
  · intro more
    rw [if_pos (congrArg some (compare_gt_iff_gt.mpr more))]
    exact ⟨_, rfl⟩

theorem Term.judge_integer (field : v.integer? = some b) (hb : b.natAbs < wordLimit)
    (numeric : t.dataType = .number) (ha : a.natAbs < wordLimit) (value : t.value = .num (.int a))
    (asked : t.mode.onIntegers (nearest b) (nearest a) = some answer) :
    ∃ p x, t.predicate = .ok p ∧ p.judge v = .ok answer ∧ x.StandsFor a ∧
      ∀ d column, (p.fragment d column).values = [x] := by
  obtain ⟨op, compares, holds⟩ := Mode.comparison_of_onIntegers asked
  have built : Condition.ofTyped t.mode (.number (ofInt a)) =
      .ok (some (.compare op (.number (ofInt a)) false)) := by
    rw [Condition.ofTyped, Condition.ofNumber, compares]
    rfl
  have typed := typed_integer numeric value asked
  have order := FieldValue.compare_integer field hb ha false
  have meets := (Condition.meets_compare_of order op).trans (congrArg Except.ok holds)
  obtain ⟨p, compiled, condition, judged⟩ := judge_of_number numeric typed nofun built
    (FieldValue.present_of_integer field) meets
  refine ⟨p, _, compiled, judged, SqlValue.standsFor_ofNumber ha, fun d column => ?_⟩
  rw [Predicate.values_fragment, condition]
  rfl

theorem Term.judge_integerRange (field : v.integer? = some b) (hb : b.natAbs < wordLimit)
    (numeric : t.dataType = .number) {r : Bounds Int} (hl : r.low.natAbs < wordLimit)
    (hh : r.high.natAbs < wordLimit)
    (value : t.value.bounds = .ok ⟨.num (.int r.low), .num (.int r.high)⟩)
    (range : t.mode.takesRange = true) (le : nearest r.low ≤ nearest r.high) :
    ∃ p x y, t.predicate = .ok p ∧
      p.judge v = .ok (r.rounded.coversInteger (nearest b) != (t.mode == .outside)) ∧
      x.StandsFor r.low ∧ y.StandsFor r.high ∧
      ∀ d column, (p.fragment d column).values = [x, y] := by
  have first := FieldValue.compare_integer field hb hl false
  have second := FieldValue.compare_integer field hb hh false
  obtain ⟨c, built, meets⟩ := Condition.meets_ofRange first second range
  have typed := (typed_integerRange numeric range hl hh value).1 le
  obtain ⟨p, compiled, condition, judged⟩ := judge_of_number numeric typed nofun
    (congrArg Except.ok built) (FieldValue.present_of_integer field) meets
  refine ⟨p, _, _, compiled, ?_, SqlValue.standsFor_ofNumber hl, SqlValue.standsFor_ofNumber hh,
    fun d column => ?_⟩
  · rw [judged, r.rounded.coversInteger_eq]
    rfl
  · rw [Predicate.values_fragment, condition, Condition.bindings_ofRange built]
    rfl

end

/-- A filter on integers asks how the numbers nearest to them stand to each other, or whether the
one number lies in the range of the others, which is refused if it is the wrong way round. This is
what is asked of the integers themselves if they are told apart, as any two are of which one is
below `2 ^ 53` in size. The number nearest to the integer of the filter is bound to the statement,
and below that size the integer itself. -/
theorem integer_filters_compare_nearest {v : FieldValue} {b : Int} (field : v.integer? = some b)
    (hb : b.natAbs < wordLimit) {t : Term} (numeric : t.dataType = .number) :
    (∀ a c : Int, a.natAbs < 2 ^ 53 ∨ c.natAbs < 2 ^ 53 → ToldApart a c) ∧
    (∀ (a : Int) (answer : Bool), a.natAbs < wordLimit → t.value = .num (.int a) →
      t.mode.onIntegers (nearest b) (nearest a) = some answer →
      (ToldApart a b → t.mode.onIntegers b a = some answer) ∧
      ∃ p x, t.predicate = .ok p ∧ p.judge v = .ok answer ∧ x.StandsFor a ∧
        ∀ d column, (p.fragment d column).values = [x]) ∧
    ∀ r : Bounds Int, r.low.natAbs < wordLimit → r.high.natAbs < wordLimit →
      t.value.bounds = .ok ⟨.num (.int r.low), .num (.int r.high)⟩ → t.mode.takesRange = true →
      (ToldApart r.low b → ToldApart r.high b →
        r.rounded.coversInteger (nearest b) = r.coversInteger b) ∧
      (nearest r.low ≤ nearest r.high → ∃ p x y, t.predicate = .ok p ∧
        p.judge v = .ok (r.rounded.coversInteger (nearest b) != (t.mode == .outside)) ∧
        x.StandsFor r.low ∧ y.StandsFor r.high ∧
        ∀ d column, (p.fragment d column).values = [x, y]) ∧
      (nearest r.high < nearest r.low → ∃ fault, t.predicate = .error fault) := by
  refine ⟨fun a c small => Number.eq_of_nearest_eq small, ?_, ?_⟩
  · intro a answer ha value asked
    constructor
    · exact fun apart => (t.mode.onIntegers_nearest apart).symm.trans asked
    · exact Term.judge_integer field hb numeric ha value asked
  · intro r hl hh value range
    refine ⟨Bounds.coversInteger_rounded, ?_, fun wrong => ?_⟩
    · exact Term.judge_integerRange field hb numeric hl hh value range
    · obtain ⟨fault, refused⟩ := (Term.typed_integerRange numeric range hl hh value).2 wrong
      exact ⟨fault, bind_error_iff.mpr (.inl refused)⟩

namespace Sample

/-- The least natural that is no number. -/
def oddCount : Int := 9007199254740993

def evenCount : Int := 9007199254740992

def countOdd : Term where
  field := "count"
  value := .num (.int oddCount)
  mode := .equal

def countOutside : Term where
  field := "count"
  value := .arr [.num (.int 100), .num (.int oddCount)]
  mode := .outside

end Sample

open Sample in
theorem integer_filters_compare_nearest_counts :
    countOdd.dataType = .number ∧ countOutside.dataType = .number ∧
    (∃ p x, countOdd.predicate = .ok p ∧ p.judge (.int evenCount) = .ok true ∧
      x.StandsFor oddCount ∧ ∀ d column, (p.fragment d column).values = [x]) ∧
    (∃ p x y, countOutside.predicate = .ok p ∧ p.judge (.uint 99) = .ok true ∧
      x.StandsFor 100 ∧ y.StandsFor oddCount ∧
      ∀ d column, (p.fragment d column).values = [x, y]) ∧
    (Bounds.rounded ⟨100, oddCount⟩).coversInteger (nearest 99) =
      Bounds.coversInteger ⟨100, oddCount⟩ 99 := by
  have big : oddCount.natAbs < wordLimit := by decide
  have small : (100 : Int).natAbs < wordLimit := by decide
  have le : nearest 100 ≤ nearest oddCount := by decide +kernel
  obtain ⟨-, equal, -⟩ :=
    integer_filters_compare_nearest (v := .int evenCount) (t := countOdd) rfl (by decide) rfl
  obtain ⟨apart, -, range⟩ :=
    integer_filters_compare_nearest (v := .uint 99) (t := countOutside) rfl (by decide) rfl
  obtain ⟨same, judged, -⟩ := range ⟨100, oddCount⟩ small big rfl rfl
  refine ⟨rfl, rfl, ?_, ?_, ?_⟩
  · exact (equal oddCount true big rfl (by decide +kernel)).2
  · have outside : ((Bounds.rounded ⟨100, oddCount⟩).coversInteger (nearest 99) !=
        (countOutside.mode == .outside)) = true := by decide +kernel
    rw [← outside]
    exact judged le
  · exact same (apart _ _ (.inr (by decide))) (apart _ _ (.inr (by decide)))

open Sample in
/-- The filter asks for an odd integer, finds an even one and binds it. -/
theorem neighbouring_integers_fall_together :
    oddCount ≠ evenCount ∧ (FieldValue.int evenCount).integer? = some evenCount ∧
    ∃ p, countOdd.predicate = .ok p ∧ p.judge (.int evenCount) = .ok true ∧
      ((p.fragment .postgres "count").values.map (·.integer?)) = [some evenCount] := by
  refine ⟨by decide, rfl, ⟨.value, .compare .eq (.number (ofInt evenCount)) false⟩, ?_, ?_, ?_⟩
  · exact eq_ok_of_toOption (by decide +kernel)
  · exact eq_ok_of_toOption (by decide +kernel)
  · decide +kernel

end FieldQuery

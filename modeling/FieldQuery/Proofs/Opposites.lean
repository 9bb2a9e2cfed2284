import FieldQuery.Proofs.WholeDays

/-!
# Opposite modes

Two modes that ask for the opposite of each other accept opposite values and refuse the same ones,
as far as values compare at all. Less, equal and greater share out the values that have an order,
and null meets no question but whether it is empty. Main statement: `opposite_modes`.
-/
namespace FieldQuery

/-- The first mode asks for the opposite of the second. -/
inductive Mode.Opposite : Mode → Mode → Prop where
  | equal : Opposite .equal .nequal
  | inside : Opposite .inside .outside
  | range : Opposite .range .outside
  | contains : Opposite .contains .ncontains
  | gt : Opposite .gt .lte
  | lt : Opposite .lt .gte
  | before : Opposite .before .gte
  | isEmpty : Opposite .isEmpty .isNotEmpty

namespace Comparison

def opposite : Comparison → Comparison
  | eq => ne
  | ne => eq
  | gt => lte
  | gte => lt
  | lt => gte
  | lte => gt

theorem holds_opposite (op : Comparison) (o : Ordering) : op.opposite.holds o = !op.holds o := by
  cases op <;> cases o <;> rfl

end Comparison

/-- Whether something is less, equal or greater: either there is one fault, or exactly one answer is
true. -/
def Apart (less equal greater : Answer Bool) : Prop :=
  (∃ fault, less = .error fault ∧ equal = .error fault ∧ greater = .error fault) ∨
    ∃ o : Ordering, less = .ok (o == .lt) ∧ equal = .ok (o == .eq) ∧ greater = .ok (o == .gt)

/-- Only numbers can fail to compare, where one of them is not a number. -/
theorem FieldValue.compare_eq_none_iff {v : FieldValue} {foldCase : Bool} {o : Operand} :
    v.compare foldCase o = .ok none ↔
      ∃ x n, o = .number x ∧ v.asNumber = .ok n ∧ (n.isNaN || x.isNaN) = true := by
  constructor
  · intro unknown
    cases o with
    | number x =>
      obtain ⟨n, known, unordered⟩ := bind_ok_iff.mp unknown
      refine ⟨x, n, rfl, known, ?_⟩
      have none : n.compare? x = none := Except.ok.inj unordered
      unfold Number.compare? at none
      split at none
      case isTrue isNaN => exact isNaN
      case isFalse => cases none
    | text s => cases unknown
    | bool b =>
      obtain ⟨truth, -, ordered⟩ := bind_ok_iff.mp unknown
      cases ordered
    | instant n =>
      obtain ⟨m, -, ordered⟩ := bind_ok_iff.mp unknown
      cases ordered
    | clock t => cases v <;> cases unknown
  · rintro ⟨x, n, rfl, known, isNaN⟩
    rw [compare, known]
    exact congrArg Except.ok (if_pos isNaN)

namespace Condition

def Comparable (v : FieldValue) : Condition → Prop
  | compare _ o foldCase => v.compare foldCase o ≠ .ok none
  | between low high foldCase | outside low high foldCase =>
    v.compare foldCase low ≠ .ok none ∧ v.compare foldCase high ≠ .ok none
  | like .. | empty .. => True

/-- The condition that accepts what another one does not. -/
def opposite : Condition → Condition
  | compare op o foldCase => compare op.opposite o foldCase
  | between low high foldCase => outside low high foldCase
  | outside low high foldCase => between low high foldCase
  | like placement needle negated => like placement needle !negated
  | empty negated blankText => empty (!negated) blankText

variable {v : FieldValue} {low high : Operand} {foldCase : Bool}

/-- Within a range and outside of it are told apart, if the value compares with both bounds. -/
theorem meets_range (first : v.compare foldCase low ≠ .ok none)
    (second : v.compare foldCase high ≠ .ok none) :
    (∃ fault, (between low high foldCase).meets v = .error fault ∧
      (outside low high foldCase).meets v = .error fault) ∨
    ∃ within, (between low high foldCase).meets v = .ok within ∧
      (outside low high foldCase).meets v = .ok !within := by
  cases above : v.compare foldCase low with
  | error fault => exact .inl ⟨fault, meets_range_error (.inl above)⟩
  | ok a =>
    cases below : v.compare foldCase high with
    | error fault => exact .inl ⟨fault, meets_range_error (.inr ⟨⟨a, above⟩, below⟩)⟩
    | ok b =>
      obtain ⟨a, rfl⟩ := Option.ne_none_iff_exists'.mp fun h => first (above.trans (h ▸ rfl))
      obtain ⟨b, rfl⟩ := Option.ne_none_iff_exists'.mp fun h => second (below.trans (h ▸ rfl))
      exact .inr ⟨a.isGE && b.isLE, meets_between_of above below, meets_outside_of above below⟩

theorem meets_opposite {c : Condition} (known : c.Comparable v) :
    c.opposite.meets v = (c.meets v).map (!·) := by
  cases c with
  | compare op o foldCase =>
    cases order : v.compare foldCase o with
    | error fault =>
      rw [opposite, meets_compare_error order, meets_compare_error order]
      rfl
    | ok order? =>
      obtain ⟨a, rfl⟩ := Option.ne_none_iff_exists'.mp fun h => known (order.trans (h ▸ rfl))
      rw [opposite, meets_compare_of order, meets_compare_of order, Comparison.holds_opposite]
      rfl
  | between low high foldCase =>
    rcases meets_range known.1 known.2 with ⟨fault, within, without⟩ | ⟨a, within, without⟩
    · rw [opposite, within, without]
      rfl
    · rw [opposite, within, without]
      rfl
  | outside low high foldCase =>
    rcases meets_range known.1 known.2 with ⟨fault, within, without⟩ | ⟨a, within, without⟩
    · rw [opposite, within, without]
      rfl
    · rw [opposite, within, without]
      exact congrArg Except.ok (Bool.not_not a).symm
  | like placement needle negated =>
    exact congrArg Except.ok (Bool.bne_not _ _)
  | empty negated blankText =>
    exact congrArg Except.ok (Bool.bne_not _ _)

variable {a b mode : Mode} {c d e : Condition} {value : TypedValue}

theorem comparison_opposite {dated : Bool} {op op' : Comparison} (h : a.Opposite b)
    (first : comparison dated a = some op) (second : comparison dated b = some op') :
    op' = op.opposite := by
  cases h with
  | equal | gt | lt =>
    cases first
    cases second
    rfl
  | before =>
    cases dated <;> cases first
    cases second
    rfl
  | inside | range | contains | isEmpty => cases first

theorem compared_opposite {dated : Bool} {o : Operand} (h : a.Opposite b)
    (first : (comparison dated a).map (compare · o false) = some c)
    (second : (comparison dated b).map (compare · o false) = some d) : d = c.opposite := by
  obtain ⟨op, asked, rfl⟩ := Option.map_eq_some_iff.mp first
  obtain ⟨op', asked', rfl⟩ := Option.map_eq_some_iff.mp second
  rw [comparison_opposite h asked asked']
  rfl

theorem ofText_opposite {s : String} (h : a.Opposite b) (first : ofText a s = some c)
    (second : ofText b s = some d) : d = c.opposite := by
  cases h with
  | equal | contains | gt | lt | before =>
    cases first
    cases second
    rfl
  | inside | range | isEmpty => cases first

theorem ofDay_opposite (h : a.Opposite b) (first : ofDay a (.ok low) (.ok high) = .ok (some c))
    (second : ofDay b (.ok low) (.ok high) = .ok (some d)) : d = c.opposite := by
  cases h with
  | equal | gt | lt | before =>
    cases first
    cases second
    rfl
  | contains | inside | range | isEmpty => cases first

theorem ofRange_opposite (h : a.Opposite b) (first : ofRange a low high foldCase = some c)
    (second : ofRange b low high foldCase = some d) : d = c.opposite := by
  cases h with
  | inside | range =>
    cases first
    cases second
    rfl
  | equal | contains | gt | lt | before | isEmpty => cases first

/-- Opposite modes make opposite conditions of one value. -/
theorem ofTyped_opposite (h : a.Opposite b) (first : ofTyped a value = .ok (some c))
    (second : ofTyped b value = .ok (some d)) : d = c.opposite := by
  cases value with
  | absent => cases first
  | number x | clock x => exact compared_opposite h (Except.ok.inj first) (Except.ok.inj second)
  | text s => exact ofText_opposite h (Except.ok.inj first) (Except.ok.inj second)
  | bool x =>
    cases h with
    | equal =>
      cases first
      cases second
      rfl
    | _ => cases first
  | instant t =>
    by_cases bare : t.isDateOnly = true
    case pos => exact ofDay_opposite h (ofInstant_of_ok bare first) (ofInstant_of_ok bare second)
    case neg =>
      rw [ofTyped, ofInstant_of_timed bare] at first second
      exact compared_opposite h (Except.ok.inj first) (Except.ok.inj second)
  | numberRange r | textRange r | timeRange r =>
    exact ofRange_opposite h (Except.ok.inj first) (Except.ok.inj second)
  | dateRange r =>
    by_cases bare : r.low.isDateOnly = true ∨ r.high.isDateOnly = true
    case pos =>
      exact ofRange_opposite h (ofDateRange_of_ok bare first) (ofDateRange_of_ok bare second)
    case neg =>
      rw [ofTyped, ofDateRange_of_timed bare] at first second
      exact ofRange_opposite h (Except.ok.inj first) (Except.ok.inj second)

theorem apart_of_compare {o : Operand} (known : v.compare foldCase o ≠ .ok none) :
    Apart ((compare .lt o foldCase).meets v) ((compare .eq o foldCase).meets v)
      ((compare .gt o foldCase).meets v) := by
  cases order : v.compare foldCase o with
  | error fault =>
    refine .inl ⟨fault, ?_, ?_, ?_⟩
    · exact meets_compare_error order .lt
    · exact meets_compare_error order .eq
    · exact meets_compare_error order .gt
  | ok order? =>
    obtain ⟨a, rfl⟩ := Option.ne_none_iff_exists'.mp fun h => known (order.trans (h ▸ rfl))
    refine .inr ⟨a, ?_, ?_, ?_⟩
    · exact meets_compare_of order .lt
    · exact meets_compare_of order .eq
    · exact meets_compare_of order .gt

/-- An instant comes before a day, lies in it or comes after. -/
theorem apart_of_day (t : Timestamp) (v : FieldValue) :
    Apart ((compare .lt (.instant t.startOfDay) false).meets v)
      ((between (.instant t.startOfDay) (.instant t.endOfDay) false).meets v)
      ((compare .gt (.instant t.endOfDay) false).meets v) := by
  cases seen : v.asInstant with
  | error fault =>
    have first := FieldValue.compare_instant_error seen false t.startOfDay
    have last := FieldValue.compare_instant_error seen false t.endOfDay
    refine .inl ⟨fault, ?_, ?_, ?_⟩
    · exact meets_compare_error first .lt
    · exact (meets_range_error (.inl first)).1
    · exact meets_compare_error last .gt
  | ok m =>
    have first := FieldValue.compare_instant seen false t.startOfDay
    have last := FieldValue.compare_instant seen false t.endOfDay
    -- with the day not empty, an instant cannot come both before and after it
    have early : m.compare t.startOfDay = .lt → m.compare t.endOfDay = .lt := fun before =>
      Std.TransCmp.lt_of_lt_of_isLE before t.isLE_startOfDay_endOfDay
    have before := meets_compare_of first .lt
    have within := meets_between_of first last
    have after := meets_compare_of last .gt
    refine .inr ?_
    rw [before, within, after]
    cases a : m.compare t.startOfDay with
    | lt => exact ⟨.lt, rfl, rfl, early a ▸ rfl⟩
    | eq | gt =>
      cases m.compare t.endOfDay with
      | lt | eq => exact ⟨.eq, rfl, rfl, rfl⟩
      | gt => exact ⟨.gt, rfl, rfl, rfl⟩

/-- Single numbers, dates and times share out the values between less, equal and greater. -/
theorem apart_of_typed (single : value.isRange = false)
    (ordered : value.dataType? = some .number ∨ value.dataType? = some .date ∨
      value.dataType? = some .time)
    (less : ofTyped .lt value = .ok (some c)) (equal : ofTyped .equal value = .ok (some d))
    (greater : ofTyped .gt value = .ok (some e)) (known : d.Comparable v) :
    Apart (c.meets v) (d.meets v) (e.meets v) := by
  cases value with
  | absent => cases less
  | number x | clock x =>
    cases less
    cases equal
    cases greater
    exact apart_of_compare known
  | instant t =>
    by_cases bare : t.isDateOnly = true
    case pos =>
      cases ofInstant_of_ok bare less
      cases ofInstant_of_ok bare equal
      cases ofInstant_of_ok bare greater
      exact apart_of_day t v
    case neg =>
      rw [ofTyped, ofInstant_of_timed bare] at less equal greater
      cases less
      cases equal
      cases greater
      exact apart_of_compare known
  | text | bool => rcases ordered with h | h | h <;> cases h
  | numberRange | textRange | dateRange | timeRange => cases single

/-- What is made of a value does not ask for emptiness. -/
theorem asksEmptiness_of_typed (h : ofTyped mode value = .ok (some c)) :
    c.asksEmptiness = false := by
  have compared {dated : Bool} {o : Operand}
      (h : (comparison dated mode).map (compare · o false) = some c) :
      c.asksEmptiness = false := by
    obtain ⟨op, -, rfl⟩ := Option.map_eq_some_iff.mp h
    rfl
  have ranged {low high : Operand} {foldCase : Bool}
      (h : ofRange mode low high foldCase = some c) : c.asksEmptiness = false := by
    cases mode with
    | range | inside | outside =>
      cases h
      rfl
    | _ => cases h
  cases value with
  | absent => cases h
  | number x | clock x => exact compared (Except.ok.inj h)
  | text s =>
    cases mode with
    | isEmpty | isNotEmpty | range | inside | outside => cases h
    | _ =>
      cases h
      rfl
  | bool x =>
    cases mode with
    | equal | nequal =>
      cases h
      rfl
    | _ => cases h
  | instant t =>
    by_cases bare : t.isDateOnly = true
    case pos =>
      have made := ofInstant_of_ok bare h
      cases mode with
      | contains | ncontains | startsWith | endsWith | isEmpty | isNotEmpty | range | inside
      | outside => cases made
      | _ =>
        cases made
        rfl
    case neg => exact compared (Except.ok.inj ((ofInstant_of_timed bare).symm.trans h))
  | numberRange r | textRange r | timeRange r => exact ranged (Except.ok.inj h)
  | dateRange r =>
    by_cases bare : r.low.isDateOnly = true ∨ r.high.isDateOnly = true
    case pos => exact ranged (ofDateRange_of_ok bare h)
    case neg => exact ranged (Except.ok.inj ((ofDateRange_of_timed bare).symm.trans h))

end Condition

namespace Predicate

/-- Every comparison that a predicate makes of a value has a result, or is a fault. -/
def Comparable (v : FieldValue) (p : Predicate) : Prop :=
  ∀ seen, p.projection.apply v = .ok seen → p.condition.Comparable seen

def opposite (p : Predicate) : Predicate := ⟨p.projection, p.condition.opposite⟩

variable {v : FieldValue}

theorem judge_opposite {p : Predicate} (there : v ≠ .null) (known : p.Comparable v) :
    p.opposite.judge v = (p.judge v).map (!·) := by
  obtain ⟨projection, condition⟩ := p
  have asked (asks : condition.asksEmptiness = false)
      (asks' : condition.opposite.asksEmptiness = false) :
      Predicate.judge ⟨projection, condition.opposite⟩ v =
        (Predicate.judge ⟨projection, condition⟩ v).map (!·) := by
    rw [judge_present _ there asks', judge_present _ there asks]
    cases seen : projection.apply v with
    | error fault => rfl
    | ok x => exact Condition.meets_opposite (known x seen)
  cases condition with
  | compare | between | outside | like => exact asked rfl rfl
  | empty negated blankText => exact congrArg Except.ok (Bool.bne_not _ _)

/-- Three conditions on what is read of a field share out the values of the field. -/
theorem judge_apart {projection : Projection} {c d e : Condition} (there : v ≠ .null)
    (hc : c.asksEmptiness = false) (hd : d.asksEmptiness = false) (he : e.asksEmptiness = false)
    (apart : ∀ seen, projection.apply v = .ok seen →
      Apart (c.meets seen) (d.meets seen) (e.meets seen)) :
    Apart (judge ⟨projection, c⟩ v) (judge ⟨projection, d⟩ v) (judge ⟨projection, e⟩ v) := by
  have first := judge_present ⟨projection, c⟩ there hc
  have second := judge_present ⟨projection, d⟩ there hd
  have third := judge_present ⟨projection, e⟩ there he
  rw [first, second, third]
  cases seen : projection.apply v with
  | error fault => exact .inl ⟨fault, rfl, rfl, rfl⟩
  | ok x => exact apart x seen

end Predicate

namespace Term

variable {t : Term} {mode a b : Mode} {p q : Predicate}

/-- Two modes that both take a range, or both do not, make their conditions of one value. -/
theorem predicate_inMode (asks : a.asksEmptiness = false) (asks' : b.asksEmptiness = false)
    (range : a.takesRange = b.takesRange) (first : (t.inMode a).predicate = .ok p)
    (second : (t.inMode b).predicate = .ok q) :
    ∃ value, (t.inMode a).typed = .ok value ∧ Condition.ofTyped a value = .ok (some p.condition) ∧
      Condition.ofTyped b value = .ok (some q.condition) ∧ q.projection = p.projection := by
  obtain ⟨x, typed, built, read⟩ := (predicate_ok_iff (t := t.inMode a) asks).mp first
  obtain ⟨y, typed', built', read'⟩ := (predicate_ok_iff (t := t.inMode b) asks').mp second
  obtain rfl := typed_inMode asks asks' range typed typed'
  exact ⟨x, typed, built, built', read'.trans read.symm⟩

/-- A term in the opposite mode has the opposite predicate. -/
theorem predicate_opposite (h : a.Opposite b) (first : (t.inMode a).predicate = .ok p)
    (second : (t.inMode b).predicate = .ok q) : q = p.opposite := by
  have made (asks : a.asksEmptiness = false) (asks' : b.asksEmptiness = false)
      (range : a.takesRange = b.takesRange) : q = p.opposite := by
    obtain ⟨value, -, built, built', read⟩ := predicate_inMode asks asks' range first second
    have conditions := Condition.ofTyped_opposite h built built'
    obtain ⟨projection, condition⟩ := q
    cases conditions
    cases read
    rfl
  cases h with
  | isEmpty =>
    have empty := predicate_of_asks (t := t.inMode .isEmpty) rfl first
    have notEmpty := predicate_of_asks (t := t.inMode .isNotEmpty) rfl second
    rw [empty, notEmpty]
    rfl
  | _ => exact made rfl rfl rfl

/-- Less, equal and greater of a number, a date or a time share out the values of a field. -/
theorem judge_apart {less equal greater : Predicate} {v : FieldValue}
    (ordered : t.dataType = .number ∨ t.dataType = .date ∨ t.dataType = .time)
    (first : (t.inMode .lt).predicate = .ok less) (second : (t.inMode .equal).predicate = .ok equal)
    (third : (t.inMode .gt).predicate = .ok greater) (there : v ≠ .null)
    (known : equal.Comparable v) : Apart (less.judge v) (equal.judge v) (greater.judge v) := by
  obtain ⟨value, typed, lt, eq, read⟩ :=
    predicate_inMode (a := .lt) (b := .equal) rfl rfl rfl first second
  obtain ⟨value', typed', -, gt, read'⟩ :=
    predicate_inMode (a := .lt) (b := .gt) rfl rfl rfl first third
  obtain rfl : value = value' := Except.ok.inj (typed.symm.trans typed')
  have present : value ≠ .absent := by
    rintro rfl
    cases lt
  obtain ⟨dataType, single⟩ := dataType_of_typed typed present
  have ranked : value.dataType? = some .number ∨ value.dataType? = some .date ∨
      value.dataType? = some .time := by
    rw [dataType]
    exact ordered.imp (congrArg some) (Or.imp (congrArg some) (congrArg some))
  obtain ⟨projection, c⟩ := less
  obtain ⟨_, d⟩ := equal
  obtain ⟨_, e⟩ := greater
  cases read
  cases read'
  apply Predicate.judge_apart there
  · exact Condition.asksEmptiness_of_typed lt
  · exact Condition.asksEmptiness_of_typed eq
  · exact Condition.asksEmptiness_of_typed gt
  · intro seen applied
    exact Condition.apart_of_typed single ranked lt eq gt (known seen applied)

/-- Null meets no term but one that asks for it. -/
theorem judge_null_of_predicate (h : (t.inMode mode).predicate = .ok p) :
    p.judge .null = .ok (mode == .isEmpty) := by
  rw [Predicate.judge_null]
  cases asks : mode.asksEmptiness with
  | true =>
    rw [predicate_of_asks (t := t.inMode mode) asks h]
    cases mode with
    | isEmpty | isNotEmpty => rfl
    | _ => cases asks
  | false =>
    obtain ⟨value, -, built, -⟩ := (predicate_ok_iff (t := t.inMode mode) asks).mp h
    have others : mode ≠ .isEmpty := by
      rintro rfl
      cases asks
    have compares := Condition.asksEmptiness_of_typed built
    rw [beq_eq_false_iff_ne.mpr others]
    cases condition : p.condition with
    | empty negated blankText =>
      rw [condition] at compares
      cases compares
    | _ => rfl

end Term

/-- In two opposite modes a term accepts opposite values and refuses the same ones, as far as values
that are there compare. Less, equal and greater of a number, a date or a time are refused together,
or exactly one of them is accepted. Null meets no term but one that asks for it, and is refused by
none. -/
theorem opposite_modes (t : Term) :
    (∀ {a b : Mode} {p q : Predicate} {v : FieldValue}, a.Opposite b →
      (t.inMode a).predicate = .ok p → (t.inMode b).predicate = .ok q → v ≠ .null →
      p.Comparable v → q.judge v = (p.judge v).map (!·)) ∧
    (∀ {less equal greater : Predicate} {v : FieldValue},
      t.dataType = .number ∨ t.dataType = .date ∨ t.dataType = .time →
      (t.inMode .lt).predicate = .ok less → (t.inMode .equal).predicate = .ok equal →
      (t.inMode .gt).predicate = .ok greater → v ≠ .null → equal.Comparable v →
      Apart (less.judge v) (equal.judge v) (greater.judge v)) ∧
    ∀ {mode : Mode} {p : Predicate}, (t.inMode mode).predicate = .ok p →
      p.judge .null = .ok (mode == .isEmpty) := by
  refine ⟨?_, Term.judge_apart, Term.judge_null_of_predicate⟩
  intro a b p q v opposite first second there known
  rw [Term.predicate_opposite opposite first second]
  exact Predicate.judge_opposite there known

namespace Sample

/-- The day that `dueEast` names, as a condition on instants. -/
def onTheTenth : Predicate :=
  ⟨.value, .between (.instant tenthEast.startOfDay) (.instant tenthEast.endOfDay) false⟩

def beforeTheTenth : Predicate := ⟨.value, .compare .lt (.instant tenthEast.startOfDay) false⟩

def afterTheTenth : Predicate := ⟨.value, .compare .gt (.instant tenthEast.endOfDay) false⟩

end Sample

open Sample in
/-- A date compares with every bare date, a text that is none is refused by all modes. -/
theorem opposite_modes_dueEast :
    ((dueEast.inMode .equal).predicate = .ok onTheTenth ∧
      (dueEast.inMode .nequal).predicate = .ok onTheTenth.opposite ∧
      (dueEast.inMode .lt).predicate = .ok beforeTheTenth ∧
      (dueEast.inMode .gt).predicate = .ok afterTheTenth ∧
      onTheTenth.Comparable (.date ⟨20098⟩) ∧ onTheTenth.Comparable (.text "soon")) ∧
    onTheTenth.opposite.judge (.date ⟨20098⟩) = (onTheTenth.judge (.date ⟨20098⟩)).map (!·) ∧
    Apart (beforeTheTenth.judge (.text "soon")) (onTheTenth.judge (.text "soon"))
      (afterTheTenth.judge (.text "soon")) ∧
    onTheTenth.judge .null = .ok false := by
  have equal : (dueEast.inMode .equal).predicate = .ok onTheTenth :=
    eq_ok_of_toOption (by decide +kernel)
  have unequal : (dueEast.inMode .nequal).predicate = .ok onTheTenth.opposite :=
    eq_ok_of_toOption (by decide +kernel)
  have less : (dueEast.inMode .lt).predicate = .ok beforeTheTenth :=
    eq_ok_of_toOption (by decide +kernel)
  have greater : (dueEast.inMode .gt).predicate = .ok afterTheTenth :=
    eq_ok_of_toOption (by decide +kernel)
  have known (v : FieldValue) : onTheTenth.Comparable v := by
    intro seen _
    constructor
    · intro unknown
      obtain ⟨x, n, number, -⟩ := FieldValue.compare_eq_none_iff.mp unknown
      cases number
    · intro unknown
      obtain ⟨x, n, number, -⟩ := FieldValue.compare_eq_none_iff.mp unknown
      cases number
  have there : FieldValue.date ⟨20098⟩ ≠ .null := by decide
  have written : FieldValue.text "soon" ≠ .null := by decide
  refine ⟨⟨equal, unequal, less, greater, known _, known _⟩, ?_, ?_, ?_⟩
  · exact (opposite_modes dueEast).1 .equal equal unequal there (known _)
  · exact (opposite_modes dueEast).2.1 (.inr (.inl rfl)) less equal greater written (known _)
  · exact (opposite_modes dueEast).2.2 equal

end FieldQuery

import FieldQuery.Proofs.DayBounds

/-!
# How terms are refused

A term is refused for its mode, for the shape of its range, for a bound that is missing or makes no
sense, or for bounds in the wrong order, and for nothing else. The conditions are stated on the JSON
value alone. The program stops, instead of refusing a term, where the end of the calendar's last day
is asked for. Main statement: `Term.predicate_refused_iff`.
-/
namespace FieldQuery

namespace Json

def isScalar : Json → Bool
  | arr _ | obj _ => false
  | _ => true

def asShown : Json → String
  | str s => QueryFault.shown s
  | j => j.text

/-- The value of the first key of an object that matches in any case. -/
def FirstAt (key : String) (members : List (String × Json)) (v : Json) : Prop :=
  ∃ before k after, members = before ++ (k, v) :: after ∧ Text.eqIgnoreAsciiCase k key = true ∧
    ∀ m ∈ before, Text.eqIgnoreAsciiCase m.1 key = false

/-- What may be a range: an object or an array of two. -/
inductive IsRange : Json → Prop where
  | keys (members : List (String × Json)) : IsRange (obj members)
  | pair (low high : Json) : IsRange (arr [low, high])

/-- A bound of a range, given by a key or by its place in a pair, which is not null. -/
inductive IsBound (key : String) (i : Nat) : Json → Json → Prop where
  | key {members : List (String × Json)} {v : Json} (first : FirstAt key members v)
      (there : v ≠ null) : IsBound key i (obj members) v
  | item {a b v : Json} (place : [a, b][i]? = some v) (there : v ≠ null) :
      IsBound key i (arr [a, b]) v

def Lower : Json → Json → Prop := IsBound "from" 0

def Upper : Json → Json → Prop := IsBound "to" 1

end Json

namespace DataType

/-- The JSON values that can be taken for values of a type. -/
def Accepts : DataType → Json → Prop
  | number, .str s => (Number.read? (Text.trim s.toList)).isSome = true
  | number, j => j = .null ∨ ∃ n, j = .num n
  | text, j => j.isScalar = true
  | bool, j => j.isScalar = true
  | date, j => ∃ s, j = .str s ∧ (Timestamp.read? s.toList).isSome = true
  | time, j => ∃ s, j = .str s ∧ (Clock.read? s.toList).isSome = true

/-- Bounds in the wrong order, as messages show them. Texts have no order here. -/
inductive Reversed : DataType → Json → Json → String → String → Prop where
  | number {low high : Json} {x y : Number} (first : low.asNumber = .ok x)
      (second : high.asNumber = .ok y) (after : x.compare? y = some .gt) :
      Reversed number low high (Number.boundStyle.render x) (Number.boundStyle.render y)
  | date {low high : Json} {a b : Timestamp} (first : low.asInstant = .ok a)
      (second : high.asInstant = .ok b) (after : a.compare b = .gt) :
      Reversed date low high (String.ofList a.text) (String.ofList b.text)
  | time {low high : Json} {a b : Clock} (first : low.asClock = .ok a)
      (second : high.asClock = .ok b) (after : a.compare b = .gt) :
      Reversed time low high (String.ofList a.text) (String.ofList b.text)

inductive RangeFails (d : DataType) (j : Json) : QueryFault → Prop where
  | shape (other : ¬ j.IsRange) : RangeFails d j (.range (.shape j))
  | missingFrom (shaped : j.IsRange) (none : ∀ low, ¬ j.Lower low) :
      RangeFails d j (.range .missingFrom)
  | missingTo {low : Json} (lower : j.Lower low) (none : ∀ high, ¬ j.Upper high) :
      RangeFails d j (.range .missingTo)
  | low {low high : Json} (lower : j.Lower low) (upper : j.Upper high)
      (refused : ¬ d.Accepts low) : RangeFails d j (.notCoercible low.asShown d.name)
  | high {low high : Json} (lower : j.Lower low) (upper : j.Upper high)
      (taken : d.Accepts low) (refused : ¬ d.Accepts high) :
      RangeFails d j (.notCoercible high.asShown d.name)
  | reversed {low high : Json} {first second : String} (lower : j.Lower low)
      (upper : j.Upper high) (reversed : d.Reversed low high first second) :
      RangeFails d j (.range (.reversed first second))

def IsRangeOf (d : DataType) (j : Json) : Prop :=
  ∃ low high, j.Lower low ∧ j.Upper high ∧ d.Accepts low ∧ d.Accepts high ∧
    ∀ first second, ¬ d.Reversed low high first second

end DataType

namespace Json

variable {j : Json} {fault : QueryFault}

/-- A reader takes what a data type accepts, and refuses the rest in one way. -/
structure ReadsAs {α : Type} (d : DataType) (read : Json → Answer α) : Prop where
  taken : ∀ {j}, d.Accepts j → ∃ a, read j = .ok a
  refused : ∀ {j}, ¬ d.Accepts j → read j = .error (.notCoercible j.asShown d.name)

theorem asNumber_reads : ReadsAs .number asNumber where
  taken {j} accepted := by
    cases j with
    | null | num => exact ⟨_, rfl⟩
    | str s =>
      obtain ⟨x, found⟩ := Option.isSome_iff_exists.mp accepted
      exact ⟨x, by simp only [asNumber, found]⟩
    | bool | arr | obj => rcases accepted with h | ⟨n, h⟩ <;> cases h
  refused {j} other := by
    cases j with
    | null => exact absurd (.inl rfl) other
    | num n => exact absurd (.inr ⟨n, rfl⟩) other
    | str s =>
      have none := Option.not_isSome_iff_eq_none.mp other
      rw [asNumber, none]
      rfl
    | bool | arr | obj => rfl

theorem asText_reads : ReadsAs .text asText where
  taken {j} accepted := by
    cases j with
    | bool b => cases b <;> exact ⟨_, rfl⟩
    | null | num | str => exact ⟨_, rfl⟩
    | arr | obj => cases accepted
  refused {j} other := by
    cases j with
    | arr | obj => rfl
    | _ => exact absurd rfl other

theorem asBool_reads : ReadsAs .bool asBool where
  taken {j} accepted := by
    cases j with
    | null | bool | num | str => exact ⟨_, rfl⟩
    | arr | obj => cases accepted
  refused {j} other := by
    cases j with
    | arr | obj => rfl
    | _ => exact absurd rfl other

/-- A reader that takes texts alone, those that something can be made of. -/
theorem ReadsAs.of_texts {α : Type} {d : DataType} {read : Json → Answer α} (f : String → Option α)
    (accepts : ∀ j, d.Accepts j ↔ ∃ s, j = str s ∧ (f s).isSome = true)
    (onText : ∀ s, read (str s) =
      match f s with
      | some a => .ok a
      | none => .error (.notCoercible (str s).asShown d.name))
    (onOther : ∀ j, (∀ s, j ≠ str s) → read j = .error (.notCoercible j.asShown d.name)) :
    ReadsAs d read where
  taken {j} accepted := by
    obtain ⟨s, rfl, there⟩ := (accepts j).mp accepted
    obtain ⟨a, found⟩ := Option.isSome_iff_exists.mp there
    exact ⟨a, by rw [onText, found]⟩
  refused {j} other := by
    by_cases text : ∃ s, j = str s
    · obtain ⟨s, rfl⟩ := text
      have none : f s = none := by
        refine Option.not_isSome_iff_eq_none.mp ?_
        intro there
        exact other ((accepts _).mpr ⟨s, rfl, there⟩)
      rw [onText, none]
    · exact onOther j fun s same => text ⟨s, same⟩

theorem asInstant_reads : ReadsAs .date asInstant := by
  refine .of_texts (fun s => Timestamp.read? s.toList) (fun j => Iff.rfl) (fun s => ?_) ?_
  · unfold asInstant
    dsimp only
    cases Timestamp.read? s.toList <;> rfl
  intro j other
  cases j with
  | str s => exact absurd rfl (other s)
  | _ => rfl

theorem asClock_reads : ReadsAs .time asClock := by
  refine .of_texts (fun s => Clock.read? s.toList) (fun j => Iff.rfl) (fun s => ?_) ?_
  · unfold asClock
    dsimp only
    cases Clock.read? s.toList <;> rfl
  intro j other
  cases j with
  | str s => exact absurd rfl (other s)
  | _ => rfl

namespace ReadsAs

variable {α : Type} {d : DataType} {read : Json → Answer α}

theorem error_iff (reads : ReadsAs d read) :
    read j = .error fault ↔ ¬ d.Accepts j ∧ fault = .notCoercible j.asShown d.name := by
  constructor
  · intro h
    have other : ¬ d.Accepts j := by
      intro accepted
      obtain ⟨a, taken⟩ := reads.taken accepted
      cases taken.symm.trans h
    exact ⟨other, Except.error.inj (h.symm.trans (reads.refused other))⟩
  · rintro ⟨other, rfl⟩
    exact reads.refused other

theorem map {β : Type} (reads : ReadsAs d read) (f : α → β) :
    ReadsAs d fun j => (read j).map f where
  taken accepted := by
    obtain ⟨a, found⟩ := reads.taken accepted
    exact ⟨f a, by rw [found]; rfl⟩
  refused other := by
    rw [reads.refused other]
    rfl

end ReadsAs

end Json

namespace DataType

variable {d : DataType} {j : Json}

theorem typedScalar_reads (d : DataType) : Json.ReadsAs d d.typedScalar := by
  cases d with
  | number => exact Json.asNumber_reads.map TypedValue.number
  | text => exact Json.asText_reads.map TypedValue.text
  | bool => exact Json.asBool_reads.map TypedValue.bool
  | date => exact Json.asInstant_reads.map TypedValue.instant
  | time => exact Json.asClock_reads.map TypedValue.clock

/-- Every scalar can be taken for a value of the type that it suggests. -/
theorem accepts_detect (scalar : j.isScalar = true) : (detect j).Accepts j := by
  cases j with
  | null | bool => rfl
  | num n => exact .inr ⟨n, rfl⟩
  | str s =>
    unfold detect
    split
    case isTrue date => exact ⟨s, rfl, date⟩
    case isFalse =>
      split
      case isTrue time => exact ⟨s, rfl, time⟩
      case isFalse => rfl
  | arr | obj => cases scalar

end DataType

namespace Json

variable {j low high : Json} {key : String} {members : List (String × Json)} {fault : QueryFault}

theorem bound?_eq_some {v : Json} :
    bound? key members = some v ↔ FirstAt key members v ∧ v ≠ null := by
  unfold bound?
  constructor
  · intro h
    split at h
    case h_1 => cases h
    case h_2 k w there found =>
      cases h
      obtain ⟨same, before, after, split, others⟩ := List.find?_eq_some_iff_append.mp found
      refine ⟨⟨before, k, after, split, same, ?_⟩, there⟩
      intro m member
      simpa using others m member
    case h_3 => cases h
  · rintro ⟨⟨before, k, after, rfl, same, others⟩, there⟩
    have found : (before ++ (k, v) :: after).find?
        (fun m => Text.eqIgnoreAsciiCase m.1 key) = some (k, v) := by
      refine List.find?_eq_some_iff_append.mpr ⟨same, before, after, rfl, ?_⟩
      intro m member
      simp [others m member]
    rw [found]
    cases v with
    | null => exact absurd rfl there
    | _ => rfl

theorem present?_eq_some {v : Json} : j.present? = some v ↔ j = v ∧ v ≠ null := by
  cases j with
  | null =>
    constructor
    · exact nofun
    · rintro ⟨rfl, there⟩
      exact absurd rfl there
  | _ =>
    constructor
    · rintro ⟨⟩
      exact ⟨rfl, nofun⟩
    · rintro ⟨rfl, -⟩
      rfl

def boundAt? (key : String) (i : Nat) : Json → Option Json
  | obj members => bound? key members
  | arr [a, b] => [a, b][i]?.bind present?
  | _ => none

theorem boundAt?_eq_some {i : Nat} {v : Json} : boundAt? key i j = some v ↔ IsBound key i j v := by
  constructor
  · intro h
    unfold boundAt? at h
    split at h
    case h_1 members =>
      obtain ⟨first, there⟩ := bound?_eq_some.mp h
      exact .key first there
    case h_2 a b =>
      obtain ⟨w, place, here⟩ := Option.bind_eq_some_iff.mp h
      obtain ⟨rfl, there⟩ := present?_eq_some.mp here
      exact .item place there
    case h_3 => cases h
  · intro bound
    cases bound with
    | key first there => exact bound?_eq_some.mpr ⟨first, there⟩
    | item place there =>
      exact Option.bind_eq_some_iff.mpr ⟨v, place, present?_eq_some.mpr ⟨rfl, there⟩⟩

theorem boundAt?_eq_none {i : Nat} (none : ∀ v, ¬ IsBound key i j v) :
    boundAt? key i j = .none := by
  refine Option.eq_none_iff_forall_ne_some.mpr ?_
  intro v found
  exact none v (boundAt?_eq_some.mp found)

theorem IsBound.isRange {i : Nat} {v : Json} (bound : IsBound key i j v) : j.IsRange := by
  cases bound with
  | key => exact .keys _
  | item => exact .pair _ _

theorem bounds_of_isRange (shaped : j.IsRange) : j.bounds =
    match boundAt? "from" 0 j, boundAt? "to" 1 j with
    | none, _ => .error (.range .missingFrom)
    | _, none => .error (.range .missingTo)
    | some low, some high => .ok ⟨low, high⟩ := by
  cases shaped <;> rfl

theorem bounds_of_not_isRange (other : ¬ j.IsRange) : j.bounds = .error (.range (.shape j)) := by
  cases j with
  | obj members => exact absurd (.keys members) other
  | arr items =>
    match items, other with
    | [low, high], other => exact absurd (.pair low high) other
    | [], _ | [_], _ | _ :: _ :: _ :: _, _ => rfl
  | _ => rfl

theorem bounds_of_both (lower : j.Lower low) (upper : j.Upper high) :
    j.bounds = .ok ⟨low, high⟩ := by
  rw [bounds_of_isRange lower.isRange, boundAt?_eq_some.mpr lower, boundAt?_eq_some.mpr upper]

theorem bounds_of_missingFrom (shaped : j.IsRange) (none : ∀ low, ¬ j.Lower low) :
    j.bounds = .error (.range .missingFrom) := by
  rw [bounds_of_isRange shaped, boundAt?_eq_none none]

theorem bounds_of_missingTo (lower : j.Lower low) (none : ∀ high, ¬ j.Upper high) :
    j.bounds = .error (.range .missingTo) := by
  rw [bounds_of_isRange lower.isRange, boundAt?_eq_some.mpr lower, boundAt?_eq_none none]

end Json

namespace DataType

variable {d : DataType} {j : Json} {fault : QueryFault}

/-- What makes sense of two bounds refuses the first one that a type does not accept, and then
bounds in the wrong order. -/
structure ReadsRange (d : DataType) (body : Bounds Json → Answer TypedValue) : Prop where
  low {r : Bounds Json} : ¬ d.Accepts r.low →
    body r = .error (.notCoercible r.low.asShown d.name)
  high {r : Bounds Json} : d.Accepts r.low → ¬ d.Accepts r.high →
    body r = .error (.notCoercible r.high.asShown d.name)
  reversed {r : Bounds Json} {s t : String} : d.Reversed r.low r.high s t →
    body r = .error (.range (.reversed s t))
  taken {r : Bounds Json} : d.Accepts r.low → d.Accepts r.high →
    (∀ s t, ¬ d.Reversed r.low r.high s t) → ∃ v, body r = .ok v

theorem ReadsRange.of_reader {α : Type} {read : Json → Answer α} (reads : Json.ReadsAs d read)
    (cmp : α → α → Option Ordering) (shown : α → String) (wrap : Bounds α → TypedValue)
    (order : ∀ low high s t, d.Reversed low high s t ↔ ∃ x y, read low = .ok x ∧
      read high = .ok y ∧ cmp x y = some .gt ∧ s = shown x ∧ t = shown y) :
    ReadsRange d fun r => do
      let r ← r.traverse read
      wrap <$> r.ordered cmp shown where
  low {r} refused := by
    rw [Bounds.traverse, reads.refused refused]
    rfl
  high {r} taken refused := by
    obtain ⟨x, first⟩ := reads.taken taken
    rw [Bounds.traverse, first, reads.refused refused]
    rfl
  reversed {r s t} reversed := by
    obtain ⟨x, y, first, second, after, rfl, rfl⟩ := (order _ _ _ _).mp reversed
    rw [Bounds.traverse, first, second]
    change wrap <$> Bounds.ordered cmp shown ⟨x, y⟩ = _
    rw [Bounds.ordered, if_pos after]
    rfl
  taken {r} low high inOrder := by
    obtain ⟨x, first⟩ := reads.taken low
    obtain ⟨y, second⟩ := reads.taken high
    have notAfter : cmp x y ≠ some .gt := by
      intro after
      exact inOrder _ _ ((order _ _ _ _).mpr ⟨x, y, first, second, after, rfl, rfl⟩)
    refine ⟨wrap ⟨x, y⟩, ?_⟩
    rw [Bounds.traverse, first, second]
    change wrap <$> Bounds.ordered cmp shown ⟨x, y⟩ = _
    rw [Bounds.ordered, if_neg notAfter]
    rfl

theorem typedRange_reads (ranged : d ≠ bool) :
    ∃ body, (∀ j, d.typedRange j = j.bounds >>= body) ∧ ReadsRange d body := by
  cases d with
  | number =>
    refine ⟨_, fun j => rfl, .of_reader Json.asNumber_reads _ _ _ ?_⟩
    intro low high s t
    constructor
    · intro reversed
      cases reversed with
      | number first second after => exact ⟨_, _, first, second, after, rfl, rfl⟩
    · rintro ⟨x, y, first, second, after, rfl, rfl⟩
      exact .number first second after
  | text =>
    refine ⟨_, fun j => ?_,
      .of_reader Json.asText_reads (fun _ _ => none) (fun s => s) TypedValue.textRange ?_⟩
    · refine congrArg (j.bounds >>= ·) (funext fun r => ?_)
      cases r.traverse Json.asText <;> rfl
    · intro low high s t
      constructor
      · exact nofun
      · rintro ⟨x, y, -, -, after, -⟩
        cases after
  | bool => exact absurd rfl ranged
  | date =>
    refine ⟨_, fun j => rfl, .of_reader Json.asInstant_reads _ _ _ ?_⟩
    intro low high s t
    constructor
    · intro reversed
      cases reversed with
      | date first second after => exact ⟨_, _, first, second, congrArg some after, rfl, rfl⟩
    · rintro ⟨a, b, first, second, after, rfl, rfl⟩
      exact .date first second (Option.some.inj after)
  | time =>
    refine ⟨_, fun j => rfl, .of_reader Json.asClock_reads _ _ _ ?_⟩
    intro low high s t
    constructor
    · intro reversed
      cases reversed with
      | time first second after => exact ⟨_, _, first, second, congrArg some after, rfl, rfl⟩
    · rintro ⟨a, b, first, second, after, rfl, rfl⟩
      exact .time first second (Option.some.inj after)

theorem typedRange_of_fails (ranged : d ≠ bool) (fails : d.RangeFails j fault) :
    d.typedRange j = .error fault := by
  obtain ⟨body, bind, reads⟩ := typedRange_reads ranged
  rw [bind]
  cases fails with
  | shape other => rw [Json.bounds_of_not_isRange other]; rfl
  | missingFrom shaped none => rw [Json.bounds_of_missingFrom shaped none]; rfl
  | missingTo lower none => rw [Json.bounds_of_missingTo lower none]; rfl
  | low lower upper refused =>
    rw [Json.bounds_of_both lower upper]
    exact reads.low refused
  | high lower upper taken refused =>
    rw [Json.bounds_of_both lower upper]
    exact reads.high taken refused
  | reversed lower upper reversed =>
    rw [Json.bounds_of_both lower upper]
    exact reads.reversed reversed

theorem typedRange_of_isRangeOf (ranged : d ≠ bool) (range : d.IsRangeOf j) :
    ∃ v, d.typedRange j = .ok v := by
  obtain ⟨body, bind, reads⟩ := typedRange_reads ranged
  obtain ⟨low, high, lower, upper, lowTaken, highTaken, inOrder⟩ := range
  obtain ⟨v, read⟩ := reads.taken (r := ⟨low, high⟩) lowTaken highTaken inOrder
  refine ⟨v, ?_⟩
  rw [bind, Json.bounds_of_both lower upper]
  exact read

/-- A value is a range of a type or fails to be one in a way that has a name. -/
theorem isRangeOf_or_fails (d : DataType) (j : Json) :
    d.IsRangeOf j ∨ ∃ fault, d.RangeFails j fault := by
  by_cases shaped : j.IsRange
  case neg => exact .inr ⟨_, .shape shaped⟩
  by_cases lower : ∃ low, j.Lower low
  case neg => exact .inr ⟨_, .missingFrom shaped fun low h => lower ⟨low, h⟩⟩
  obtain ⟨low, lower⟩ := lower
  by_cases upper : ∃ high, j.Upper high
  case neg => exact .inr ⟨_, .missingTo lower fun high h => upper ⟨high, h⟩⟩
  obtain ⟨high, upper⟩ := upper
  by_cases lowTaken : d.Accepts low
  case neg => exact .inr ⟨_, .low lower upper lowTaken⟩
  by_cases highTaken : d.Accepts high
  case neg => exact .inr ⟨_, .high lower upper lowTaken highTaken⟩
  by_cases reversed : ∃ s t, d.Reversed low high s t
  · obtain ⟨s, t, reversed⟩ := reversed
    exact .inr ⟨_, .reversed lower upper reversed⟩
  · exact .inl ⟨low, high, lower, upper, lowTaken, highTaken, fun s t h => reversed ⟨s, t, h⟩⟩

theorem typedRange_ok_iff (ranged : d ≠ bool) :
    (∃ v, d.typedRange j = .ok v) ↔ d.IsRangeOf j := by
  constructor
  · rintro ⟨v, read⟩
    rcases isRangeOf_or_fails d j with range | ⟨fault, fails⟩
    · exact range
    · cases read.symm.trans (typedRange_of_fails ranged fails)
  · exact typedRange_of_isRangeOf ranged

theorem typedRange_error_iff (ranged : d ≠ bool) :
    d.typedRange j = .error fault ↔ d.RangeFails j fault := by
  constructor
  · intro refused
    rcases isRangeOf_or_fails d j with range | ⟨other, fails⟩
    · obtain ⟨v, read⟩ := typedRange_of_isRangeOf ranged range
      cases read.symm.trans refused
    · cases refused.symm.trans (typedRange_of_fails ranged fails)
      exact fails
  · exact typedRange_of_fails ranged

end DataType

namespace Condition

variable {d : DataType} {mode : Mode} {v : TypedValue}

theorem ofRange_ne_none (ranged : mode.takesRange = true) (low high : Operand) (foldCase : Bool) :
    (.ok (ofRange mode low high foldCase) : Answer (Option Condition)) ≠ .ok none := by
  cases mode with
  | range | inside | outside => exact nofun
  | _ => cases ranged

/-- The modes that compare a field with a single value in an order. -/
theorem exists_comparison (single : mode.takesRange = false) (asks : mode.asksEmptiness = false)
    (plain : mode.searchesText = false) : ∃ op, comparison true mode = some op := by
  cases mode with
  | contains | ncontains | startsWith | endsWith => cases plain
  | isEmpty | isNotEmpty => cases asks
  | range | inside | outside => cases single
  | _ => exact ⟨_, rfl⟩

theorem ofDay_ne_none (single : mode.takesRange = false) (asks : mode.asksEmptiness = false)
    (plain : mode.searchesText = false) (start last : Answer Operand) :
    ofDay mode start last ≠ .ok none := by
  intro missing
  cases mode with
  | contains | ncontains | startsWith | endsWith => cases plain
  | isEmpty | isNotEmpty => cases asks
  | range | inside | outside => cases single
  | equal | nequal =>
    cases start with
    | error => cases missing
    | ok => cases last <;> cases missing
  | gt | after | lte => cases last <;> cases missing
  | gte | lt | before => cases start <;> cases missing

theorem ofInstant_ne_none (single : mode.takesRange = false) (asks : mode.asksEmptiness = false)
    (plain : mode.searchesText = false) (t : Timestamp) : ofInstant mode t ≠ .ok none := by
  unfold ofInstant
  split
  case isTrue => exact ofDay_ne_none single asks plain _ _
  case isFalse =>
    obtain ⟨op, h⟩ := exists_comparison single asks plain
    rw [h]
    exact nofun

theorem ofDateRange_ne_none (ranged : mode.takesRange = true) (r : Bounds Timestamp) :
    ofDateRange mode r ≠ .ok none := by
  unfold ofDateRange
  split
  case isTrue =>
    intro missing
    obtain ⟨low, -, missing⟩ := bind_ok_iff.mp missing
    obtain ⟨high, -, missing⟩ := bind_ok_iff.mp missing
    exact ofRange_ne_none ranged low high false missing
  case isFalse => exact ofRange_ne_none ranged _ _ _

/-- Every mode that a type supports makes a condition of a value of the type. -/
theorem ofTyped_ne_none (supported : d.supports mode = true) (asks : mode.asksEmptiness = false)
    (type : v.dataType? = some d) (range : v.isRange = mode.takesRange) :
    ofTyped mode v ≠ .ok none := by
  cases v with
  | absent => cases type
  | number x =>
    cases type
    cases mode with
    | isEmpty | isNotEmpty => cases asks
    | range | inside | outside => cases range
    | equal | nequal | gt | gte | lt | lte => exact nofun
    | _ => cases supported
  | text s =>
    cases mode with
    | isEmpty | isNotEmpty => cases asks
    | range | inside | outside => cases range
    | _ => exact nofun
  | bool b =>
    cases type
    cases mode with
    | isEmpty | isNotEmpty => cases asks
    | range | inside | outside => cases range
    | equal | nequal => exact nofun
    | _ => cases supported
  | instant t =>
    cases type
    have plain : mode.searchesText = false := by simpa [DataType.supports] using supported
    exact ofInstant_ne_none range.symm asks plain t
  | clock t =>
    cases type
    have plain : mode.searchesText = false := by simpa [DataType.supports] using supported
    obtain ⟨op, h⟩ := exists_comparison range.symm asks plain
    rw [ofTyped, ofClock, h]
    exact nofun
  | numberRange r | textRange r | timeRange r => exact ofRange_ne_none range.symm _ _ _
  | dateRange r => exact ofDateRange_ne_none range.symm r

end Condition

namespace Term

variable {t : Term} {v : TypedValue} {fault : QueryFault}

theorem dataType_ne_bool (supported : t.dataType.supports t.mode = true)
    (ranged : t.mode.takesRange = true) : t.dataType ≠ .bool := by
  intro bool
  rw [bool] at supported
  revert supported ranged
  cases t.mode <;> decide

/-- A term asks for the end of the calendar's last day. -/
def Overruns (t : Term) : Prop := ∃ v, t.typed = .ok v ∧ v.Overruns t.mode

theorem not_overruns_of_asks (asks : t.mode.asksEmptiness = true) : ¬ t.Overruns := by
  rintro ⟨v, typed, overruns⟩
  cases typed_of_asks asks typed
  cases overruns

/-- A value that is understood makes a condition in every mode that gets as far. -/
theorem condition_ne_none (typed : t.typed = .ok v) (asks : t.mode.asksEmptiness = false) :
    Condition.ofTyped t.mode v ≠ .ok none := by
  obtain ⟨type, range⟩ := dataType_of_compares asks typed
  exact Condition.ofTyped_ne_none ((typed_ok_iff asks).mp typed).1 asks type range

/-- Once the value of a term is understood, nothing but the end of the calendar can go wrong. -/
theorem predicate_of_understood (typed : t.typed = .ok v) :
    v.Overruns t.mode ∧ t.predicate = .error .calendarOverrun ∨
      ¬ v.Overruns t.mode ∧ ∃ p, t.predicate = .ok p := by
  cases asks : t.mode.asksEmptiness with
  | true =>
    refine .inr ⟨fun overruns => not_overruns_of_asks asks ⟨v, typed, overruns⟩,
      ⟨t.dataType.projection, .empty (t.mode == .isNotEmpty) (t.dataType == .text)⟩, ?_⟩
    refine bind_ok_iff.mpr ⟨v, typed, ?_⟩
    rw [asks]
    rfl
  | false =>
    cases made : Condition.ofTyped t.mode v with
    | error fault =>
      obtain ⟨rfl, overruns⟩ := (Condition.ofTyped_error_iff (written_of_typed typed)).mp made
      refine .inl ⟨overruns, bind_error_iff.mpr (.inr ⟨v, typed, ?_⟩)⟩
      rw [asks, made]
      rfl
    | ok c? =>
      cases c? with
      | none => exact absurd made (condition_ne_none typed asks)
      | some c =>
        refine .inr ⟨fun overruns => ?_, ⟨_, c⟩, (predicate_ok_iff asks).mpr ⟨v, typed, made, rfl⟩⟩
        have stopped := (Condition.ofTyped_error_iff (written_of_typed typed)).mpr ⟨rfl, overruns⟩
        cases stopped.symm.trans made

theorem predicate_ok_iff_typed :
    (∃ p, t.predicate = .ok p) ↔ (∃ v, t.typed = .ok v) ∧ ¬ t.Overruns := by
  constructor
  · rintro ⟨p, compiled⟩
    obtain ⟨v, typed, -⟩ := bind_ok_iff.mp compiled
    refine ⟨⟨v, typed⟩, ?_⟩
    rintro ⟨w, typed', overruns⟩
    cases typed.symm.trans typed'
    rcases predicate_of_understood typed with ⟨-, stopped⟩ | ⟨fine, -⟩
    · cases compiled.symm.trans stopped
    · exact fine overruns
  · rintro ⟨⟨v, typed⟩, fine⟩
    rcases predicate_of_understood typed with ⟨overruns, -⟩ | ⟨-, compiled⟩
    · exact absurd ⟨v, typed, overruns⟩ fine
    · exact compiled

theorem predicate_error_iff : t.predicate = .error fault ↔
    t.typed = .error fault ∨ fault = .calendarOverrun ∧ t.Overruns := by
  constructor
  · intro refused
    rcases bind_error_iff.mp refused with h | ⟨v, typed, -⟩
    · exact .inl h
    · rcases predicate_of_understood typed with ⟨overruns, stopped⟩ | ⟨-, p, compiled⟩
      · cases stopped.symm.trans refused
        exact .inr ⟨rfl, v, typed, overruns⟩
      · cases compiled.symm.trans refused
  · rintro (refused | ⟨rfl, v, typed, overruns⟩)
    · exact bind_error_iff.mpr (.inl refused)
    · rcases predicate_of_understood typed with ⟨-, stopped⟩ | ⟨fine, -⟩
      · exact stopped
      · exact absurd overruns fine

theorem typed_of_unsupported (unsupported : t.dataType.supports t.mode = false) :
    t.typed = .error (.unsupported t.mode t.dataType) := by
  rw [typed_eq, unsupported]
  rfl

theorem typed_of_supported (supported : t.dataType.supports t.mode = true)
    (asks : t.mode.asksEmptiness = false) : t.typed =
      if t.mode.takesRange then t.dataType.typedRange t.value
      else t.dataType.typedScalar t.value := by
  rw [typed_eq, supported, asks]
  rfl

/-- The value of a term is refused since the mode has no meaning for its type, or is no range, or
cannot be taken for a value of the type. -/
theorem typed_error_cases (refused : t.typed = .error fault) :
    (t.dataType.supports t.mode = false ∧ fault = .unsupported t.mode t.dataType) ∨
      t.dataType.RangeFails t.value fault ∨
      fault = .notCoercible t.value.asShown t.dataType.name := by
  cases supported : t.dataType.supports t.mode with
  | false =>
    cases refused.symm.trans (typed_of_unsupported supported)
    exact .inl ⟨rfl, rfl⟩
  | true =>
    cases asks : t.mode.asksEmptiness with
    | true =>
      rw [typed_eq, supported, asks] at refused
      cases refused
    | false =>
      rw [typed_of_supported supported asks] at refused
      split at refused
      case isTrue ranged =>
        have type := dataType_ne_bool supported ranged
        exact .inr (.inl ((DataType.typedRange_error_iff type).mp refused))
      case isFalse => exact .inr (.inr ((DataType.typedScalar_reads _).error_iff.mp refused).2)

theorem predicate_unsupported_iff {m : Mode} {d : DataType} :
    t.predicate = .error (.unsupported m d) ↔
      t.dataType.supports t.mode = false ∧ m = t.mode ∧ d = t.dataType := by
  rw [predicate_error_iff]
  constructor
  · rintro (refused | ⟨other, -⟩)
    case inr => cases other
    rcases typed_error_cases refused with ⟨unsupported, same⟩ | fails | other
    · cases same
      exact ⟨unsupported, rfl, rfl⟩
    · cases fails
    · cases other
  · rintro ⟨unsupported, rfl, rfl⟩
    exact .inl (typed_of_unsupported unsupported)

theorem predicate_overrun_iff : t.predicate = .error .calendarOverrun ↔ t.Overruns := by
  rw [predicate_error_iff]
  constructor
  · rintro (refused | ⟨-, overruns⟩)
    case inr => exact overruns
    rcases typed_error_cases refused with ⟨-, other⟩ | fails | other
    · cases other
    · cases fails
    · cases other
  · intro overruns
    exact .inr ⟨rfl, overruns⟩

theorem predicate_of_emptiness (supported : t.dataType.supports t.mode = true)
    (asks : t.mode.asksEmptiness = true) : ∃ p, t.predicate = .ok p := by
  refine predicate_ok_iff_typed.mpr ⟨⟨.absent, ?_⟩, not_overruns_of_asks asks⟩
  rw [typed_eq, supported, asks]
  rfl

theorem predicate_of_range (supported : t.dataType.supports t.mode = true)
    (ranged : t.mode.takesRange = true) :
    ((∃ p, t.predicate = .ok p) ↔ t.dataType.IsRangeOf t.value ∧ ¬ t.Overruns) ∧
      ∀ fault, t.predicate = .error fault ↔
        t.dataType.RangeFails t.value fault ∨ fault = .calendarOverrun ∧ t.Overruns := by
  have asks := Mode.asksEmptiness_of_takesRange ranged
  have typed : t.typed = t.dataType.typedRange t.value := by
    rw [typed_of_supported supported asks, if_pos ranged]
  have type := dataType_ne_bool supported ranged
  constructor
  · rw [predicate_ok_iff_typed, typed, DataType.typedRange_ok_iff type]
  · intro fault
    rw [predicate_error_iff, typed, DataType.typedRange_error_iff type]

theorem predicate_of_single (supported : t.dataType.supports t.mode = true)
    (single : t.mode.takesRange = false) (accepted : t.dataType.Accepts t.value)
    (fine : ¬ t.Overruns) : ∃ p, t.predicate = .ok p := by
  cases asks : t.mode.asksEmptiness with
  | true => exact predicate_of_emptiness supported asks
  | false =>
    obtain ⟨v, read⟩ := (DataType.typedScalar_reads t.dataType).taken accepted
    refine predicate_ok_iff_typed.mpr ⟨⟨v, ?_⟩, fine⟩
    rw [typed_of_supported supported asks, single]
    exact read

/-- A term is called unsupported if and only if its data type, declared or detected, does not
support its mode, and what is understood never lacks a condition. The program stops on a term if
and only if that asks for the end of the calendar's last day. Otherwise a question of emptiness is
always fine; a range mode is fine exactly on a range of the type, and each fault has its one cause;
and without a declared type every scalar is fine in a mode that takes a single value. -/
theorem predicate_refused_iff (t : Term) :
    (∀ m d, t.predicate = .error (.unsupported m d) ↔
      t.dataType.supports t.mode = false ∧ m = t.mode ∧ d = t.dataType) ∧
    (∀ v, t.typed = .ok v → t.mode.asksEmptiness = false →
      Condition.ofTyped t.mode v ≠ .ok none) ∧
    (t.predicate = .error .calendarOverrun ↔ t.Overruns) ∧
    (t.dataType.supports t.mode = true →
      (t.mode.asksEmptiness = true → ∃ p, t.predicate = .ok p) ∧
      (t.mode.takesRange = true →
        ((∃ p, t.predicate = .ok p) ↔ t.dataType.IsRangeOf t.value ∧ ¬ t.Overruns) ∧
        ∀ fault, t.predicate = .error fault ↔
          t.dataType.RangeFails t.value fault ∨ fault = .calendarOverrun ∧ t.Overruns) ∧
      (t.mode.takesRange = false → t.declared = none → t.value.isScalar = true → ¬ t.Overruns →
        ∃ p, t.predicate = .ok p)) := by
  refine ⟨fun m d => predicate_unsupported_iff, fun v typed asks => condition_ne_none typed asks,
    predicate_overrun_iff, ?_⟩
  intro supported
  refine ⟨predicate_of_emptiness supported, predicate_of_range supported, ?_⟩
  intro single undeclared scalar fine
  have detected : t.dataType = .detect t.value := by
    rw [dataType, undeclared]
    rfl
  exact predicate_of_single supported single (detected ▸ DataType.accepts_detect scalar) fine

end Term

namespace Sample

/-- The type is detected by the lower bound, wherever it stands. -/
def backwards : Term where
  field := "count"
  value := .obj [("To", .int 3), ("FROM", .int 5), ("from", .int 1)]
  mode := .inside

theorem lower_backwards : backwards.value.Lower (.int 5) :=
  .key ⟨[("To", .int 3)], "FROM", [("from", .int 1)], rfl, by decide, by decide⟩ nofun

theorem upper_backwards : backwards.value.Upper (.int 3) :=
  .key ⟨[], "To", [("FROM", .int 5), ("from", .int 1)], rfl, by decide, nofun⟩ nofun

end Sample

open Sample in
theorem Term.predicate_refused_iff_backwards :
    backwards.dataType = .number ∧
    ∃ first second, backwards.predicate = .error (.range (.reversed first second)) := by
  have ranges := ((predicate_refused_iff backwards).2.2.2 rfl).2.1 rfl
  have reversed : DataType.Reversed .number (.int 5) (.int 3) _ _ :=
    .number rfl rfl (by decide +kernel)
  exact ⟨rfl, _, _, (ranges.2 _).mpr (.inl (.reversed lower_backwards upper_backwards reversed))⟩

namespace Sample

/-- A bare date, the last one that can be read. -/
def lastDay : Term where
  field := "at"
  value := .str "+262142-12-31"
  mode := .equal

end Sample

open Sample in
/-- A text without a declared type, in a mode that its type supports, can stop the program. -/
theorem Term.last_day_stops_program :
    lastDay.declared = none ∧ lastDay.value.isScalar = true ∧
    lastDay.dataType.supports lastDay.mode = true ∧ lastDay.mode.takesRange = false ∧
    lastDay.predicate = .error .calendarOverrun := by
  have typed : lastDay.typed = .ok (.instant ⟨⟨⟨95026236⟩, .midnight⟩, 0⟩) :=
    eq_ok_of_toOption (by decide +kernel)
  have overruns : lastDay.Overruns := ⟨_, typed, .day (by decide) rfl (by decide)⟩
  exact ⟨rfl, rfl, by decide +kernel, rfl, predicate_overrun_iff.mpr overruns⟩

end FieldQuery

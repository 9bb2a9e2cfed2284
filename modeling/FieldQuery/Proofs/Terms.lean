import FieldQuery.Filter.Predicate
import FieldQuery.Proofs.Answers

/-!
# What terms come to

A term that is understood asks for emptiness and has no value, or it has a single value or a range
of its data type, and its condition is made of that. Main statements: `Term.typed_ok_iff` and
`Term.predicate_ok_iff`.
-/
namespace FieldQuery

namespace TypedValue

def dataType? : TypedValue → Option DataType
  | absent => none
  | number _ | numberRange _ => some .number
  | text _ | textRange _ => some .text
  | bool _ => some .bool
  | instant _ | dateRange _ => some .date
  | clock _ | timeRange _ => some .time

def isRange : TypedValue → Bool
  | numberRange _ | textRange _ | dateRange _ | timeRange _ => true
  | _ => false

end TypedValue

namespace DataType

variable {d : DataType} {j : Json} {value : TypedValue}

theorem dataType_of_typedScalar (h : d.typedScalar j = .ok value) :
    value.dataType? = some d ∧ value.isRange = false := by
  cases d <;> obtain ⟨x, -, rfl⟩ := map_ok_iff.mp h <;> exact ⟨rfl, rfl⟩

theorem dataType_of_typedRange (h : d.typedRange j = .ok value) :
    value.dataType? = some d ∧ value.isRange = true := by
  obtain ⟨bounds, -, h⟩ := bind_ok_iff.mp h
  cases d with
  | text =>
    obtain ⟨r, -, rfl⟩ := map_ok_iff.mp h
    exact ⟨rfl, rfl⟩
  | number | date | time =>
    obtain ⟨read, -, h⟩ := bind_ok_iff.mp h
    obtain ⟨r, -, rfl⟩ := map_ok_iff.mp h
    exact ⟨rfl, rfl⟩
  | bool => cases h

end DataType

namespace Json

variable {j : Json}

theorem asInstant_ok_iff {t : Timestamp} :
    j.asInstant = .ok t ↔ ∃ s, j = str s ∧ Timestamp.read? s.toList = some t := by
  constructor
  · intro read
    unfold asInstant at read
    split at read
    case h_1 s =>
      split at read
      case h_1 found =>
        cases read
        exact ⟨s, rfl, found⟩
      case h_2 => cases read
    case h_2 => cases read
  · rintro ⟨s, rfl, found⟩
    unfold asInstant
    dsimp only
    rw [found]

theorem asClock_ok_iff {t : Clock} :
    j.asClock = .ok t ↔ ∃ s, j = str s ∧ Clock.read? s.toList = some t := by
  constructor
  · intro read
    unfold asClock at read
    split at read
    case h_1 s =>
      split at read
      case h_1 found =>
        cases read
        exact ⟨s, rfl, found⟩
      case h_2 => cases read
    case h_2 => cases read
  · rintro ⟨s, rfl, found⟩
    unfold asClock
    dsimp only
    rw [found]

end Json

namespace Bounds

theorem traverse_ok_iff {α : Type} {read : Json → Answer α} {r : Bounds Json} {b : Bounds α} :
    r.traverse read = .ok b ↔ read r.low = .ok b.low ∧ read r.high = .ok b.high := by
  unfold traverse
  cases read r.low with
  | error fault => exact ⟨nofun, fun h => nomatch h.1⟩
  | ok low =>
    cases read r.high with
    | error fault => exact ⟨nofun, fun h => nomatch h.2⟩
    | ok high =>
      constructor
      · rintro ⟨⟩
        exact ⟨rfl, rfl⟩
      · rintro ⟨⟨⟩, ⟨⟩⟩
        rfl

theorem ordered_ok_iff {α : Type} {cmp : α → α → Option Ordering} {shown : α → String}
    {r b : Bounds α} : r.ordered cmp shown = .ok b ↔ cmp r.low r.high ≠ some .gt ∧ b = r := by
  unfold ordered
  split
  case isTrue wrong => exact ⟨nofun, fun h => absurd wrong h.1⟩
  case isFalse fine =>
    constructor
    · rintro ⟨⟩
      exact ⟨fine, rfl⟩
    · rintro ⟨-, rfl⟩
      rfl

/-- The bounds of a range that is typed, each as it was read. -/
theorem of_typed {α : Type} {read : Json → Answer α} {cmp : α → α → Option Ordering}
    {shown : α → String} {wrap : Bounds α → TypedValue} {j : Json} {value : TypedValue}
    (typed : (do
      let r ← j.bounds
      let r ← r.traverse read
      wrap <$> r.ordered cmp shown) = .ok value) :
    ∃ b r, j.bounds = .ok b ∧ read b.low = .ok r.low ∧ read b.high = .ok r.high ∧
      cmp r.low r.high ≠ some .gt ∧ value = wrap r := by
  obtain ⟨b, bounds, typed⟩ := bind_ok_iff.mp typed
  obtain ⟨r, traversed, typed⟩ := bind_ok_iff.mp typed
  obtain ⟨r', ordered, rfl⟩ := map_ok_iff.mp typed
  obtain ⟨fine, rfl⟩ := ordered_ok_iff.mp ordered
  obtain ⟨low, high⟩ := traverse_ok_iff.mp traversed
  exact ⟨b, r', bounds, low, high, fine, rfl⟩

end Bounds

theorem Mode.asksEmptiness_of_takesRange {mode : Mode} (ranged : mode.takesRange = true) :
    mode.asksEmptiness = false := by
  cases mode with
  | isEmpty | isNotEmpty => cases ranged
  | _ => rfl

namespace Term

variable {t : Term} {value : TypedValue} {p : Predicate}

theorem typed_eq (t : Term) : t.typed =
    if t.dataType.supports t.mode then
      if t.mode.asksEmptiness then .ok .absent
      else if t.mode.takesRange then t.dataType.typedRange t.value
      else t.dataType.typedScalar t.value
    else .error (.unsupported t.mode t.dataType) := by
  unfold typed
  cases supported : t.dataType.supports t.mode <;> simp [supported]

theorem typed_of_asks (asks : t.mode.asksEmptiness = true) (h : t.typed = .ok value) :
    value = .absent := by
  rw [typed_eq, asks] at h
  split at h <;> cases h
  rfl

/-- The value of a term that does not ask for emptiness. -/
theorem typed_ok_iff (asks : t.mode.asksEmptiness = false) :
    t.typed = .ok value ↔ t.dataType.supports t.mode = true ∧
      (if t.mode.takesRange then t.dataType.typedRange t.value
        else t.dataType.typedScalar t.value) = .ok value := by
  rw [typed_eq, asks]
  split
  case isTrue supported => exact (and_iff_right supported).symm
  case isFalse unsupported =>
    constructor
    · intro h
      cases h
    · exact fun h => absurd h.1 unsupported

theorem asks_of_typed (h : t.typed = .ok value) (there : value ≠ .absent) :
    t.mode.asksEmptiness = false := by
  cases asks : t.mode.asksEmptiness with
  | false => rfl
  | true => exact absurd (typed_of_asks asks h) there

/-- The value of a term that does not ask for emptiness is of the data type of the term, and a range
if the mode takes one. -/
theorem dataType_of_compares (asks : t.mode.asksEmptiness = false) (h : t.typed = .ok value) :
    value.dataType? = some t.dataType ∧ value.isRange = t.mode.takesRange := by
  have read := ((typed_ok_iff asks).mp h).2
  split at read
  case isTrue range => exact range ▸ DataType.dataType_of_typedRange read
  case isFalse single =>
    exact eq_false_of_ne_true single ▸ DataType.dataType_of_typedScalar read

theorem dataType_of_typed (h : t.typed = .ok value) (there : value ≠ .absent) :
    value.dataType? = some t.dataType ∧ value.isRange = t.mode.takesRange :=
  dataType_of_compares (asks_of_typed h there) h

theorem predicate_of_asks (asks : t.mode.asksEmptiness = true) (h : t.predicate = .ok p) :
    p = ⟨t.dataType.projection, .empty (t.mode == .isNotEmpty) (t.dataType == .text)⟩ := by
  obtain ⟨value, -, rest⟩ := bind_ok_iff.mp h
  rw [asks] at rest
  cases rest
  rfl

/-- The predicate of a term that does not ask for emptiness. -/
theorem predicate_ok_iff (asks : t.mode.asksEmptiness = false) :
    t.predicate = .ok p ↔ ∃ value, t.typed = .ok value ∧
      Condition.ofTyped t.mode value = .ok (some p.condition) ∧
      p.projection = t.dataType.projection := by
  unfold predicate
  rw [bind_ok_iff, asks]
  refine exists_congr fun value => and_congr_right fun _ => ?_
  obtain ⟨projection, condition⟩ := p
  cases built : Condition.ofTyped t.mode value with
  | error fault => exact ⟨nofun, fun h => nomatch h.1⟩
  | ok c? =>
    cases c? with
    | none => exact ⟨nofun, fun h => nomatch h.1⟩
    | some c =>
      constructor
      · intro h
        cases h
        exact ⟨rfl, rfl⟩
      · rintro ⟨h, rfl⟩
        cases h
        rfl

/-- A compiled range is a range of the data type, whose condition is made of it. -/
theorem range_of_predicate (ranged : t.mode.takesRange = true) (compiled : t.predicate = .ok p) :
    ∃ value, t.typed = .ok value ∧ t.dataType.typedRange t.value = .ok value ∧
      Condition.ofTyped t.mode value = .ok (some p.condition) ∧
      p.projection = t.dataType.projection := by
  have asks := Mode.asksEmptiness_of_takesRange ranged
  obtain ⟨value, typed, built, projection⟩ := (predicate_ok_iff asks).mp compiled
  have read := ((typed_ok_iff asks).mp typed).2
  rw [if_pos ranged] at read
  exact ⟨value, typed, read, built, projection⟩

theorem predicate_of_typed {c : Condition} (typed : t.typed = .ok value) (there : value ≠ .absent)
    (built : Condition.ofTyped t.mode value = .ok (some c)) :
    t.predicate = .ok ⟨t.dataType.projection, c⟩ :=
  (predicate_ok_iff (asks_of_typed typed there)).mpr ⟨value, typed, built, rfl⟩

/-- A term in another mode. -/
def inMode (t : Term) (mode : Mode) : Term := { t with mode := mode }

/-- What a term is compared with does not depend on the mode, but for ranges. -/
theorem typed_inMode {a b : Mode} {x y : TypedValue} (asks : a.asksEmptiness = false)
    (asks' : b.asksEmptiness = false) (range : a.takesRange = b.takesRange)
    (first : (t.inMode a).typed = .ok x) (second : (t.inMode b).typed = .ok y) : x = y := by
  have hx := ((typed_ok_iff (t := t.inMode a) asks).mp first).2
  have hy := ((typed_ok_iff (t := t.inMode b) asks').mp second).2
  change (if a.takesRange then t.dataType.typedRange t.value
    else t.dataType.typedScalar t.value) = .ok x at hx
  change (if b.takesRange then t.dataType.typedRange t.value
    else t.dataType.typedScalar t.value) = .ok y at hy
  rw [range] at hx
  exact Except.ok.inj (hx.symm.trans hy)

end Term

end FieldQuery

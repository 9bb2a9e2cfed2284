import FieldQuery.Record.Judgement

/-!
# Judging by comparison

What a condition makes of a value follows from how the value stands to the operands; a value that
cannot be taken for their type is a fault whatever is asked. Main statements:
`Condition.meets_between_of`, `Condition.meets_outside_of` and `Predicate.judge_present`.
-/
namespace FieldQuery

namespace Comparison

variable (o : Ordering)

theorem holds_gte : gte.holds o = o.isGE := by cases o <;> rfl

theorem holds_lt : lt.holds o = !o.isGE := by cases o <;> rfl

theorem holds_lte : lte.holds o = o.isLE := by cases o <;> rfl

theorem holds_gt : gt.holds o = !o.isLE := by cases o <;> rfl

end Comparison

namespace Condition

/-- Whether a condition asks if there is something, and not how it compares. -/
def asksEmptiness : Condition → Bool
  | empty .. => true
  | _ => false

variable {v : FieldValue} {o low high : Operand} {foldCase : Bool} {a b : Ordering}
  {fault : QueryFault}

theorem meets_compare_of (h : v.compare foldCase o = .ok (some a)) (op : Comparison) :
    (compare op o foldCase).meets v = .ok (op.holds a) := by
  rw [meets, h]
  rfl

theorem meets_compare_error (h : v.compare foldCase o = .error fault) (op : Comparison) :
    (compare op o foldCase).meets v = .error fault := by
  rw [meets, h]
  rfl

/-- A value lies between bounds if it is not before the one and not after the other. -/
theorem meets_between_of (first : v.compare foldCase low = .ok (some a))
    (second : v.compare foldCase high = .ok (some b)) :
    (between low high foldCase).meets v = .ok (a.isGE && b.isLE) := by
  rw [meets, first, second]
  cases a <;> cases b <;> rfl

theorem meets_outside_of (first : v.compare foldCase low = .ok (some a))
    (second : v.compare foldCase high = .ok (some b)) :
    (outside low high foldCase).meets v = .ok !(a.isGE && b.isLE) := by
  rw [meets, first, second]
  cases a <;> cases b <;> rfl

/-- A range mode asks whether a value lies between the bounds, or does not. -/
theorem meets_ofRange (first : v.compare foldCase low = .ok (some a))
    (second : v.compare foldCase high = .ok (some b)) {mode : Mode}
    (range : mode.takesRange = true) : ∃ c, ofRange mode low high foldCase = some c ∧
      c.meets v = .ok ((a.isGE && b.isLE) != (mode == .outside)) := by
  cases mode with
  | range | inside =>
    exact ⟨_, rfl, (meets_between_of first second).trans (congrArg _ (Bool.bne_false _).symm)⟩
  | outside =>
    exact ⟨_, rfl, (meets_outside_of first second).trans (congrArg _ (Bool.bne_true _).symm)⟩
  | _ => cases range

/-- Either bound may be the one that a value cannot be compared with. -/
theorem meets_range_error (h : v.compare foldCase low = .error fault ∨
    (∃ known, v.compare foldCase low = .ok known) ∧ v.compare foldCase high = .error fault) :
    (between low high foldCase).meets v = .error fault ∧
      (outside low high foldCase).meets v = .error fault := by
  rw [meets, meets]
  rcases h with first | ⟨⟨known, first⟩, second⟩
  · rw [first]
    exact ⟨rfl, rfl⟩
  · rw [first, second]
    exact ⟨rfl, rfl⟩

end Condition

namespace FieldValue

variable {v : FieldValue} {m : Moment}

theorem compare_instant (seen : v.asInstant = .ok m) (foldCase : Bool) (n : Moment) :
    v.compare foldCase (.instant n) = .ok (some (m.compare n)) := by
  rw [compare, seen]
  rfl

theorem compare_instant_error {fault : QueryFault} (unseen : v.asInstant = .error fault)
    (foldCase : Bool) (n : Moment) : v.compare foldCase (.instant n) = .error fault := by
  rw [compare, unseen]
  rfl

theorem present_of_asInstant (seen : v.asInstant = .ok m) : v ≠ .null := by
  rintro rfl
  cases seen

end FieldValue

namespace Predicate

variable {v : FieldValue}

/-- A value that is there is judged as its projection is seen. -/
theorem judge_present (p : Predicate) (there : v ≠ .null)
    (asks : p.condition.asksEmptiness = false) :
    p.judge v = (p.projection.apply v).bind p.condition.meets := by
  obtain ⟨projection, condition⟩ := p
  cases condition with
  | empty negated blankText => cases asks
  | compare | between | outside | like => exact if_neg there

theorem judge_value (there : v ≠ .null) (c : Condition) :
    Predicate.judge ⟨.value, c⟩ v = c.meets v := by
  cases c with
  | empty => rfl
  | compare | between | outside | like => exact if_neg there

/-- Null meets nothing but the question whether it is empty. -/
theorem judge_null (p : Predicate) :
    p.judge .null = .ok (p.condition matches .empty false _) := by
  obtain ⟨projection, condition⟩ := p
  cases condition with
  | empty negated => cases negated <;> rfl
  | compare | between | outside | like => rfl

end Predicate

end FieldQuery

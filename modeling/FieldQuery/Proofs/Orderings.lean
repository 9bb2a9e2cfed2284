import FieldQuery.Proofs.Formulas
import FieldQuery.Statement.Ordering

/-!
# Terms of an order as items

What a term of an order writes is read as an item that orders rows by the same value, in the same
direction. Main statement: `OrderTerm.read_text`.
-/
namespace FieldQuery

open Statement Fragment

variable {d : Dialect}

def OrderTerm.item (t : OrderTerm) : SortItem where
  subject :=
    match t.key with
    | .isNull c => .formula (.isNull (.column c) false)
    | .folded c => .scalar (.lower (.column c))
    | .plain c => .scalar (.column c)
  direction := t.direction

theorem OrderTerm.value_item (r : SqlRules) (row : TableRow) (t : OrderTerm) :
    t.item.subject.value r row = t.value r row := by
  obtain ⟨key, direction⟩ := t
  cases key with
  | isNull c =>
    by_cases null : row c = .null <;>
      simp [item, SortSubject.value, Formula.truth, Scalar.value, value, null]
  | folded | plain => rfl

namespace Statement

def directionWord (direction : Direction) : Lexeme := .word direction.keyword.toList

theorem sortDirection_word (direction : Direction) :
    sortDirection [directionWord direction] = some direction := by
  cases direction <;> rfl

/-- Lexemes that are read as what to order by, where a direction follows. -/
def SubjectAt (d : Dialect) (s : SortSubject) (params : List SqlValue) (ls : List Lexeme) : Prop :=
  ∀ direction, sortSubject d params (ls ++ [directionWord direction]) =
    some (s, [directionWord direction])

variable {params : List SqlValue} {a : Scalar} {p : Formula} {ls : List Lexeme}

/-- No test begins with something to compare that a direction follows. -/
theorem ScalarAt.subject (h : ScalarAt d a params ls) : SubjectAt d (.scalar a) params ls := by
  intro direction
  have noTest : Statement.test d params (ls ++ [directionWord direction]) = none := by
    rw [h.test]
    cases direction <;> rfl
  have noPart (inner) : Statement.part d params inner (ls ++ [directionWord direction]) = none := by
    unfold Statement.part
    rw [noTest]
    cases ls with
    | nil =>
      have nothing := h 0 [] (Nat.le_refl 0)
      cases nothing
    | cons l ls =>
      have other : l ≠ .sign '(' := fun eq => h.head_ne_sign '(' ls (eq ▸ rfl)
      simp [other]
  rw [sortSubject, noPart, h.operand]
  rfl

theorem subject_of_parts (h : ∀ depth, PartAt d params (depth + 1) p ls) :
    SubjectAt d (.formula p) params ls := by
  intro direction
  have length : (ls ++ [directionWord direction]).length = ls.length + 1 := List.length_append
  rw [sortSubject, length, (h ls.length).2]
  rfl

end Statement

namespace OrderKey

theorem gives (k : OrderKey) (direction : Direction) :
    Gives d (SubjectAt d (OrderTerm.item ⟨k, direction⟩).subject) [.text k.text] := by
  cases k with
  | isNull c =>
    have test := gives_isNull false (gives_qualified (d := d) c)
    have enclosed := gives_enclosed (p := .isNull (.column c) false) test
      fun _ _ h depth rest stops => (h.part depth).alone stops
    refine (enclosed.mono fun _ _ => subject_of_parts).of_write (fun n => ?_) rfl
    simp [write, text, toString, String.append_assoc]
  | folded c =>
    have call := gives_call_qualified (d := d) "LOWER(" ")" c (a := [word "LOWER", .sign '('])
      (b := [.sign ')']) (x := .lower (.column c)) rfl (by decide) rfl (by decide) (by decide)
      fun _ _ h => h.call (by decide) rfl
    exact call.mono fun _ _ => ScalarAt.subject
  | plain c => exact (gives_qualified c).mono fun _ _ => ScalarAt.subject

end OrderKey

/-- What a term of an order writes is read as its item, whatever values are bound before and after
it. -/
theorem OrderTerm.read_text (t : OrderTerm) (before after : List SqlValue) :
    SortItem.read d before.length (before ++ after) t.text = some t.item := by
  obtain ⟨key, direction⟩ := t
  have read : lexemes (" " ++ direction.keyword).toList = some [directionWord direction] := by
    cases direction <;> rfl
  have fresh : Fresh (" " ++ direction.keyword) := by
    cases direction <;> decide
  have plain : .sign '?' ∉ [directionWord direction] := by
    cases direction <;> decide
  have whole : Gives d (fun params ls => ∃ m, ls = m ++ [directionWord direction] ∧
      SubjectAt d (OrderTerm.item ⟨key, direction⟩).subject params m)
      ([.text key.text] ++ [.text (" " ++ direction.keyword)]) :=
    (key.gives direction).before read fresh plain fun _ m h => ⟨m, rfl, h⟩
  obtain ⟨ls, _, read, same, m, rfl, subject⟩ := whole before after
  have numbers : numbered d before.length ls = m ++ [directionWord direction] := by
    have all := same []
    rwa [List.append_nil, numbered, List.append_nil] at all
  have written : Fragment.write d before.length
      ([.text key.text] ++ [.text (" " ++ direction.keyword)]) =
      OrderTerm.text ⟨key, direction⟩ := by
    simp [write, OrderTerm.text, toString, String.append_assoc]
  rw [written] at read
  have params : before ++ Fragment.values
      ([.text key.text] ++ [.text (" " ++ direction.keyword)]) ++ after = before ++ after :=
    congrArg (· ++ after) (List.append_nil before)
  rw [params] at subject
  rw [SortItem.read, read, Option.bind_eq_bind, Option.bind_some, numbers, subject direction]
  change (sortDirection [directionWord direction]).bind _ = _
  rw [sortDirection_word]
  rfl

theorem OrderTerm.read_texts (terms : List OrderTerm) (before after : List SqlValue) :
    (terms.map (·.text)).mapM (SortItem.read d before.length (before ++ after)) =
      some (terms.map (·.item)) := by
  induction terms with
  | nil => rfl
  | cons t rest ih =>
    rw [List.map_cons, List.mapM_cons, t.read_text, ih]
    rfl

end FieldQuery

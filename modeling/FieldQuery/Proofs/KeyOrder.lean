import FieldQuery.Proofs.CalendarOrder
import FieldQuery.Record.Order

/-!
# The order of sort keys

Keys of one kind follow their own order and keys of different kinds the order of their texts. Where
the two orders agree, as they do for texts, truth values, times of day, and days and instants of the
years 0 to 9999, the order of keys is a total preorder; where they do not, as with 2 and 10, a text
between the two closes a circle. Main statements: `order_of_keys` and
`SortKey.compare_display_of_transitive`.
-/
namespace FieldQuery

instance Number.transCmp : Std.TransCmp Number.totalCompare :=
  inferInstanceAs (Std.TransCmp (compareOn Number.totalRank))

/-- The ranks by which numbers are sorted tell them all apart. -/
instance Number.lawfulEqCmp : Std.LawfulEqCmp Number.totalCompare where
  eq_of_compare {x y} tie := by
    have same : x.totalRank = y.totalRank := Std.LawfulEqCmp.eq_of_compare tie
    obtain ⟨negative, code⟩ := x
    obtain ⟨negative', code'⟩ := y
    unfold totalRank at same
    cases negative with
    | true =>
      cases negative' with
      | true =>
        simp only [if_true] at same
        rw [show code = code' by omega]
      | false =>
        simp only [if_true, Bool.false_eq_true, if_false] at same
        omega
    | false =>
      cases negative' with
      | true =>
        simp only [if_true, Bool.false_eq_true, if_false] at same
        omega
      | false =>
        simp only [Bool.false_eq_true, if_false] at same
        rw [show code = code' by omega]

namespace SortKey

def Alike (a b : SortKey) : Prop := a.ctorIdx = b.ctorIdx

instance (a b : SortKey) : Decidable (a.Alike b) := inferInstanceAs (Decidable (_ = _))

variable {a b c : SortKey}

theorem compare_of_unlike (ha : a ≠ absent) (hb : b ≠ absent) (unlike : ¬ a.Alike b) :
    a.compare b = Ord.compare a.display b.display := by
  cases a <;> cases b <;> first
    | exact absurd rfl ha
    | exact absurd rfl hb
    | exact absurd rfl unlike
    | rfl

/-- The keys of one kind, with the order they follow. -/
structure Family where
  Value : Type
  order : Value → Value → Ordering
  trans : Std.TransCmp order
  key : Value → SortKey
  compare_key : ∀ x y, (key x).compare (key y) = order x y

theorem transCmp_unit : Std.TransCmp (PUnit.instLinearOrder.compare : Unit → Unit → Ordering) :=
  inferInstance

def family : SortKey → Family
  | absent => ⟨Unit, PUnit.instLinearOrder.compare, transCmp_unit, fun _ => absent, fun _ _ => rfl⟩
  | number _ => ⟨Number, Number.totalCompare, Number.transCmp, number, fun _ _ => rfl⟩
  | text _ => ⟨String, Ord.compare, inferInstance, text, fun _ _ => rfl⟩
  | bool _ => ⟨Bool, Ord.compare, inferInstance, bool, fun _ _ => rfl⟩
  | instant _ => ⟨Moment, Moment.compare, Moment.transCmp, instant, fun _ _ => rfl⟩
  | date _ => ⟨Day, Day.compare, Day.transCmp, date, fun _ _ => rfl⟩
  | clock _ => ⟨Clock, Clock.compare, Clock.transCmp, clock, fun _ _ => rfl⟩

theorem Alike.mem (alike : a.Alike b) : ∃ y, b = a.family.key y := by
  cases a <;> cases b <;> first
    | exact ⟨(), rfl⟩
    | exact ⟨_, rfl⟩
    | cases alike

/-- A key ties with itself. -/
theorem compare_self (a : SortKey) : a.compare a = .eq := by
  have := a.family.trans
  obtain ⟨x, hx⟩ := Alike.mem (rfl : a.Alike a)
  rw [hx, a.family.compare_key]
  exact Std.ReflCmp.compare_self

/-- The order of two keys is the opposite of their order the other way round. -/
theorem compare_swap (a b : SortKey) : b.compare a = (a.compare b).swap := by
  by_cases alike : a.Alike b
  · have := a.family.trans
    obtain ⟨x, hx⟩ := Alike.mem (rfl : a.Alike a)
    obtain ⟨y, hy⟩ := alike.mem
    rw [hx, hy, a.family.compare_key, a.family.compare_key]
    exact Std.OrientedCmp.eq_swap
  · by_cases ha : a = absent
    · subst ha
      cases b <;> rfl
    by_cases hb : b = absent
    · subst hb
      cases a <;> rfl
    rw [compare_of_unlike ha hb alike, compare_of_unlike hb ha fun h => alike h.symm]
    exact Std.OrientedCmp.eq_swap

theorem isLE_trans_of_alike (ab : a.Alike b) (bc : b.Alike c) (le : (a.compare b).isLE)
    (le' : (b.compare c).isLE) : (a.compare c).isLE := by
  have := a.family.trans
  obtain ⟨x, hx⟩ := Alike.mem (rfl : a.Alike a)
  obtain ⟨y, hy⟩ := ab.mem
  obtain ⟨z, hz⟩ := Alike.mem (ab.trans bc : a.Alike c)
  rw [hx, hy, a.family.compare_key] at le
  rw [hy, hz, a.family.compare_key] at le'
  rw [hx, hz, a.family.compare_key]
  exact Std.TransCmp.isLE_trans le le'

/-- Keys of one kind tie only if they are the same. -/
theorem eq_of_compare (alike : a.Alike b) (tie : a.compare b = .eq) : a = b := by
  cases a <;> cases b <;> try cases alike
  case absent.absent => rfl
  case number.number x y =>
    have same : x.totalCompare y = .eq := tie
    exact congrArg number (Std.LawfulEqCmp.eq_of_compare same)
  case text.text s t =>
    have same : Ord.compare s t = .eq := tie
    exact congrArg text (Std.LawfulEqCmp.eq_of_compare same)
  case bool.bool p q =>
    have same : Ord.compare p q = .eq := tie
    exact congrArg bool (Std.LawfulEqCmp.eq_of_compare same)
  case instant.instant m n =>
    have same : m.compare n = .eq := tie
    exact congrArg instant (Std.LawfulEqCmp.eq_of_compare same)
  case date.date d e =>
    have same : d.compare e = .eq := tie
    exact congrArg date (Std.LawfulEqCmp.eq_of_compare same)
  case clock.clock t u =>
    have same : t.compare u = .eq := tie
    exact congrArg clock (Std.LawfulEqCmp.eq_of_compare same)

/-- Two keys of one kind that their texts put otherwise than their kind does, with a key of another
kind. -/
structure Clash (a b c : SortKey) : Prop where
  alike : a.Alike b
  differ : a.compare b ≠ Ord.compare a.display b.display
  present : c ≠ absent
  unlike : ¬ c.Alike a

theorem Clash.symm (clash : Clash a b c) : Clash b a c where
  alike := clash.alike.symm
  differ same := by
    refine clash.differ ?_
    rw [compare_swap b a, same]
    exact Std.OrientedCmp.eq_swap.symm
  present := clash.present
  unlike h := clash.unlike (h.trans clash.alike.symm)

structure Orderly (a b c : SortKey) : Prop where
  last : ¬ Clash a b c
  first : ¬ Clash b c a
  middle : ¬ Clash c a b

theorem Orderly.rotate (orderly : Orderly a b c) : Orderly b c a :=
  ⟨orderly.first, orderly.middle, orderly.last⟩

theorem Orderly.reverse (orderly : Orderly a b c) : Orderly c b a :=
  ⟨fun h => orderly.first h.symm, fun h => orderly.last h.symm, fun h => orderly.middle h.symm⟩

/-- Of keys that are not all of one kind all compare as texts, if they are orderly. -/
theorem compare_of_not_clash (ha : a ≠ absent) (hb : b ≠ absent) (hc : c ≠ absent)
    (orderly : ¬ Clash a b c) (mixed : ¬ (a.Alike b ∧ c.Alike a)) :
    a.compare b = Ord.compare a.display b.display := by
  by_cases alike : a.Alike b
  · by_contra differ
    exact orderly ⟨alike, differ, hc, fun h => mixed ⟨alike, h⟩⟩
  · exact compare_of_unlike ha hb alike

theorem isLE_absent (a : SortKey) : (a.compare absent).isLE := by
  cases a <;> rfl

theorem eq_absent_of_isLE (le : (absent.compare a).isLE) : a = absent := by
  cases a <;> first | rfl | cases le

theorem Orderly.isLE_trans (orderly : Orderly a b c) (le : (a.compare b).isLE)
    (le' : (b.compare c).isLE) : (a.compare c).isLE := by
  by_cases hc : c = absent
  · rw [hc]
    exact a.isLE_absent
  have hb : b ≠ absent := fun h => hc (eq_absent_of_isLE (h ▸ le'))
  have ha : a ≠ absent := fun h => hb (eq_absent_of_isLE (h ▸ le))
  by_cases same : a.Alike b ∧ b.Alike c
  · exact isLE_trans_of_alike same.1 same.2 le le'
  · -- not all of one kind, so that their texts decide throughout
    have ab := compare_of_not_clash ha hb hc orderly.last fun h => same ⟨h.1, (h.2.trans h.1).symm⟩
    have bc := compare_of_not_clash hb hc ha orderly.first fun h => same ⟨h.2, h.1⟩
    have ca := compare_of_not_clash hc ha hb orderly.middle fun h =>
      same ⟨(h.2.trans h.1).symm, h.2⟩
    rw [compare_swap c a, ca]
    rw [ab] at le
    rw [bc] at le'
    rw [← Std.OrientedOrd.eq_swap]
    exact Std.TransCmp.isLE_trans le le'

/-- Keys that are put by their kind as by their texts. -/
def Regular : SortKey → Prop
  | absent | text _ | bool _ => True
  | number _ => False
  | instant m => m.Plain
  | date d => d.Plain
  | clock t => t.Proper

instance : Decidable a.Regular :=
  match a with
  | absent | text _ | bool _ => inferInstanceAs (Decidable True)
  | number _ => inferInstanceAs (Decidable False)
  | instant m => inferInstanceAs (Decidable m.Plain)
  | date d => inferInstanceAs (Decidable d.Plain)
  | clock t => inferInstanceAs (Decidable t.Proper)

theorem compare_display (alike : a.Alike b) (ha : a.Regular) (hb : b.Regular) :
    a.compare b = Ord.compare a.display b.display := by
  have written (s t : List Char) :
      Ord.compare (String.ofList s) (String.ofList t) = Ord.compare s t := by
    rw [compare_strings, String.toList_ofList, String.toList_ofList]
  cases a <;> cases b <;> try cases alike
  case absent.absent => exact Std.ReflOrd.compare_self.symm
  case number.number => cases ha
  case text.text => rfl
  case bool.bool p q => cases p <;> cases q <;> decide
  case instant.instant m n => exact ((written ..).trans (Moment.compare_text ha hb)).symm
  case date.date d e => exact ((written ..).trans (Day.compare_text ha hb)).symm
  case clock.clock t u => exact ((written ..).trans (Clock.compare_text ha hb)).symm

theorem not_clash_of_regular (ha : a.Regular) (hb : b.Regular) : ¬ Clash a b c :=
  fun clash => clash.differ (compare_display clash.alike ha hb)

theorem Orderly.of_regular (ha : a.Regular) (hb : b.Regular) (hc : c.Regular) : Orderly a b c :=
  ⟨not_clash_of_regular ha hb, not_clash_of_regular hb hc, not_clash_of_regular hc ha⟩

/-- Keys that are of one kind unless they are absent. -/
theorem Orderly.of_alike (ab : a ≠ absent → b ≠ absent → a.Alike b)
    (bc : b ≠ absent → c ≠ absent → b.Alike c) (ca : c ≠ absent → a ≠ absent → c.Alike a) :
    Orderly a b c := by
  have agree {x y z : SortKey} (zx : z ≠ absent → x ≠ absent → z.Alike x) : ¬ Clash x y z := by
    intro clash
    by_cases none : x = absent
    · subst none
      obtain ⟨u, rfl⟩ := clash.alike.mem
      exact clash.differ (compare_display rfl trivial trivial)
    · exact clash.unlike (zx clash.present none)
  exact ⟨agree ca, agree ab, agree bc⟩

theorem eq_of_isLE_iff {o o' : Ordering} (le : o.isLE ↔ o'.isLE) (ge : o.isGE ↔ o'.isGE) :
    o = o' := by
  cases o <;> cases o' <;> simp at le ge ⊢

/-- If two keys of one kind can be put in order with every text, then their kind puts them as their
texts do. -/
theorem compare_display_of_transitive (alike : a.Alike b) (present : a ≠ absent)
    (transitive : ∀ t : String, ∀ x ∈ [a, b, text t], ∀ y ∈ [a, b, text t], ∀ z ∈ [a, b, text t],
      (x.compare y).isLE → (y.compare z).isLE → (x.compare z).isLE) :
    a.compare b = Ord.compare a.display b.display := by
  by_cases texts : a.Alike (text "")
  · obtain ⟨s, rfl⟩ : ∃ s, a = text s := Alike.mem texts.symm
    obtain ⟨s', rfl⟩ : ∃ s', b = text s' := Alike.mem alike
    rfl
  -- the text of the first key ties with it, and so stands to the second as it does
  obtain ⟨t, ht⟩ : ∃ t, t = text a.display := ⟨_, rfl⟩
  have other : b ≠ absent := by
    rintro rfl
    obtain ⟨y, ha⟩ := Alike.mem alike.symm
    exact present ha
  have tie : a.compare t = .eq := by
    rw [ht, compare_of_unlike (b := text a.display) present nofun texts]
    exact Std.ReflCmp.compare_self
  have tie' : t.compare a = .eq := by rw [compare_swap, tie]; rfl
  have known : t.compare b = Ord.compare a.display b.display := by
    rw [ht, compare_of_unlike (a := text a.display) nofun other fun h => texts (alike.trans h.symm)]
    rfl
  have ties {x y : SortKey} (h : x.compare y = .eq) : (x.compare y).isLE := by rw [h]; rfl
  have trans := transitive a.display
  rw [← ht] at trans
  have mem_a : a ∈ [a, b, t] := .head _
  have mem_b : b ∈ [a, b, t] := .tail _ (.head _)
  have mem_t : t ∈ [a, b, t] := .tail _ (.tail _ (.head _))
  have below : (a.compare b).isLE ↔ (t.compare b).isLE :=
    ⟨trans t mem_t a mem_a b mem_b (ties tie'), trans a mem_a t mem_t b mem_b (ties tie)⟩
  have above : (b.compare a).isLE ↔ (b.compare t).isLE :=
    ⟨fun h => trans b mem_b a mem_a t mem_t h (ties tie),
      fun h => trans b mem_b t mem_t a mem_a h (ties tie')⟩
  rw [compare_swap a b, compare_swap t b, Ordering.isLE_swap, Ordering.isLE_swap] at above
  rw [← known]
  exact eq_of_isLE_iff below above

def directed (d : Direction) (a b : SortKey) : Ordering := d.apply (a.compare b)

variable (d : Direction)

theorem directed_self (a : SortKey) : directed d a a = .eq := by
  unfold directed
  rw [compare_self]
  cases d <;> rfl

theorem directed_swap (a b : SortKey) : directed d b a = (directed d a b).swap := by
  unfold directed
  rw [compare_swap a b]
  cases d <;> rfl

theorem Orderly.directed_trans (orderly : Orderly a b c) (le : (directed d a b).isLE)
    (le' : (directed d b c).isLE) : (directed d a c).isLE := by
  cases d with
  | asc => exact orderly.isLE_trans le le'
  | desc =>
    unfold directed Direction.apply at *
    rw [← compare_swap] at *
    exact orderly.reverse.isLE_trans le' le

/-- If the first of three keys ties with the last, then so does the one between them. -/
theorem Orderly.directed_tie (orderly : Orderly a b c) (le : (directed d a b).isLE)
    (le' : (directed d b c).isLE) (tie : directed d a c = .eq) :
    directed d a b = .eq ∧ directed d b c = .eq := by
  have back : (directed d c a).isLE := by
    rw [directed_swap, tie]
    rfl
  have first := orderly.rotate.directed_trans d le' back
  have last := orderly.rotate.rotate.directed_trans d back le
  rw [directed_swap, Ordering.isLE_swap] at first last
  exact ⟨Ordering.eq_eq_of_isLE_of_isGE le first, Ordering.eq_eq_of_isLE_of_isGE le' last⟩

end SortKey

namespace SortPlan

variable {R : Type}

/-- In each of the fields three records have orderly keys. -/
def Orderly (p : SortPlan R) (r s t : R) : Prop := ∀ k ∈ p.keys,
  SortKey.Orderly (.ofValue (k.1.get r)) (.ofValue (k.1.get s)) (.ofValue (k.1.get t))

theorem compare_cons (f : FieldDescriptor R) (d : Direction)
    (rest : List (FieldDescriptor R × Direction)) (r s : R) : compare ⟨(f, d) :: rest⟩ r s =
      (SortKey.directed d (.ofValue (f.get r)) (.ofValue (f.get s))).then (compare ⟨rest⟩ r s) := by
  rw [SortKey.directed, compare, row, row, directions, List.map_cons, List.map_cons, List.map_cons,
    compareRows]
  cases d.apply ((SortKey.ofValue (f.get r)).compare (.ofValue (f.get s))) <;> rfl

theorem compare_self (p : SortPlan R) (r : R) : p.compare r r = .eq := by
  obtain ⟨keys⟩ := p
  induction keys with
  | nil => rfl
  | cons k rest ih => rw [compare_cons, SortKey.directed_self, ih]; rfl

theorem compare_swap (p : SortPlan R) (r s : R) : p.compare s r = (p.compare r s).swap := by
  obtain ⟨keys⟩ := p
  induction keys with
  | nil => rfl
  | cons k rest ih => rw [compare_cons, compare_cons, SortKey.directed_swap, ih, Ordering.swap_then]

theorem Orderly.isLE_trans {p : SortPlan R} {r s t : R} (orderly : p.Orderly r s t)
    (le : (p.compare r s).isLE) (le' : (p.compare s t).isLE) : (p.compare r t).isLE := by
  obtain ⟨keys⟩ := p
  induction keys with
  | nil => rfl
  | cons k rest ih =>
    obtain ⟨here, later⟩ := List.forall_mem_cons.mp orderly
    rw [compare_cons, Ordering.isLE_then_iff_and] at *
    obtain ⟨le, further⟩ := le
    obtain ⟨le', further'⟩ := le'
    have whole := here.directed_trans k.2 le le'
    refine ⟨whole, ?_⟩
    by_cases tie : SortKey.directed k.2 (.ofValue (k.1.get r)) (.ofValue (k.1.get t)) = .eq
    · obtain ⟨first, last⟩ := here.directed_tie k.2 le le' tie
      rw [first] at further
      rw [last] at further'
      exact .inr (ih later (further.resolve_left nofun) (further'.resolve_left nofun))
    · exact .inl ((Ordering.isLE_iff_eq_lt_or_eq_eq.mp whole).resolve_right tie)

end SortPlan

/-- Keys and rows of keys are in order but for the circles that two orders can close: of three keys
two may be put otherwise by their kind than by their texts, with the third of another kind. -/
theorem order_of_keys :
    (∀ a : SortKey, a.compare a = .eq) ∧
    (∀ a b : SortKey, b.compare a = (a.compare b).swap) ∧
    (∀ a b c : SortKey, SortKey.Orderly a b c → (a.compare b).isLE → (b.compare c).isLE →
      (a.compare c).isLE) ∧
    (∀ a b : SortKey, a.Alike b → a.Regular → b.Regular →
      a.compare b = Ord.compare a.display b.display) ∧
    ∀ (R : Type) (p : SortPlan R), (∀ r, p.compare r r = .eq) ∧
      (∀ r s, p.compare s r = (p.compare r s).swap) ∧
      ∀ r s t, p.Orderly r s t → (p.compare r s).isLE → (p.compare s t).isLE →
        (p.compare r t).isLE :=
  ⟨SortKey.compare_self, SortKey.compare_swap, fun _ _ _ => SortKey.Orderly.isLE_trans,
    fun _ _ => SortKey.compare_display,
    fun _ p => ⟨p.compare_self, p.compare_swap, fun _ _ _ => SortPlan.Orderly.isLE_trans⟩⟩

/-- The last day of 1999, a text that begins with it and the first day of 2000; and the same three
as records, the latest first. -/
theorem order_of_keys_turn_of_century :
    ((SortKey.date ⟨10956⟩).compare (.date ⟨10957⟩)).isLE ∧
      (SortKey.date ⟨10956⟩).compare (.date ⟨10957⟩) = Ord.compare "1999-12-31" "2000-01-01" ∧
      (SortPlan.compare ⟨[(⟨[0], .date, false, id⟩, .desc)]⟩
        (FieldValue.date ⟨10957⟩) (.date ⟨10956⟩)).isLE := by
  have orderly : SortKey.Orderly (.date ⟨10956⟩) (.text "1999-12-31, late") (.date ⟨10957⟩) :=
    .of_regular (by decide) trivial (by decide)
  refine ⟨order_of_keys.2.2.1 _ _ _ orderly (by decide) (by decide),
    order_of_keys.2.2.2.1 _ _ rfl (by decide) (by decide), ?_⟩
  refine (order_of_keys.2.2.2.2 FieldValue _).2.2 _ (.text "1999-12-31, late") _ ?_ (by decide)
    (by decide)
  intro k mem
  cases List.mem_singleton.mp mem
  exact orderly.reverse

/-- 2 comes before 10 and 10 before a text, but the text before 2. -/
theorem keys_in_a_circle :
    ((SortKey.number (.ofInt 2)).compare (.number (.ofInt 10))).isLE ∧
      ((SortKey.number (.ofInt 10)).compare (.text "1z")).isLE ∧
      ¬ ((SortKey.number (.ofInt 2)).compare (.text "1z")).isLE := by
  decide

end FieldQuery

import FieldQuery.Proofs.KeyOrder
import FieldQuery.Record.Engine
import Mathlib.Data.List.Pairwise

/-!
# The stable order

Sorting puts a list in the order of a comparison, and what ties stays in the order it had. The
engine sorts positions by rows of keys; what it answers are the records sorted by their keys. Main
statements: `stableSort_pairwise` and `Engine.arrange_eq`.
-/
namespace FieldQuery

variable {α β : Type} {cmp : α → α → Ordering} {earlier : α → α → Prop}

/-- One item comes before another by the comparison, or ties with it and was earlier. -/
def Precedes (cmp : α → α → Ordering) (earlier : α → α → Prop) (a b : α) : Prop :=
  cmp a b = .lt ∨ cmp a b = .eq ∧ earlier a b

/-- A comparison that puts some items in order. -/
structure Orders (cmp : α → α → Ordering) (items : List α) : Prop where
  swap : ∀ a b, cmp b a = (cmp a b).swap
  trans : ∀ a ∈ items, ∀ b ∈ items, ∀ c ∈ items, (cmp a b).isLE → (cmp b c).isLE → (cmp a c).isLE

theorem Precedes.isLE {a b : α} (h : Precedes cmp earlier a b) : (cmp a b).isLE := by
  rcases h with less | ⟨tie, -⟩
  · rw [less]
    rfl
  · rw [tie]
    rfl

/-- What is not after an item and was earlier precedes it. -/
theorem Precedes.of_isLE {a b : α} (le : (cmp a b).isLE) (before : earlier a b) :
    Precedes cmp earlier a b := by
  rcases Ordering.isLE_iff_eq_lt_or_eq_eq.mp le with less | tie
  · exact .inl less
  · exact .inr ⟨tie, before⟩

/-- A later item is put behind all that it does not come before. -/
theorem insertDescending_pairwise {items l : List α} {a : α} (orders : Orders cmp items)
    (mem : a ∈ items) (sub : ∀ b ∈ l, b ∈ items)
    (descending : l.Pairwise fun b c => Precedes cmp earlier c b)
    (later : ∀ b ∈ l, earlier b a) :
    (insertDescending cmp a l).Pairwise fun b c => Precedes cmp earlier c b := by
  induction l with
  | nil => exact List.pairwise_singleton _ _
  | cons b rest ih =>
    obtain ⟨first, others⟩ := List.pairwise_cons.mp descending
    obtain ⟨hb, hrest⟩ := List.forall_mem_cons.mp sub
    obtain ⟨before, hlater⟩ := List.forall_mem_cons.mp later
    rw [insertDescending]
    split
    · rename_i less
      refine List.pairwise_cons.mpr ⟨fun c hc => ?_, ih hrest others hlater⟩
      rcases List.mem_cons.mp ((insertDescending_perm cmp a rest).mem_iff.mp hc) with rfl | hc
      · exact .inl (beq_iff_eq.mp less)
      · exact first c hc
    · rename_i notLess
      have le : (cmp b a).isLE := by
        rw [orders.swap a b, Ordering.isLE_swap]
        cases order : cmp a b with
        | lt => exact absurd (beq_iff_eq.mpr order) notLess
        | eq | gt => rfl
      refine List.pairwise_cons.mpr ⟨fun c hc => ?_, descending⟩
      refine .of_isLE ?_ (later c hc)
      rcases List.mem_cons.mp hc with rfl | hc
      · exact le
      · exact orders.trans c (hrest c hc) b hb a mem (first c hc).isLE le

/-- Sorting puts the items in order, and those that tie stay in the order they had. -/
theorem stableSort_pairwise {items : List α} (orders : Orders cmp items)
    (given : items.Pairwise earlier) : (stableSort cmp items).Pairwise (Precedes cmp earlier) := by
  have key (l done : List α) (sub : ∀ a ∈ l ++ done, a ∈ items) (order : l.Pairwise earlier)
      (later : ∀ a ∈ l, ∀ b ∈ done, earlier b a)
      (descending : done.Pairwise fun b c => Precedes cmp earlier c b) :
      (l.foldl (fun done a => insertDescending cmp a done) done).Pairwise
        fun b c => Precedes cmp earlier c b := by
    induction l generalizing done with
    | nil => exact descending
    | cons a rest ih =>
      obtain ⟨first, others⟩ := List.pairwise_cons.mp order
      obtain ⟨now, hlater⟩ := List.forall_mem_cons.mp later
      have inserted := insertDescending_perm cmp a done
      refine ih _ (fun b hb => ?_) others (fun b hb c hc => ?_) ?_
      · have mem : b ∈ a :: rest ++ done := by
          rcases List.mem_append.mp hb with hb | hb
          · exact List.mem_append_left _ (List.mem_cons_of_mem a hb)
          · rcases List.mem_cons.mp (inserted.mem_iff.mp hb) with rfl | hb
            · exact List.mem_append_left _ List.mem_cons_self
            · exact List.mem_append_right _ hb
        exact sub b mem
      · rcases List.mem_cons.mp (inserted.mem_iff.mp hc) with rfl | hc
        · exact first b hb
        · exact hlater b hb c hc
      · exact insertDescending_pairwise orders (sub a List.mem_cons_self)
          (fun b hb => sub b (List.mem_append_right _ hb)) descending now
  have sorted := key items [] (fun a h => by simpa using h) given nofun .nil
  exact List.pairwise_reverse.mpr sorted

theorem insertDescending_map (f : β → α) (b : β) (l : List β) :
    (insertDescending (fun x y => cmp (f x) (f y)) b l).map f =
      insertDescending cmp (f b) (l.map f) := by
  induction l with
  | nil => rfl
  | cons c rest ih =>
    rw [List.map_cons, insertDescending, insertDescending]
    split
    · rw [List.map_cons, ih]
    · rfl

/-- Items that are sorted by what they stand for give what they stand for in order. -/
theorem stableSort_map (cmp : α → α → Ordering) (f : β → α) (items : List β) :
    (stableSort (fun x y => cmp (f x) (f y)) items).map f = stableSort cmp (items.map f) := by
  have key (l done : List β) :
      (l.foldl (fun done b => insertDescending (fun x y => cmp (f x) (f y)) b done) done).map f =
        (l.map f).foldl (fun done a => insertDescending cmp a done) (done.map f) := by
    induction l generalizing done with
    | nil => rfl
    | cons b rest ih =>
      rw [List.foldl_cons, List.map_cons, List.foldl_cons, ih, insertDescending_map]
  unfold stableSort
  rw [List.map_reverse, key]
  rfl

/-- Where all items tie they stay as they are. -/
theorem stableSort_of_tie (tie : ∀ a b, cmp a b = .eq) (items : List α) :
    stableSort cmp items = items := by
  have insert (a : α) (l : List α) : insertDescending cmp a l = a :: l := by
    cases l with
    | nil => rfl
    | cons b rest => rw [insertDescending, tie]; rfl
  have key (l done : List α) :
      l.foldl (fun done a => insertDescending cmp a done) done = l.reverse ++ done := by
    induction l generalizing done with
    | nil => rfl
    | cons a rest ih => rw [List.foldl_cons, insert, ih, List.reverse_cons, List.append_assoc]; rfl
  rw [stableSort, key, List.append_nil, List.reverse_reverse]

variable {M : RecordModel} {R : Type}

theorem stableSort_of_short (cmp : α → α → Ordering) {items : List α} (short : items.length < 2) :
    stableSort cmp items = items := by
  match items with
  | [] | [a] => rfl
  | a :: b :: rest =>
    rw [List.length_cons, List.length_cons] at short
    omega

/-- The positions of a list stand for its items. -/
theorem map_getElem?_range (records : List R) :
    (List.range records.length).map (records[·]?) = records.map some := by
  refine List.ext_getElem (by simp) fun i _ _ => ?_
  simp

/-- What the engine answers are the records sorted by their keys. -/
theorem Engine.arrange_eq (e : Engine M) (tidy : e.scratch.Tidy) (p : SortPlan R)
    (records : List R) : (e.arrange p records false).1 = .ok (stableSort p.compare records) := by
  unfold Engine.arrange
  split
  · rename_i trivial
    rw [Bool.or_eq_true, List.isEmpty_iff, decide_eq_true_eq] at trivial
    rcases trivial with none | short
    · have tie (a b : R) : p.compare a b = .eq := by
        rw [SortPlan.compare, SortPlan.directions, none]
        rfl
      rw [stableSort_of_tie tie]
    · rw [stableSort_of_short p.compare short]
  · rw [if_neg Bool.false_ne_true]
    let byKeys (a b : Option R) : Ordering :=
      compareRows p.directions (a.elim [] p.row) (b.elim [] p.row)
    have row (i : Nat) : (records.map p.row).toArray.getD i [] = records[i]?.elim [] p.row := by
      cases there : records[i]? <;> simp [Array.getD_eq_getD_getElem?, there]
    have sorted : (stableSort (fun i j => byKeys records[i]? records[j]?)
        (List.range records.length)).map (records[·]?) =
          (stableSort p.compare records).map some := by
      rw [stableSort_map byKeys (records[·]?), map_getElem?_range,
        ← stableSort_map byKeys some]
      rfl
    simp only [row, tidy.acquire.1, List.nil_append, List.getElem?_toArray]
    have answer := congrArg (List.filterMap id) sorted
    rw [List.filterMap_map, List.filterMap_map] at answer
    exact congrArg Except.ok (answer.trans List.filterMap_some)

section Numbered

variable {records : List R} {number : R → Int} {p : SortPlan R}

/-- Records by their keys and, where these tie, by their numbers. -/
def SortPlan.compareNumbered (p : SortPlan R) (number : R → Int) (a b : R) : Ordering :=
  (p.compare a b).then (Ord.compare (number a) (number b))

theorem SortPlan.compareNumbered_swap (p : SortPlan R) (number : R → Int) (a b : R) :
    p.compareNumbered number b a = (p.compareNumbered number a b).swap := by
  have numbers (m n : Int) : Ord.compare n m = (Ord.compare m n).swap := Std.OrientedOrd.eq_swap
  rw [compareNumbered, p.compare_swap a b, numbers (number a), ← Ordering.swap_then]
  rfl

/-- Of records in ascending order of their numbers no two tie. -/
theorem eq_of_compareNumbered (ascending : records.Pairwise fun a b => number a < number b)
    {a b : R} (ha : a ∈ records) (hb : b ∈ records) (tie : p.compareNumbered number a b = .eq) :
    a = b := by
  have same : number a = number b :=
    Std.LawfulEqCmp.eq_of_compare (Ordering.then_eq_eq.mp tie).2
  by_contra differ
  let apart (a b : R) : Prop := number a ≠ number b
  have symmetric : Std.Symm apart := ⟨fun _ _ => Ne.symm⟩
  exact List.Pairwise.forall (R := apart) (ascending.imp fun less => Int.ne_of_lt less) ha hb differ
    same

/-- Sorting is stable, so records in ascending order of their numbers are sorted by these too. -/
theorem stableSort_compareNumbered (orders : Orders p.compare records)
    (ascending : records.Pairwise fun a b => number a < number b) :
    (stableSort p.compare records).Pairwise fun a b => p.compareNumbered number a b = .lt := by
  refine (stableSort_pairwise orders ascending).imp ?_
  rintro a b (less | ⟨tie, earlier⟩)
  · rw [SortPlan.compareNumbered, less]
    rfl
  · rw [SortPlan.compareNumbered, tie]
    exact compare_lt_iff_lt.mpr earlier

end Numbered

end FieldQuery

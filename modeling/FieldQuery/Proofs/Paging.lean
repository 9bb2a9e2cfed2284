import FieldQuery.Proofs.Agreement
import FieldQuery.Proofs.Remembering
import Mathlib.Algebra.Order.Floor.Semifield
import Mathlib.Data.Rat.Floor

/-!
# Pages of a list

A window is worked out in words of 64 bits, where products and sums stop at the greatest word. No
list is long enough for that to show: a page is what it would be in unbounded naturals, and the
pages of one size cut the list into pieces. Main statement: `pages_partition`.
-/
namespace FieldQuery

variable {α : Type}

namespace PageWindow

variable (w : PageWindow) (items : List α)

/-- A product or sum beyond the words points behind the end of the list all the same. -/
theorem slice_eq (short : items.length < wordLimit) :
    w.slice items = (items.drop (w.index * w.size)).take w.size := by
  unfold slice
  split
  · rename_i behind
    have before : w.offset ≤ w.index * w.size := saturated_le _
    rw [List.drop_of_length_le (by omega), List.take_nil]
  · rename_i within
    have exact : w.offset = w.index * w.size := by
      simp only [offset, saturated] at within ⊢
      omega
    have stop : min (min (saturated (w.offset + w.size)) items.length - w.offset)
        (items.length - w.offset) = min w.size (items.length - w.offset) := by
      simp only [saturated]
      omega
    rw [List.drop_take, ← exact, List.take_eq_take_iff, List.length_drop]
    exact stop

theorem pageCount_le_iff (n i : Nat) : w.pageCount n ≤ i ↔ n ≤ i * w.size := by
  have positive := w.size_pos
  unfold pageCount
  constructor
  · intro h
    have below := Nat.lt_mul_of_div_lt (Nat.lt_succ_of_le h) positive
    rw [Nat.succ_mul] at below
    omega
  · intro h
    have below : n + w.size - 1 < (i + 1) * w.size := by
      rw [Nat.succ_mul]
      omega
    exact Nat.le_of_lt_succ (Nat.div_lt_of_lt_mul (by rwa [Nat.mul_comm]))

theorem lt_pageCount_iff (n i : Nat) : i < w.pageCount n ↔ i * w.size < n := by
  rw [← Nat.not_le, ← Nat.not_le, pageCount_le_iff]

/-- The number of pages is the quotient, rounded up. -/
theorem pageCount_eq_ceil (n : Nat) : w.pageCount n = ⌈(n / w.size : ℚ)⌉₊ := by
  have positive : (0 : ℚ) < w.size := by exact_mod_cast w.size_pos
  refine eq_of_forall_ge_iff fun i => ?_
  rw [pageCount_le_iff, Nat.ceil_le, div_le_iff₀ positive]
  exact_mod_cast Iff.rfl

end PageWindow

/-- Pages that cut a list into pieces of one size, the last one perhaps smaller. -/
structure CutsIntoPages (items : List α) (size count : Nat) (page : Int → List α) : Prop where
  page_eq : ∀ i : Int, page i = (items.drop (i.toNat * size)).take size
  count_eq : count = ⌈(items.length / size : ℚ)⌉₊
  whole : (List.range count).flatMap (fun i : Nat => page i) = items
  full : ∀ i : Nat, i + 1 < count → (page i).length = size
  last : ∀ i : Nat, i + 1 = count → page i ≠ []
  beyond : ∀ i : Nat, count ≤ i → page i = []

theorem flatMap_range_drop_take (items : List α) (size count : Nat) :
    ((List.range count).flatMap fun i => (items.drop (i * size)).take size) =
      items.take (count * size) := by
  induction count with
  | zero => rw [Nat.zero_mul, List.take_zero, List.range_zero, List.flatMap_nil]
  | succ count ih =>
    rw [List.range_succ, List.flatMap_append, ih, List.flatMap_singleton, Nat.succ_mul,
      List.take_add]

theorem CutsIntoPages.of_window (w : PageWindow) (items : List α) {page : Int → List α}
    (page_eq : ∀ i : Int, page i = (items.drop (i.toNat * w.size)).take w.size) :
    CutsIntoPages items w.size (w.pageCount items.length) page := by
  have at_nat (i : Nat) : page i = (items.drop (i * w.size)).take w.size := page_eq i
  have length_at (i : Nat) : (page i).length = min w.size (items.length - i * w.size) := by
    rw [at_nat, List.length_take, List.length_drop]
  constructor
  · exact page_eq
  · exact w.pageCount_eq_ceil items.length
  · have covered := (w.pageCount_le_iff items.length _).mp (Nat.le_refl _)
    have pages : (fun i : Nat => page i) = fun i => (items.drop (i * w.size)).take w.size :=
      funext at_nat
    rw [pages, flatMap_range_drop_take, List.take_of_length_le covered]
  · intro i next
    have more := (w.lt_pageCount_iff items.length _).mp next
    rw [length_at]
    rw [Nat.succ_mul] at more
    omega
  · intro i here blank
    have started := (w.lt_pageCount_iff items.length i).mp (by omega)
    have positive := w.size_pos
    have empty := length_at i
    rw [blank, List.length_nil] at empty
    omega
  · intro i behind
    have all := (w.pageCount_le_iff items.length i).mp behind
    rw [at_nat, List.drop_of_length_le all, List.take_nil]

theorem Selection.length_hits_le {R : Type} {s : Selection R} {i : Nat} {batch : List R}
    {hits : List Nat} (h : s.hits i batch = .ok hits) : hits.length ≤ batch.length := by
  induction batch generalizing i hits with
  | nil =>
    cases h
    exact Nat.le_refl _
  | cons r rest ih =>
    obtain ⟨hit, -, h⟩ := bind_ok_iff.mp h
    obtain ⟨more, later, h⟩ := bind_ok_iff.mp h
    have fewer := ih later
    cases h
    cases hit with
    | false => exact Nat.le_succ_of_le fewer
    | true => exact Nat.succ_le_succ fewer

namespace Engine

variable {M : RecordModel} {R : Type}

theorem length_selected_le {size : Nat} {s : Selection R} {records found : List R}
    (h : selected size s records = .ok found) : found.length ≤ records.length := by
  obtain ⟨positions, ran, rfl⟩ := map_ok_iff.mp h
  have fewer : ∀ {bs : List (Nat × List R)} {ps : List (List Nat)},
      List.Forall₂ (fun b p => positionsOf s b = .ok p) bs ps →
      ps.flatten.length ≤ (bs.flatMap (·.2)).length := by
    intro bs ps each
    induction each with
    | nil => exact Nat.le_refl _
    | cons now _ ih =>
      rw [List.flatten_cons, List.flatMap_cons, List.length_append, List.length_append]
      exact Nat.add_le_add (Selection.length_hits_le now) ih
  have all := fewer (mapM_ok_forall₂ ran)
  rw [batches_flatten] at all
  exact (List.length_filterMap_le _ _).trans all

/-- Putting records in order keeps their number. -/
theorem length_arrangement (p : SortPlan R) (records : List R) :
    ((arrangement p records).filterMap fun i => records.toArray[i]?).length = records.length := by
  have perm : (arrangement p records).Perm (List.range records.length) := stableSort_perm _ _
  have there : ∀ i ∈ arrangement p records, (records.toArray[i]?).isSome = true := by
    intro i hi
    have below := List.mem_range.mp (perm.mem_iff.mp hi)
    simp [below]
  rw [List.length_filterMap_eq_countP, List.countP_eq_length.mpr there, perm.length_eq,
    List.length_range]

variable [DecidableEq M.Kind] {k : M.Kind} {records found sorted : List (M.Item k)} {f : Filter}
  {cancelled : Bool} {e : Engine M}

theorem length_select_le {s : Selection R} {records found : List R} (tidy : e.scratch.Tidy)
    (h : (e.select s records cancelled).1 = .ok found) : found.length ≤ records.length := by
  rw [(e.select_of_tidy tidy s records cancelled).1] at h
  split at h
  · split at h
    · cases h
    · cases h
      exact Nat.le_refl _
  · split at h
    · cases h
    · exact length_selected_le h

theorem length_arrange {p : SortPlan R} {records sorted : List R} (tidy : e.scratch.Tidy)
    (h : (e.arrange p records cancelled).1 = .ok sorted) : sorted.length = records.length := by
  rw [(e.arrange_of_tidy tidy p records cancelled).1] at h
  split at h
  · cases h
    rfl
  · split at h
    · cases h
    · cases h
      exact length_arrangement p records

/-- What is answered in order is as much as the filter selects. -/
theorem found_of_filterAndSort (tidy : e.scratch.Tidy)
    (h : (e.filterAndSort k records f cancelled).1 = .ok sorted) :
    ∃ found, (e.filter k records f cancelled).1 = .ok found ∧
      sorted.length = found.length ∧ found.length ≤ records.length := by
  rw [filterAndSort_eq] at h
  obtain ⟨p, -, h⟩ := ok_of_andThen h
  have learned := (steady_sortPlan k f.sort).alike e tidy
  have ready := (steady_sortPlan k f.sort).tidy e tidy
  generalize (e.sortPlan k f.sort).2 = d at h learned ready
  obtain ⟨found, selecting, h⟩ := ok_of_andThen h
  have filtering := steady_filter k records f cancelled
  refine ⟨found, ?_, length_arrange (filtering.tidy d ready) h, ?_⟩
  · exact (filtering.answer e d learned.symm tidy ready).trans selecting
  · rw [filter_eq] at selecting
    obtain ⟨s, -, selecting⟩ := ok_of_andThen selecting
    exact length_select_le ((steady_selection k f).tidy d ready) selecting

def paginateEach (k : M.Kind) (records : List (M.Item k)) (f : Filter) (size : Int)
    (cancelled : Bool) : Engine M → List Int → List (Answer (Page (M.Item k))) × Engine M
  | e, [] => ([], e)
  | e, i :: rest =>
    let (page, e) := e.paginate k records f i size cancelled
    let (pages, e) := paginateEach k records f size cancelled e rest
    (page :: pages, e)

/-- Pages are cut from one answer, however many have been asked for before. -/
theorem paginateEach_of_ok (size : Int) (tidy : e.scratch.Tidy)
    (h : (e.filterAndSort k records f cancelled).1 = .ok sorted) (indexes : List Int) :
    (paginateEach k records f size cancelled e indexes).1 = indexes.map fun i =>
      .ok (Page.ofList (.ofRequest e.settings.pageSize i size) sorted f.sort) := by
  induction indexes generalizing e with
  | nil => rfl
  | cons i rest ih =>
    have steady := steady_paginate k records f cancelled i size
    have alike := steady.alike e tidy
    have ready := steady.tidy e tidy
    have again := (steady_filterAndSort k records f cancelled).answer _ e alike ready tidy
    have sorting := (steady_filterAndSort k records f cancelled).alike e tidy
    have later := ih ready (again.trans h)
    have now : (e.paginate k records f i size cancelled).1 =
        .ok (Page.ofList (.ofRequest e.settings.pageSize i size) sorted f.sort) := by
      rw [paginate_eq, andThen_ok h, sorting.settings]
    rw [alike.settings] at later
    rw [List.map_cons, ← now, ← later]
    rfl

end Engine

def PageWindow.requested (defaultSize : Nat) (size : Int) : Nat :=
  if 0 < size then size.toNat else max defaultSize 1

/-- The pages of one size partition a list, and asked for one after the other they partition the
answer to a filter, each with the number of records that the filter selects. -/
theorem pages_partition (size : Int) :
    (∀ (defaultSize : Nat) (items : List α), items.length < intLimit →
      CutsIntoPages items (PageWindow.requested defaultSize size)
        ((PageWindow.ofRequest defaultSize 0 size).pageCount items.length)
        fun i => (PageWindow.ofRequest defaultSize i size).slice items) ∧
    ∀ (M : RecordModel) [DecidableEq M.Kind] (e : Engine M) (k : M.Kind)
      (records sorted : List (M.Item k)) (f : Filter) (cancelled : Bool),
      e.scratch.Tidy → records.length < intLimit →
      (e.filterAndSort k records f cancelled).1 = .ok sorted →
      ∃ (found : List (M.Item k)) (pages : List (Page (M.Item k))),
        (e.filter k records f cancelled).1 = .ok found ∧
        let count := (PageWindow.ofRequest e.settings.pageSize 0 size).pageCount sorted.length
        (Engine.paginateEach k records f size cancelled e ((List.range count).map Int.ofNat)).1 =
          pages.map .ok ∧
        pages.flatMap (·.data) = sorted ∧
        ∀ p ∈ pages, p.total = found.length ∧ p.window.pageCount p.total = count := by
  have words : intLimit < wordLimit := by decide
  have cuts : ∀ {β : Type} (defaultSize : Nat) (items : List β), items.length < intLimit →
      CutsIntoPages items (PageWindow.requested defaultSize size)
        ((PageWindow.ofRequest defaultSize 0 size).pageCount items.length)
        fun i => (PageWindow.ofRequest defaultSize i size).slice items := by
    intro β defaultSize items short
    refine .of_window (.ofRequest defaultSize 0 size) items fun i => ?_
    exact PageWindow.slice_eq (.ofRequest defaultSize i size) items (by omega)
  refine ⟨cuts, ?_⟩
  intro M _ e k records sorted f cancelled tidy short answered
  obtain ⟨found, selecting, same, fewer⟩ := Engine.found_of_filterAndSort tidy answered
  have whole := (cuts e.settings.pageSize sorted (by omega)).whole
  generalize hc : (PageWindow.ofRequest e.settings.pageSize 0 size).pageCount sorted.length = count
    at whole
  refine ⟨found, (List.range count).map fun i : Nat =>
    Page.ofList (.ofRequest e.settings.pageSize i size) sorted f.sort, selecting, ?_, ?_, ?_⟩
  · rw [Engine.paginateEach_of_ok size tidy answered, List.map_map, List.map_map]
    rfl
  · rw [List.flatMap_map]
    exact whole
  · intro p hp
    obtain ⟨i, -, rfl⟩ := List.mem_map.mp hp
    exact ⟨same, hc⟩

namespace Sample

instance : DecidableEq (shelf.Item ()) := inferInstanceAs (DecidableEq (String × Int))

def stock : List (shelf.Item ()) := [("Emma", 474), ("Pan", 200), ("Kim", 352), ("Atlas", 90)]

/-- Long books, the longest first. -/
def byLength : Filter :=
  { terms := [⟨"pages", .num (.int 100), .gte, none⟩], sort := [⟨"pages", .desc⟩] }

def longest : List (shelf.Item ()) := [("Emma", 474), ("Kim", 352), ("Pan", 200)]

theorem filterAndSort_stock :
    (({} : Engine shelf).filterAndSort () stock byLength false).1 = .ok longest :=
  eq_ok_of_toOption (by decide +kernel)

end Sample

open Sample in
theorem pages_partition_stock :
    ([1, 2, 3, 4, 5].length < intLimit ∧
      CutsIntoPages [1, 2, 3, 4, 5] 2 3 fun i =>
        (PageWindow.ofRequest 0 i 2).slice [1, 2, 3, 4, 5]) ∧
    ({} : Engine shelf).scratch.Tidy ∧ stock.length < intLimit ∧
    (({} : Engine shelf).filterAndSort () stock byLength false).1 = .ok longest ∧
    ∃ pages : List (Page (shelf.Item ())),
      (Engine.paginateEach () stock byLength 2 false ({} : Engine shelf) [0, 1]).1 =
        pages.map .ok ∧ pages.flatMap (·.data) = longest := by
  have short : stock.length < intLimit := by decide
  obtain ⟨lists, answers⟩ := pages_partition (α := Nat) 2
  obtain ⟨found, pages, -, asked, whole, -⟩ :=
    answers shelf {} () stock longest byLength false ScratchPool.tidy_empty short
      filterAndSort_stock
  exact ⟨⟨by decide, lists 0 [1, 2, 3, 4, 5] (by decide)⟩, ScratchPool.tidy_empty, short,
    filterAndSort_stock, pages, asked, whole⟩

end FieldQuery

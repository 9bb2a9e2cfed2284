import FieldQuery.Proofs.Workers

/-!
# Work on the batches of a list

A list is cut into batches of one size, the last of them perhaps shorter, and workers bring back
what work makes of each. Main statement: `outcome_of_batches`.
-/
namespace FieldQuery

variable {α β : Type}

theorem length_batchesFrom (size : Nat) (h : 0 < size) (offset : Nat) (items : List α) :
    (batchesFrom size h offset items).length = (items.length + size - 1) / size := by
  fun_induction batchesFrom size h offset items with
  | case1 offset =>
    rw [List.length_nil, List.length_nil, Nat.div_eq_of_lt (by omega)]
  | case2 offset a rest ih =>
    rw [List.length_cons, ih, List.length_drop]
    by_cases short : (a :: rest).length ≤ size
    · have one : (a :: rest).length + size - 1 = (a :: rest).length - 1 + size := by
        rw [List.length_cons]
        omega
      have none : (a :: rest).length - size = 0 := by omega
      rw [none, one, Nat.add_div_right _ h, Nat.div_eq_of_lt (by omega),
        Nat.div_eq_of_lt (by rw [List.length_cons] at *; omega)]
    · have more : (a :: rest).length + size - 1 = (a :: rest).length - size + size - 1 + size := by
        omega
      rw [more, Nat.add_div_right _ h]

/-- The batch at a position begins at that many times the size. -/
theorem getElem?_batchesFrom {size : Nat} {h : 0 < size} {offset k : Nat} {items : List α}
    {b : Nat × List α} (hk : (batchesFrom size h offset items)[k]? = some b) :
    b = (offset + k * size, (items.drop (k * size)).take size) := by
  fun_induction batchesFrom size h offset items generalizing k with
  | case1 offset => cases hk
  | case2 offset a rest ih =>
    cases k with
    | zero =>
      cases hk
      simp
    | succ k =>
      rw [ih hk, List.drop_drop, Nat.succ_mul]
      congr 1
      · omega
      · rw [Nat.add_comm]

theorem getElem?_batches {size k : Nat} {items : List α} {b : Nat × List α}
    (hk : (batches size items)[k]? = some b) :
    b = (k * max size 1, (items.drop (k * max size 1)).take (max size 1)) := by
  have := getElem?_batchesFrom hk
  rwa [Nat.zero_add] at this

/-- Work on the batches of a list, in whatever order dispatcher, workers and collector take their
steps. A list of results has the result of each batch in its place. If the caller does not cancel,
work that never fails comes to such a list, and otherwise a failure is reported that a batch really
has. Only a raised flag makes work give up; of itself it does not report a cancellation. -/
theorem outcome_of_batches (items : List α) (size maxWorkers : Nat)
    (work : Nat → List α → Answer β) {cancelled : Bool} {a : Answer (List β)}
    (ends : WorkerPool.Ends ((batches size items).map fun b => work b.1 b.2) maxWorkers
      cancelled a) :
    (∀ bs, a = .ok bs → bs.length = (items.length + max size 1 - 1) / max size 1 ∧
      ∀ k b, bs[k]? = some b →
        work (k * max size 1) ((items.drop (k * max size 1)).take (max size 1)) = .ok b) ∧
    (cancelled = false → (∀ b ∈ batches size items, (work b.1 b.2).isOk = true) →
      ∃ bs, a = .ok bs) ∧
    (cancelled = false → (∀ b ∈ batches size items, work b.1 b.2 ≠ .error .cancelled) →
      (∃ b ∈ batches size items, (work b.1 b.2).isOk = false) →
      ∃ b ∈ batches size items, ∃ fault, work b.1 b.2 = .error fault ∧ fault ≠ .cancelled ∧
        a = .error fault) := by
  refine ⟨?_, ?_, ?_⟩
  · rintro bs rfl
    have all := ends.ok
    have length : (batches size items).length = bs.length := by
      simpa using congrArg List.length all
    refine ⟨by rw [← length]; exact length_batchesFrom _ _ _ _, fun k b hk => ?_⟩
    have inside : k < (batches size items).length :=
      length ▸ (List.getElem?_eq_some_iff.mp hk).1
    have batch := List.getElem?_eq_getElem inside
    have result := congrArg (·[k]?) all
    simp only [List.getElem?_map, batch, hk, Option.map_some, Option.some.injEq] at result
    rwa [getElem?_batches batch] at result
  · rintro rfl fine
    refine ends.of_all_ok fun r hr => ?_
    obtain ⟨b, hb, rfl⟩ := List.mem_map.mp hr
    exact fine b hb
  · rintro rfl honest ⟨b, hb, bad⟩
    have failing : ∃ fault, work b.1 b.2 = .error fault := by
      cases hw : work b.1 b.2 with
      | error fault => exact ⟨fault, rfl⟩
      | ok c =>
        rw [hw] at bad
        cases bad
    obtain ⟨fault, hf⟩ := failing
    have clear : .error .cancelled ∉ (batches size items).map fun b => work b.1 b.2 := by
      intro mem
      obtain ⟨c, hc, eq⟩ := List.mem_map.mp mem
      exact honest c hc eq
    obtain ⟨other, mem, proper, reported⟩ :=
      ends.of_error clear (List.mem_map.mpr ⟨b, hb, hf⟩)
    obtain ⟨c, hc, eq⟩ := List.mem_map.mp mem
    exact ⟨c, hc, other, eq, proper, reported⟩

namespace Sample

open WorkerPool

def late : QueryFault := .atItem 1 (.notCoercible "'x'" "number")

/-- Work that fails on every batch but the first. -/
def firstOnly : Nat → List Nat → Answer Nat
  | 0, batch => .ok batch.length
  | _ + 1, _ => .error late

theorem batches_pair : batches 0 [7, 42] = [(0, [7]), (1, [42])] := by
  simp [batches, batchesFrom]

/-- The second batch fails while the first is under way; the worker of the first gives up, and its
cancellation arrives before the failure. -/
theorem ends_race :
    Ends ((batches 0 [7, 42]).map fun b => firstOnly b.1 b.2) 2 false (.error late) := by
  rw [batches_pair]
  have r : Reachable [.ok 1, .error late] 2 (WorkerPool.start 2 2) := .start
  have r := r.step (.proceed rfl rfl (by decide))
  have r := r.step (.send rfl (by decide))
  have r := r.step (.proceed rfl rfl (by decide))
  have r := r.step (.send rfl (by decide))
  have r := r.step (.stop rfl (.inr rfl))
  have r := r.step (.lineUp (i := 0) rfl (by simp [WorkerPool.start]))
  have r := r.step (.take (i := 0) rfl rfl)
  have r := r.step (.lineUp (i := 1) rfl (by simp [WorkerPool.start]))
  have r := r.step (.take (i := 1) rfl rfl)
  have r := r.step (.finish (i := 1) rfl rfl)
  have r := r.step (.giveUp (i := 0) rfl rfl)
  have r := r.step (.report (i := 0) rfl)
  have r := r.step (.report (i := 1) rfl)
  have r := r.step (.lineUp (i := 0) rfl (by simp [WorkerPool.start]))
  have r := r.step (.leave (i := 0) rfl rfl rfl)
  have r := r.step (.lineUp (i := 1) rfl (by simp [WorkerPool.start]))
  have r := r.step (.leave (i := 1) rfl rfl rfl)
  have r := r.step (.collect rfl rfl)
  have r := r.step (.collect rfl rfl)
  have r := r.step (.finishAll rfl (by simp [WorkerPool.start]) rfl rfl)
  exact .pool (by decide) r rfl

end Sample

open Sample in
theorem outcome_of_batches_race :
    WorkerPool.Ends ((batches 0 [7, 42]).map fun b => firstOnly b.1 b.2) 2 false (.error late) ∧
    ∃ b ∈ batches 0 [7, 42], ∃ fault, firstOnly b.1 b.2 = .error fault ∧ fault ≠ .cancelled ∧
      (.error late : Answer (List Nat)) = .error fault := by
  refine ⟨ends_race, (outcome_of_batches [7, 42] 0 2 firstOnly ends_race).2.2 rfl ?_ ?_⟩
  · rw [batches_pair]
    simp [firstOnly, late]
  · exact ⟨(1, [42]), by rw [batches_pair]; simp, rfl⟩

end FieldQuery

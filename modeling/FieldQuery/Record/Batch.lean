import FieldQuery.Filter.Fault

/-!
# Batches

Work on many items is cut into batches of one size. The results come in the order of the batches;
the first batch to fail decides the outcome.
-/
namespace FieldQuery

variable {α β σ : Type}

/-- Cuts a list into batches, each with its offset. -/
def batchesFrom (size : Nat) (h : 0 < size) (offset : Nat) (items : List α) :
    List (Nat × List α) :=
  match items with
  | [] => []
  | a :: rest =>
    (offset, (a :: rest).take size) ::
      batchesFrom size h (offset + size) ((a :: rest).drop size)
termination_by items.length
decreasing_by simp; omega

/-- Cuts a list into batches. A size of zero counts as one. -/
def batches (size : Nat) (items : List α) : List (Nat × List α) :=
  batchesFrom (max size 1) (by omega) 0 items

theorem batchesFrom_flatten (size : Nat) (h : 0 < size) (offset : Nat) (items : List α) :
    (batchesFrom size h offset items).flatMap (·.2) = items := by
  fun_induction batchesFrom size h offset items with
  | case1 => rfl
  | case2 offset a rest ih => rw [List.flatMap_cons, ih, List.take_append_drop]

/-- The batches joined are the list. -/
theorem batches_flatten (size : Nat) (items : List α) :
    (batches size items).flatMap (·.2) = items := batchesFrom_flatten _ _ _ _

/-- Works on batch after batch, handing on a state, up to the first that fails. -/
def runInOrder (work : σ → Nat → List α → Answer β × σ) :
    σ → List (Nat × List α) → Answer (List β) × σ
  | s, [] => (.ok [], s)
  | s, (offset, batch) :: rest =>
    match work s offset batch with
    | (.error fault, s) => (.error fault, s)
    | (.ok b, s) =>
      match runInOrder work s rest with
      | (.error fault, s) => (.error fault, s)
      | (.ok bs, s) => (.ok (b :: bs), s)

end FieldQuery

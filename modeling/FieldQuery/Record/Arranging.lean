import FieldQuery.Record.Engine
import FieldQuery.Record.Workers

/-!
# Arranging with several workers

The keys by which records are put in order are read batch by batch. Once they are all there, their
rows are joined in the order of the batches and the positions of the records are sorted by them, in
a scratch buffer. Other requests may take buffers and give them back before that.
-/
namespace FieldQuery

/-- What can become of a scratch pool while other requests use it. -/
inductive ScratchPool.Shared (p : ScratchPool) : ScratchPool → Prop where
  | start : Shared p p
  | lend {q : ScratchPool} (shared : Shared p q) : Shared p q.acquire.2
  | giveBack {q : ScratchPool} (shared : Shared p q) (b : Buffer) : Shared p (q.release b)

variable {R : Type}

def SortPlan.rowsOf (p : SortPlan R) (batch : Nat × List R) : Answer (List (List SortKey)) :=
  .ok (batch.2.map p.row)

variable {M : RecordModel}

/-- How putting records in order can end if up to so many workers read their keys. -/
inductive Engine.ArrangeEnds (e : Engine M) (p : SortPlan R) (records : List R) (maxWorkers : Nat) :
    Bool → Answer (List R) → Prop where
  | kept {cancelled : Bool} (few : p.keys = [] ∨ records.length < 2) :
      ArrangeEnds e p records maxWorkers cancelled (.ok records)
  | refused {cancelled : Bool} {fault : QueryFault} (keyed : p.keys ≠ [])
      (several : 2 ≤ records.length)
      (ends : WorkerPool.Ends ((batches e.settings.batchSize records).map p.rowsOf) maxWorkers
        cancelled (.error fault)) :
      ArrangeEnds e p records maxWorkers cancelled (.error fault)
  | sorted {cancelled : Bool} {rows : List (List (List SortKey))} {scratch : ScratchPool}
      (keyed : p.keys ≠ []) (several : 2 ≤ records.length)
      (ends : WorkerPool.Ends ((batches e.settings.batchSize records).map p.rowsOf) maxWorkers
        cancelled (.ok rows))
      (shared : e.scratch.Shared scratch) :
      ArrangeEnds e p records maxWorkers cancelled (.ok (
        (stableSort
          (fun i j => compareRows p.directions (rows.flatten.toArray.getD i [])
            (rows.flatten.toArray.getD j []))
          (scratch.acquire.1 ++ List.range records.length)).filterMap fun i => records.toArray[i]?))

end FieldQuery

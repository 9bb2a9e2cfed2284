import FieldQuery.Record.Engine
import FieldQuery.Record.Workers

/-!
# Searching with several workers

The records that a selection accepts are searched for batch by batch. Whoever has a batch takes a
buffer out of the scratch pool, reads the batch record by record and notes the positions it finds;
meanwhile other requests take buffers and give them back. A record that cannot be judged, or a
raised flag, ends the reading, and the buffer is given back. A single batch is read by the caller.
-/
namespace FieldQuery

variable {R : Type}

/-- What is held while a batch is read. -/
inductive Hand (R : Type) where
  /-- The positions found, and the records still to be read with the position of the first. -/
  | reading (found : Buffer) (position : Nat) (rest : List R)
  | done (result : Answer Buffer)

namespace Hand

def start (found : Buffer) (batch : Nat × List R) : Hand R := reading found batch.1 batch.2

/-- One step of reading, which may change the scratch pool. A flag that is raised may be seen before
a record, or only before a later one. -/
inductive Step (s : Selection R) (raised : Bool) :
    Hand R × ScratchPool → Hand R × ScratchPool → Prop where
  | read {found : Buffer} {position : Nat} {r : R} {rest : List R} {hit : Bool}
      {scratch : ScratchPool} (judged : s.accepts r = .ok hit) :
      Step s raised (reading found position (r :: rest), scratch)
        (reading (if hit then found ++ [position] else found) (position + 1) rest, scratch)
  | fail {found : Buffer} {position : Nat} {r : R} {rest : List R} {fault : QueryFault}
      {scratch : ScratchPool} (judged : s.accepts r = .error fault) :
      Step s raised (reading found position (r :: rest), scratch)
        (done (.error (.atItem position fault)), scratch.release found)
  | giveUp {found : Buffer} {position : Nat} {r : R} {rest : List R} {scratch : ScratchPool}
      (up : raised = true) :
      Step s raised (reading found position (r :: rest), scratch)
        (done (.error .cancelled), scratch.release found)
  | finish {found : Buffer} {position : Nat} {scratch : ScratchPool} :
      Step s raised (reading found position [], scratch) (done (.ok found), scratch)

/-- What the caller can hold who reads a batch alone, and whether it cancelled. -/
inductive Alone (s : Selection R) (batch : Nat × List R) (scratch : ScratchPool) :
    Hand R × ScratchPool → Bool → Prop where
  | start : Alone s batch scratch (.start scratch.acquire.1 batch, scratch.acquire.2) false
  | step {x y : Hand R × ScratchPool} {cancelled : Bool}
      (reached : Alone s batch scratch x cancelled) (step : Step s cancelled x y) :
      Alone s batch scratch y cancelled
  | cancel {x : Hand R × ScratchPool} {cancelled : Bool}
      (reached : Alone s batch scratch x cancelled) : Alone s batch scratch x true
  | lend {h : Hand R} {p : ScratchPool} {cancelled : Bool}
      (reached : Alone s batch scratch (h, p) cancelled) :
      Alone s batch scratch (h, p.acquire.2) cancelled
  | giveBack {h : Hand R} {p : ScratchPool} {cancelled : Bool}
      (reached : Alone s batch scratch (h, p) cancelled) (b : Buffer) :
      Alone s batch scratch (h, p.release b) cancelled

end Hand

/-- Workers with what each of them holds. -/
structure Search (R : Type) where
  pool : WorkerPool Buffer
  scratch : ScratchPool
  hands : Nat → Option (Hand R)

namespace Search

def start (maxWorkers count : Nat) (scratch : ScratchPool) : Search R :=
  ⟨.start maxWorkers count, scratch, fun _ => none⟩

/-- Puts something into the hand of a worker, or takes it away. -/
def hold (x : Search R) (i : Nat) (h : Option (Hand R)) : Search R :=
  { x with hands := fun j => if j = i then h else x.hands j }

/-- One step of one party. The pool moves as any pool of that many batches does, except that work on
a batch is not done at once: it goes on in the hand of the worker until there is a result. -/
inductive Step (s : Selection R) (bs : List (Nat × List R)) : Search R → Search R → Prop where
  | around {x : Search R} {q : WorkerPool Buffer} {made : List (Answer Buffer)}
      (count : made.length = bs.length) (step : WorkerPool.Step made x.pool q)
      (busy : ∀ (i k : Nat), x.pool.workers[i]? = some (.working k) →
        q.workers[i]? = some (.working k)) :
      Step s bs x { x with pool := q }
  | begin {x : Search R} {i k : Nat} {batch : Nat × List R}
      (working : x.pool.workers[i]? = some (.working k)) (free : x.hands i = none)
      (next : bs[k]? = some batch) :
      Step s bs x ({ x with scratch := x.scratch.acquire.2 }.hold i
        (some (.start x.scratch.acquire.1 batch)))
  | go {x : Search R} {i : Nat} {h h' : Hand R} {scratch : ScratchPool} (hand : x.hands i = some h)
      (step : Hand.Step s x.pool.flag (h, x.scratch) (h', scratch)) :
      Step s bs x ({ x with scratch := scratch }.hold i (some h'))
  | settle {x : Search R} {i k : Nat} {r : Answer Buffer}
      (working : x.pool.workers[i]? = some (.working k)) (hand : x.hands i = some (.done r)) :
      Step s bs x ({ x with
        pool := { x.pool with
          workers := x.pool.workers.set i (.reporting k r)
          failed := x.pool.failed || !r.isOk } }.hold i none)

/-- The states that a search can come to. The caller may cancel and other requests may use the
scratch pool at any moment. -/
inductive Reachable (s : Selection R) (bs : List (Nat × List R)) (maxWorkers : Nat)
    (scratch : ScratchPool) : Search R → Prop where
  | start : Reachable s bs maxWorkers scratch (.start maxWorkers bs.length scratch)
  | step {x y : Search R} (reached : Reachable s bs maxWorkers scratch x) (step : Step s bs x y) :
      Reachable s bs maxWorkers scratch y
  | cancel {x : Search R} (reached : Reachable s bs maxWorkers scratch x) :
      Reachable s bs maxWorkers scratch { x with pool := { x.pool with callerCancelled := true } }
  | lend {x : Search R} (reached : Reachable s bs maxWorkers scratch x) :
      Reachable s bs maxWorkers scratch { x with scratch := x.scratch.acquire.2 }
  | giveBack {x : Search R} (reached : Reachable s bs maxWorkers scratch x) (b : Buffer) :
      Reachable s bs maxWorkers scratch { x with scratch := x.scratch.release b }

/-- How a search through batches can end, and whether the caller cancelled. -/
inductive Ends (s : Selection R) (bs : List (Nat × List R)) (maxWorkers : Nat)
    (scratch : ScratchPool) : Bool → Answer (List Buffer) → Prop where
  | nothing {cancelled : Bool} (empty : bs = []) : Ends s bs maxWorkers scratch cancelled (.ok [])
  | single {batch : Nat × List R} {r : Answer Buffer} {after : ScratchPool} {cancelled : Bool}
      (one : bs = [batch]) (reached : Hand.Alone s batch scratch (.done r, after) cancelled) :
      Ends s bs maxWorkers scratch cancelled (r.map ([·]))
  | several {x : Search R} {a : Answer (List Buffer)} (several : 2 ≤ bs.length)
      (reached : Reachable s bs maxWorkers scratch x) (ended : x.pool.outcome = some a) :
      Ends s bs maxWorkers scratch x.pool.callerCancelled a

end Search

namespace Engine

variable {M : RecordModel} [DecidableEq M.Kind]

/-- How a selection from records can end if up to so many workers take part. -/
inductive SelectEnds (e : Engine M) (s : Selection R) (records : List R) (maxWorkers : Nat) :
    Bool → Answer (List R) → Prop where
  | all (trivial : s.isTrivial = true) : SelectEnds e s records maxWorkers false (.ok records)
  | refused (trivial : s.isTrivial = true) :
      SelectEnds e s records maxWorkers true (.error .cancelled)
  | searched {cancelled : Bool} {found : Answer (List Buffer)} (choosy : s.isTrivial = false)
      (ends : Search.Ends s (batches e.settings.batchSize records) maxWorkers e.scratch cancelled
        found) :
      SelectEnds e s records maxWorkers cancelled (found.map fun buffers =>
        buffers.flatten.filterMap fun i => records.toArray[i]?)

/-- How a filter on records can end. -/
def FilterEnds (e : Engine M) (k : M.Kind) (records : List (M.Item k)) (f : Filter)
    (maxWorkers : Nat) (cancelled : Bool) (a : Answer (List (M.Item k))) : Prop :=
  match e.selection k f with
  | (.error fault, _) => a = .error fault
  | (.ok s, e) => e.SelectEnds s records maxWorkers cancelled a

end Engine

end FieldQuery

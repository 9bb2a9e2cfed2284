import FieldQuery.Record.Batch

/-!
# Workers

Batches can be worked on by several workers at once. A dispatcher puts the numbers of the batches
into a queue with room for as many as there are workers; workers take turns at the queue, and what
they make of a batch arrives in any order. The first failure raises a flag, and so may the caller:
the dispatcher stops when it sees the flag, and a worker that sees it may give its batch up. A step
is what one party does at once, so a run of steps is one interleaving of them all.
-/
namespace FieldQuery

inductive WorkerState (β : Type) where
  | waiting
  /-- First in line at the queue; there is room for one only. -/
  | receiving
  | working (batch : Nat)
  | reporting (batch : Nat) (result : Answer β)
  | gone

inductive DispatcherState where
  | checking
  /-- Saw no flag, and waits for room in the queue. -/
  | sending
  | stopped
deriving DecidableEq, Repr

structure WorkerPool (β : Type) where
  workers : List (WorkerState β)
  dispatcher : DispatcherState := .checking
  /-- How many batches have been put into the queue. -/
  dispatched : Nat := 0
  queue : List Nat := []
  callerCancelled : Bool := false
  failed : Bool := false
  /-- Results that are still to be collected. -/
  arrived : List (Nat × Answer β) := []
  collected : List (Nat × Answer β) := []
  outcome : Option (Answer (List β)) := none

namespace WorkerPool

variable {β : Type}

def flag (p : WorkerPool β) : Bool := p.callerCancelled || p.failed

/-- At least one worker, and no more than there are batches. -/
def start (maxWorkers count : Nat) : WorkerPool β :=
  { workers := List.replicate (min (max maxWorkers 1) count) .waiting }

def isCancelled : QueryFault → Bool
  | .cancelled => true
  | _ => false

/-- The failure that is reported: the first one, but a cause rather than a cancellation. -/
def keep (kept : Option QueryFault) : Nat × Answer β → Option QueryFault
  | (_, .ok _) => kept
  | (_, .error fault) =>
    match kept with
    | none => some fault
    | some first => if isCancelled first && !isCancelled fault then some fault else some first

/-- What the last result of a batch holds. -/
def resultOf (batch : Nat) (results : List (Nat × Answer β)) : Answer β :=
  match results.reverse.find? (·.1 = batch) with
  | some (_, .ok b) => .ok b
  | _ => .error .cancelled

/-- What collected results come to. A batch without a result counts as cancelled. -/
def total (count : Nat) (results : List (Nat × Answer β)) : Answer (List β) :=
  match results.foldl keep none with
  | some fault => .error fault
  | none => (List.range count).mapM (resultOf · results)

/-- One step of one party, where `made` holds what work makes of each batch undisturbed. -/
inductive Step (made : List (Answer β)) : WorkerPool β → WorkerPool β → Prop where
  | proceed {p : WorkerPool β} (checking : p.dispatcher = .checking) (down : p.flag = false)
      (more : p.dispatched < made.length) : Step made p { p with dispatcher := .sending }
  | send {p : WorkerPool β} (sending : p.dispatcher = .sending)
      (room : p.queue.length < p.workers.length) :
      Step made p { p with
        dispatcher := .checking
        dispatched := p.dispatched + 1
        queue := p.queue ++ [p.dispatched] }
  | stop {p : WorkerPool β} (checking : p.dispatcher = .checking)
      (done : p.flag = true ∨ p.dispatched = made.length) :
      Step made p { p with dispatcher := .stopped }
  | lineUp {p : WorkerPool β} {i : Nat} (waiting : p.workers[i]? = some .waiting)
      (free : ∀ w ∈ p.workers, w ≠ .receiving) :
      Step made p { p with workers := p.workers.set i .receiving }
  | take {p : WorkerPool β} {i k : Nat} {rest : List Nat}
      (receiving : p.workers[i]? = some .receiving) (next : p.queue = k :: rest) :
      Step made p { p with workers := p.workers.set i (.working k), queue := rest }
  | leave {p : WorkerPool β} {i : Nat} (receiving : p.workers[i]? = some .receiving)
      (empty : p.queue = []) (stopped : p.dispatcher = .stopped) :
      Step made p { p with workers := p.workers.set i .gone }
  | finish {p : WorkerPool β} {i k : Nat} {r : Answer β}
      (working : p.workers[i]? = some (.working k)) (result : made[k]? = some r) :
      Step made p { p with
        workers := p.workers.set i (.reporting k r)
        failed := p.failed || !r.isOk }
  | giveUp {p : WorkerPool β} {i k : Nat} (working : p.workers[i]? = some (.working k))
      (up : p.flag = true) :
      Step made p { p with
        workers := p.workers.set i (.reporting k (.error .cancelled))
        failed := true }
  | report {p : WorkerPool β} {i k : Nat} {r : Answer β}
      (reporting : p.workers[i]? = some (.reporting k r)) :
      Step made p { p with
        workers := p.workers.set i .waiting
        arrived := p.arrived ++ [(k, r)] }
  | collect {p : WorkerPool β} {r : Nat × Answer β} {rest : List (Nat × Answer β)}
      (stopped : p.dispatcher = .stopped) (next : p.arrived = r :: rest) :
      Step made p { p with arrived := rest, collected := p.collected ++ [r] }
  | finishAll {p : WorkerPool β} (stopped : p.dispatcher = .stopped)
      (allGone : ∀ w ∈ p.workers, w = .gone) (empty : p.arrived = []) (running : p.outcome = none) :
      Step made p { p with outcome := some (total made.length p.collected) }

/-- The states that a run can come to; the caller may cancel at any moment. -/
inductive Reachable (made : List (Answer β)) (maxWorkers : Nat) : WorkerPool β → Prop where
  | start : Reachable made maxWorkers (WorkerPool.start maxWorkers made.length)
  | step {p q : WorkerPool β} (reached : Reachable made maxWorkers p) (s : Step made p q) :
      Reachable made maxWorkers q
  | cancel {p : WorkerPool β} (reached : Reachable made maxWorkers p) :
      Reachable made maxWorkers { p with callerCancelled := true }

/-- How work on batches can end, and whether the caller cancelled. No batch needs no work, and a
single one no workers. -/
inductive Ends (made : List (Answer β)) (maxWorkers : Nat) :
    Bool → Answer (List β) → Prop where
  | nothing {cancelled : Bool} (empty : made = []) : Ends made maxWorkers cancelled (.ok [])
  | single {cancelled : Bool} {r : Answer β} (one : made = [r]) :
      Ends made maxWorkers cancelled (r.map ([·]))
  | singleCancelled {r : Answer β} (one : made = [r]) :
      Ends made maxWorkers true (.error .cancelled)
  | pool {p : WorkerPool β} {a : Answer (List β)} (several : 2 ≤ made.length)
      (reached : Reachable made maxWorkers p) (ended : p.outcome = some a) :
      Ends made maxWorkers p.callerCancelled a

/-- The batch that a worker takes when it turns from one state to another. -/
def taken? : Option (WorkerState β) → Option (WorkerState β) → Option Nat
  | some .receiving, some (.working k) => some k
  | _, _ => none

/-- The batch that a worker is done with, one way or another, when it turns from one state to
another. -/
def handled? : Option (WorkerState β) → Option (WorkerState β) → Option Nat
  | some (.working _), some (.reporting k _) => some k
  | _, _ => none

/-- The workers to which something happens from one moment to another, each with what it is. -/
def turns (happens : Option (WorkerState β) → Option (WorkerState β) → Option Nat)
    (p q : WorkerPool β) : List (Nat × Nat) :=
  (List.range p.workers.length).filterMap fun i =>
    (happens p.workers[i]? q.workers[i]?).map (i, ·)

/-- What has been seen of a run: the batches in the order in which they were put into the queue, and
which worker took which batch out of it, and was done with which, one after the other. -/
structure Log where
  sent : List Nat := []
  taken : List (Nat × Nat) := []
  handled : List (Nat × Nat) := []

/-- What is seen from one moment to the next comes last. -/
def Log.extend (log : Log) (p q : WorkerPool β) : Log where
  sent := log.sent ++ q.queue.drop p.queue.length
  taken := log.taken ++ turns taken? p q
  handled := log.handled ++ turns handled? p q

/-- A state that a run can come to, with what has been seen of the run. -/
inductive Logged (made : List (Answer β)) (maxWorkers : Nat) : WorkerPool β → Log → Prop where
  | start : Logged made maxWorkers (WorkerPool.start maxWorkers made.length) {}
  | step {p q : WorkerPool β} {log : Log} (before : Logged made maxWorkers p log)
      (s : Step made p q) : Logged made maxWorkers q (log.extend p q)
  | cancel {p : WorkerPool β} {log : Log} (before : Logged made maxWorkers p log) :
      Logged made maxWorkers { p with callerCancelled := true } log

/-- A step never adds workers or takes any away. -/
theorem Step.workers_length {made : List (Answer β)} {p q : WorkerPool β} (s : Step made p q) :
    q.workers.length = p.workers.length := by
  cases s <;> simp

theorem Reachable.workers_length {made : List (Answer β)} {maxWorkers : Nat} {p : WorkerPool β}
    (h : Reachable made maxWorkers p) : p.workers.length = min (max maxWorkers 1) made.length := by
  induction h with
  | start => simp [WorkerPool.start]
  | step _ s ih => rw [s.workers_length, ih]
  | cancel _ ih => exact ih

end WorkerPool

end FieldQuery

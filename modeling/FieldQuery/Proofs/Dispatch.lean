import FieldQuery.Proofs.Batches
import FieldQuery.Proofs.Progress

/-!
# How batches are handed out

Batches go into the queue in their order, each once, and leave it in the same order. Every batch
that left it is with one worker, or that worker is done with it and has one result for it. As long
as there is no outcome somebody can move. Main statement: `batches_handed_out_once`.
-/
namespace FieldQuery

namespace WorkerPool

variable {β : Type} {made : List (Answer β)} {maxWorkers : Nat} {p q : WorkerPool β} {log : Log}

def working? : WorkerState β → Option Nat
  | .working k => some k
  | _ => none

/-- The batch that a worker has a result for. -/
def reporting? : WorkerState β → Option Nat
  | .reporting k _ => some k
  | _ => none

section Turn

variable {i : Nat} {old new : WorkerState β}

theorem filterMap_range_single {α : Type} {f : Nat → Option α} {n : Nat} (inside : i < n)
    (others : ∀ j, j ≠ i → f j = none) : (List.range n).filterMap f = (f i).toList := by
  induction n with
  | zero => exact absurd inside (Nat.not_lt_zero i)
  | succ n ih =>
    rw [List.range_succ, List.filterMap_append]
    by_cases last : i = n
    · subst last
      have before : (List.range i).filterMap f = [] :=
        List.filterMap_eq_nil_iff.mpr fun j mem => others j (Nat.ne_of_lt (List.mem_range.mp mem))
      rw [before, List.nil_append]
      cases here : f i <;> simp [here]
    · rw [ih (by omega), List.filterMap_cons_none (others n (Ne.symm last))]
      exact List.append_nil _

/-- Nothing is seen of workers that stay as they are. -/
theorem turns_same {happens : Option (WorkerState β) → Option (WorkerState β) → Option Nat}
    (still : ∀ w, happens w w = none) (same : q.workers = p.workers) :
    turns happens p q = [] := by
  refine List.filterMap_eq_nil_iff.mpr fun j _ => ?_
  rw [same, still]
  rfl

/-- When one worker turns to something else, nothing is seen of the others. -/
theorem turns_set {happens : Option (WorkerState β) → Option (WorkerState β) → Option Nat}
    (still : ∀ w, happens w w = none) (there : p.workers[i]? = some old)
    (turned : q.workers = p.workers.set i new) :
    turns happens p q = ((happens (some old) (some new)).map (i, ·)).toList := by
  have inside := (List.getElem?_eq_some_iff.mp there).1
  unfold turns
  rw [filterMap_range_single inside, there, turned, List.getElem?_set_self inside]
  intro j other
  rw [turned, List.getElem?_set_ne other.symm, still]
  rfl

theorem taken?_self (w : Option (WorkerState β)) : taken? w w = none := by
  rcases w with - | - | - | - | - | - <;> rfl

theorem handled?_self (w : Option (WorkerState β)) : handled? w w = none := by
  rcases w with - | - | - | - | - | - <;> rfl

theorem extend_same (same : q.workers = p.workers) :
    log.extend p q = { log with sent := log.sent ++ q.queue.drop p.queue.length } := by
  unfold Log.extend
  rw [turns_same taken?_self same, turns_same handled?_self same, List.append_nil,
    List.append_nil]

theorem extend_set (there : p.workers[i]? = some old) (turned : q.workers = p.workers.set i new)
    (nothing : q.queue.length ≤ p.queue.length) :
    log.extend p q = { log with
      taken := log.taken ++ ((taken? (some old) (some new)).map (i, ·)).toList
      handled := log.handled ++ ((handled? (some old) (some new)).map (i, ·)).toList } := by
  unfold Log.extend
  rw [turns_set taken?_self there turned, turns_set handled?_self there turned,
    List.drop_eq_nil_of_le nothing, List.append_nil]

theorem count_filterMap_cons {α : Type} (f : α → Option Nat) (a : α) (rest : List α) (k : Nat) :
    ((a :: rest).filterMap f).count k = (f a).toList.count k + (rest.filterMap f).count k := by
  rw [← List.count_append]
  cases here : f a <;> simp [here]

/-- What is gathered from workers changes by what one of them has before and after. -/
theorem count_filterMap_set {α : Type} (f : α → Option Nat) {l : List α} {old : α}
    (there : l[i]? = some old) (new : α) (k : Nat) :
    ((l.set i new).filterMap f).count k + (f old).toList.count k =
      (l.filterMap f).count k + (f new).toList.count k := by
  induction l generalizing i with
  | nil => cases there
  | cons a rest ih =>
    rw [count_filterMap_cons]
    cases i with
    | zero =>
      cases there
      rw [List.set_cons_zero, count_filterMap_cons]
      omega
    | succ i =>
      have later := ih there
      rw [List.set_cons_succ, count_filterMap_cons]
      omega

end Turn

/-- What has been seen of a run, given where the batches are. -/
structure Log.Tells (log : Log) (p : WorkerPool β) : Prop where
  sent : log.sent = List.range p.dispatched
  queued : log.taken.map (·.2) ++ p.queue = log.sent
  busy : ∀ i k, p.workers[i]? = some (.working k) → (i, k) ∈ log.taken
  own : ∀ x ∈ log.handled, x ∈ log.taken
  inHand : ∀ k, (log.handled.map (·.2)).count k + (p.workers.filterMap working?).count k =
    (log.taken.map (·.2)).count k
  results : ∀ k, (p.workers.filterMap reporting?).count k +
    ((p.arrived ++ p.collected).map (·.1)).count k = (log.handled.map (·.2)).count k

namespace Log.Tells

theorem initially : Tells {} (WorkerPool.start maxWorkers made.length : WorkerPool β) := by
  have waiting {w : WorkerState β} (mem : w ∈ (start maxWorkers made.length).workers) :
      w = .waiting := List.eq_of_mem_replicate mem
  have idle : (start maxWorkers made.length : WorkerPool β).workers.filterMap working? = [] :=
    List.filterMap_eq_nil_iff.mpr fun w mem => by rw [waiting mem]; rfl
  have silent : (start maxWorkers made.length : WorkerPool β).workers.filterMap reporting? = [] :=
    List.filterMap_eq_nil_iff.mpr fun w mem => by rw [waiting mem]; rfl
  exact {
    sent := rfl
    queued := rfl
    busy := fun i k h => nomatch waiting (List.mem_of_getElem? h)
    own := nofun
    inHand := fun k => by rw [idle]; rfl
    results := fun k => by rw [silent]; rfl }

/-- Nothing is seen where no batch goes in, no worker moves and no result comes or goes. -/
theorem quiet (h : log.Tells p) (same : q.workers = p.workers) (queue : q.queue = p.queue)
    (dispatched : q.dispatched = p.dispatched)
    (results : ((q.arrived ++ q.collected).map (·.1)).Perm ((p.arrived ++ p.collected).map (·.1))) :
    (log.extend p q).Tells q := by
  rw [extend_same same, queue, List.drop_length, List.append_nil]
  exact {
    sent := dispatched ▸ h.sent
    queued := queue ▸ h.queued
    busy := same ▸ h.busy
    own := h.own
    inHand := same ▸ h.inHand
    results := fun k => by rw [same, results.count_eq, h.results] }

/-- The next batch goes into the queue. -/
theorem send (h : log.Tells p) (same : q.workers = p.workers)
    (queue : q.queue = p.queue ++ [p.dispatched]) (dispatched : q.dispatched = p.dispatched + 1)
    (arrived : q.arrived = p.arrived) (collected : q.collected = p.collected) :
    (log.extend p q).Tells q := by
  rw [extend_same same, queue, List.drop_left]
  exact {
    sent := by rw [dispatched, List.range_succ, h.sent]
    queued := by rw [queue, ← List.append_assoc, h.queued]
    busy := same ▸ h.busy
    own := h.own
    inHand := same ▸ h.inHand
    results := by rw [same, arrived, collected]; exact h.results }

/-- A worker turns to something else. What it takes comes from the head of the queue, what it has in
hand it took, and what it is done with it has a result for. -/
theorem turn {i : Nat} {old new : WorkerState β} (h : log.Tells p)
    (there : p.workers[i]? = some old) (turned : q.workers = p.workers.set i new)
    (dispatched : q.dispatched = p.dispatched)
    (queue : (taken? (some old) (some new)).toList ++ q.queue = p.queue)
    (carried : ∀ k, new = .working k → taken? (some old) (some new) = some k)
    (own : ∀ k, handled? (some old) (some new) = some k → old = .working k)
    (hand : ∀ k, (handled? (some old) (some new)).toList.count k + (working? new).toList.count k =
      (working? old).toList.count k + (taken? (some old) (some new)).toList.count k)
    (results : ∀ k,
      (reporting? new).toList.count k + ((q.arrived ++ q.collected).map (·.1)).count k =
        (reporting? old).toList.count k + ((p.arrived ++ p.collected).map (·.1)).count k +
          (handled? (some old) (some new)).toList.count k) :
    (log.extend p q).Tells q := by
  have shorter : q.queue.length ≤ p.queue.length := by
    rw [← queue, List.length_append]
    exact Nat.le_add_left _ _
  have batches (o : Option Nat) : (o.map (i, ·)).toList.map (·.2) = o.toList := by
    cases o <;> rfl
  have grown (l : List (Nat × Nat)) (o : Option Nat) (k : Nat) :
      ((l ++ (o.map (i, ·)).toList).map (·.2)).count k =
        (l.map (·.2)).count k + o.toList.count k := by
    rw [List.map_append, batches, List.count_append]
  rw [extend_set there turned shorter]
  refine ⟨dispatched ▸ h.sent, ?_, ?_, ?_, fun k => ?_, fun k => ?_⟩
  · rw [List.map_append, batches, List.append_assoc, queue, h.queued]
  · intro j k working
    rw [turned] at working
    by_cases here : i = j
    · subst here
      rw [List.getElem?_set_self (List.getElem?_eq_some_iff.mp there).1] at working
      rw [carried k (Option.some.inj working)]
      exact List.mem_concat_self
    · rw [List.getElem?_set_ne here] at working
      exact List.mem_append_left _ (h.busy j k working)
  · intro x mem
    rcases List.mem_append.mp mem with before | now
    · exact List.mem_append_left _ (h.own x before)
    · refine List.mem_append_left _ ?_
      cases was : handled? (some old) (some new) with
      | none =>
        rw [was] at now
        cases now
      | some k =>
        rw [was] at now
        cases List.mem_singleton.mp now
        exact h.busy i k (own k was ▸ there)
  · have moved := count_filterMap_set working? there new k
    have before := h.inHand k
    have same := hand k
    rw [grown, grown, turned]
    omega
  · have moved := count_filterMap_set reporting? there new k
    have before := h.results k
    have same := results k
    rw [grown, turned]
    omega

end Log.Tells

/-- What is seen of a step adds up with what was seen before. -/
theorem Step.tells (step : Step made p q) (h : log.Tells p) : (log.extend p q).Tells q := by
  cases step with
  | proceed checking down more => exact h.quiet rfl rfl rfl (.refl _)
  | send sending room => exact h.send rfl rfl rfl rfl rfl
  | stop checking done => exact h.quiet rfl rfl rfl (.refl _)
  | lineUp waiting free =>
    exact h.turn waiting rfl rfl rfl nofun nofun (fun _ => rfl) (fun _ => rfl)
  | take receiving next =>
    exact h.turn receiving rfl rfl next.symm (fun _ now => by cases now; rfl) nofun (fun _ => rfl)
      (fun _ => rfl)
  | leave receiving empty stopped =>
    exact h.turn receiving rfl rfl rfl nofun nofun (fun _ => rfl) (fun _ => rfl)
  | finish working result =>
    exact h.turn working rfl rfl rfl nofun (fun _ now => by cases now; rfl) (fun _ => rfl)
      (fun _ => by simp [reporting?, handled?, Nat.add_comm])
  | giveUp working up =>
    exact h.turn working rfl rfl rfl nofun (fun _ now => by cases now; rfl) (fun _ => rfl)
      (fun _ => by simp [reporting?, handled?, Nat.add_comm])
  | report reporting =>
    refine h.turn reporting rfl rfl rfl nofun nofun (fun _ => rfl) (fun _ => ?_)
    simp only [reporting?, handled?, Option.toList, List.append_assoc, List.map_append,
      List.map_cons, List.map_nil, List.count_append, List.count_nil]
    omega
  | @collect r rest stopped next =>
    refine h.quiet rfl rfl rfl (.map _ ?_)
    rw [next, ← List.append_assoc]
    exact List.perm_append_singleton r (rest ++ p.collected)
  | finishAll stopped allGone empty running => exact h.quiet rfl rfl rfl (.refl _)

theorem Logged.tells (h : Logged made maxWorkers p log) : log.Tells p := by
  induction h with
  | start => exact Log.Tells.initially
  | step _ s ih => exact s.tells ih
  | cancel _ ih => exact { ih with }

/-- Of every run something is seen. -/
theorem Reachable.logged (h : Reachable made maxWorkers p) :
    ∃ log, Logged made maxWorkers p log := by
  induction h with
  | start => exact ⟨_, .start⟩
  | step _ s ih =>
    obtain ⟨log, before⟩ := ih
    exact ⟨_, before.step s⟩
  | cancel _ ih =>
    obtain ⟨log, before⟩ := ih
    exact ⟨log, before.cancel⟩

namespace Log.Tells

/-- A batch leaves the queue once, after it was put there. -/
theorem taken_once (h : log.Tells p) : (log.taken.map (·.2)).Nodup := by
  have all : (log.taken.map (·.2) ++ p.queue).Nodup := by
    rw [h.queued, h.sent]
    exact List.nodup_range
  exact all.of_append_left

theorem sent_of_taken (h : log.Tells p) {x : Nat × Nat} (mem : x ∈ log.taken) :
    x.2 ∈ log.sent := by
  rw [← h.queued]
  exact List.mem_append_left _ (List.mem_map_of_mem mem)

/-- A worker is done with a batch once. -/
theorem handled_once (h : log.Tells p) : (log.handled.map (·.2)).Nodup := by
  refine List.nodup_iff_count_le_one.mpr fun k => ?_
  have once := List.nodup_iff_count_le_one.mp h.taken_once k
  have balance := h.inHand k
  omega

/-- A batch has one result on its way or collected. -/
theorem results_once (h : log.Tells p) : ((p.arrived ++ p.collected).map (·.1)).Nodup := by
  refine List.nodup_iff_count_le_one.mpr fun k => ?_
  have once := List.nodup_iff_count_le_one.mp h.handled_once k
  have balance := h.results k
  omega

/-- What is collected comes from a worker that is done with it. -/
theorem handled_of_result (h : log.Tells p) {k : Nat} {r : Answer β}
    (mem : (k, r) ∈ p.arrived ++ p.collected) : ∃ i, (i, k) ∈ log.handled := by
  have here : k ∈ (p.arrived ++ p.collected).map (·.1) := List.mem_map_of_mem mem
  have positive := List.count_pos_iff.mpr here
  have balance := h.results k
  have done : k ∈ log.handled.map (·.2) := List.count_pos_iff.mp (by omega)
  obtain ⟨⟨i, _⟩, there, rfl⟩ := List.mem_map.mp done
  exact ⟨i, there⟩

end Log.Tells

/-- Each batch that is worked on is in the hand of a worker. -/
theorem Reachable.working_le (reached : Reachable made maxWorkers p) :
    (p.workers.filterMap working?).length ≤ max 1 maxWorkers := by
  have most := List.length_filterMap_le working? p.workers
  have workers := reached.workers_length
  omega

end WorkerPool

open WorkerPool in
/-- Work on the batches of a list, at any moment of any run, whichever batches fail and whenever the
caller cancels. As long as there is no outcome somebody can move. No more batches are worked on at
once than there may be workers. What has been sent is the first batches in their order; no batch is
taken twice, whichever worker takes it, and of none is there a second result. -/
theorem batches_handed_out_once {α β : Type} (items : List α) (size maxWorkers : Nat)
    (work : Nat → List α → Answer β) {p : WorkerPool β}
    (reached : Reachable ((batches size items).map fun b => work b.1 b.2) maxWorkers p) :
    (p.outcome = none → ∃ q, Step ((batches size items).map fun b => work b.1 b.2) p q) ∧
    (p.workers.filterMap working?).length ≤ max 1 maxWorkers ∧
    (∃ log, Logged ((batches size items).map fun b => work b.1 b.2) maxWorkers p log) ∧
    ∀ log, Logged ((batches size items).map fun b => work b.1 b.2) maxWorkers p log →
      (log.sent = List.range p.dispatched ∧ p.dispatched ≤ (batches size items).length) ∧
      ((∀ x ∈ log.taken, x.2 ∈ log.sent) ∧ (log.taken.map (·.2)).Nodup) ∧
      ((∀ x ∈ log.handled, x ∈ log.taken) ∧ (log.handled.map (·.2)).Nodup) ∧
      (∀ k r, (k, r) ∈ p.arrived ++ p.collected → ∃ i, (i, k) ∈ log.handled) ∧
      ((p.arrived ++ p.collected).map (·.1)).Nodup := by
  refine ⟨reached.progress, reached.working_le, reached.logged, fun log seen => ?_⟩
  have tells := seen.tells
  have inRange := reached.inRange.dispatched
  rw [List.length_map] at inRange
  exact ⟨⟨tells.sent, inRange⟩, ⟨fun _ => tells.sent_of_taken, tells.taken_once⟩,
    ⟨tells.own, tells.handled_once⟩, fun _ _ => tells.handled_of_result, tells.results_once⟩

namespace Sample

open WorkerPool

/-- Both batches are out of the queue, and nothing more will come. -/
def bothTaken : WorkerPool Nat :=
  { workers := [.working 1, .working 0], dispatcher := .stopped, dispatched := 2 }

/-- The second worker is the first at the queue. -/
theorem reachable_bothTaken :
    Reachable ((batches 0 [7, 42]).map fun b => firstOnly b.1 b.2) 2 bothTaken := by
  rw [batches_pair]
  have r : Reachable [.ok 1, .error late] 2 (WorkerPool.start 2 2) := .start
  have r := r.step (.proceed rfl rfl (by decide))
  have r := r.step (.send rfl (by decide))
  have r := r.step (.lineUp (i := 1) rfl (by simp [WorkerPool.start]))
  have r := r.step (.proceed rfl rfl (by decide))
  have r := r.step (.take (i := 1) rfl rfl)
  have r := r.step (.send rfl (by decide))
  have r := r.step (.lineUp (i := 0) rfl (by simp [WorkerPool.start]))
  have r := r.step (.stop rfl (.inr rfl))
  exact r.step (.take (i := 0) rfl rfl)

end Sample

open Sample WorkerPool in
theorem batches_handed_out_once_bothTaken :
    Reachable ((batches 0 [7, 42]).map fun b => firstOnly b.1 b.2) 2 bothTaken ∧
    (∃ q, Step ((batches 0 [7, 42]).map fun b => firstOnly b.1 b.2) bothTaken q) ∧
    ∃ log, Logged ((batches 0 [7, 42]).map fun b => firstOnly b.1 b.2) 2 bothTaken log ∧
      log.sent = [0, 1] ∧ (log.taken.map (·.2)).Nodup := by
  obtain ⟨moves, -, ⟨log, seen⟩, each⟩ :=
    batches_handed_out_once [7, 42] 0 2 firstOnly reachable_bothTaken
  obtain ⟨⟨sent, -⟩, ⟨-, taken⟩, -⟩ := each log seen
  exact ⟨reachable_bothTaken, moves rfl, log, seen, sent, taken⟩

end FieldQuery

import FieldQuery.Proofs.Batches
import FieldQuery.Proofs.Remembering
import FieldQuery.Record.Search

/-!
# Searches

Whoever reads a batch is at every moment on the way to the positions that the batch yields, so that
a search goes through the states of a worker pool and ends as that does.
-/
namespace FieldQuery

open Engine (positionsOf)

variable {R : Type} {s : Selection R}

namespace Selection

theorem hits_cons_ok {r : R} {hit : Bool} (judged : s.accepts r = .ok hit) (i : Nat)
    (rest : List R) : s.hits i (r :: rest) =
      (s.hits (i + 1) rest).map fun more => if hit then i :: more else more := by
  rw [hits, judged]
  cases s.hits (i + 1) rest <;> rfl

theorem hits_cons_error {r : R} {fault : QueryFault} (judged : s.accepts r = .error fault) (i : Nat)
    (rest : List R) : s.hits i (r :: rest) = .error (.atItem i fault) := by
  rw [hits, judged]
  rfl

end Selection

namespace Hand

variable {raised : Bool} {h h' : Hand R} {p p' : ScratchPool} {yield : Answer Buffer}

/-- What is held leads to what the batch yields, or to a cancellation once the flag is raised. -/
def LeadsTo (s : Selection R) (raised : Bool) (yield : Answer Buffer) : Hand R → Prop
  | reading found position rest => yield = (s.hits position rest).map (found ++ ·)
  | done r => r = yield ∨ r = .error .cancelled ∧ raised = true

theorem leadsTo_start {found : Buffer} (empty : found = []) (batch : Nat × List R) :
    (start found batch).LeadsTo s raised (positionsOf s batch) := by
  subst empty
  change positionsOf s batch = (s.hits batch.1 batch.2).map fun more => more
  unfold positionsOf
  cases s.hits batch.1 batch.2 <;> rfl

theorem LeadsTo.raise {raised' : Bool} (lead : h.LeadsTo s raised yield)
    (up : raised = true → raised' = true) : h.LeadsTo s raised' yield := by
  cases h with
  | reading found position rest => exact lead
  | done r => exact lead.imp id fun gaveUp => ⟨gaveUp.1, up gaveUp.2⟩

theorem LeadsTo.step (lead : h.LeadsTo s raised yield) (step : Step s raised (h, p) (h', p')) :
    h'.LeadsTo s raised yield := by
  cases step with
  | @read found position r rest hit _ judged =>
    refine lead.trans ?_
    rw [Selection.hits_cons_ok judged]
    cases s.hits (position + 1) rest with
    | error fault => rfl
    | ok more =>
      cases hit with
      | false => rfl
      | true => exact congrArg Except.ok (List.append_assoc found [position] more).symm
  | fail judged =>
    refine .inl (lead.trans ?_).symm
    rw [Selection.hits_cons_error judged]
    rfl
  | giveUp up => exact .inr ⟨rfl, up⟩
  | finish =>
    refine .inl (lead.trans ?_).symm
    exact congrArg Except.ok (List.append_nil _)

theorem Step.tidy (step : Step s raised (h, p) (h', p')) (tidy : p.Tidy) : p'.Tidy := by
  cases step with
  | read => exact tidy
  | fail => exact tidy.release _
  | giveUp => exact tidy.release _
  | finish => exact tidy

theorem Alone.leadsTo {batch : Nat × List R} {x : Hand R × ScratchPool} {cancelled : Bool}
    (reached : Alone s batch p x cancelled) (tidy : p.Tidy) :
    x.1.LeadsTo s cancelled (positionsOf s batch) ∧ x.2.Tidy := by
  induction reached with
  | start => exact ⟨leadsTo_start tidy.acquire.1 batch, tidy.acquire.2⟩
  | step _ step ih => exact ⟨ih.1.step step, step.tidy ih.2⟩
  | cancel _ ih => exact ⟨ih.1.raise fun _ => rfl, ih.2⟩
  | lend _ ih => exact ⟨ih.1, ih.2.acquire.2⟩
  | giveBack _ b ih => exact ⟨ih.1, ih.2.release b⟩

end Hand

namespace WorkerPool

variable {β : Type} {made made' : List (Answer β)} {p q : WorkerPool β}

theorem getElem?_set_of_there {l : List (WorkerState β)} {i : Nat} {old : WorkerState β}
    (there : l[i]? = some old) (w : WorkerState β) : (l.set i w)[i]? = some w :=
  List.getElem?_set_self (List.getElem?_eq_some_iff.mp there).1

/-- What batches yield plays no part in a step that ends no work. -/
theorem Step.of_busy (step : Step made p q) (count : made.length = made'.length)
    (busy : ∀ (i k : Nat), p.workers[i]? = some (.working k) → q.workers[i]? = some (.working k)) :
    Step made' p q := by
  cases step with
  | proceed checking down more => exact .proceed checking down (count ▸ more)
  | send sending room => exact .send sending room
  | stop checking done => exact .stop checking (count ▸ done)
  | lineUp waiting free => exact .lineUp waiting free
  | take receiving next => exact .take receiving next
  | leave receiving empty stopped => exact .leave receiving empty stopped
  | finish working result =>
    cases (getElem?_set_of_there working _).symm.trans (busy _ _ working)
  | giveUp working up =>
    cases (getElem?_set_of_there working _).symm.trans (busy _ _ working)
  | report reporting => exact .report reporting
  | collect stopped next => exact .collect stopped next
  | finishAll stopped allGone empty running =>
    exact count ▸ .finishAll stopped allGone empty running

/-- A raised flag stays up. -/
theorem Step.flag_mono (step : Step made p q) (up : p.flag = true) : q.flag = true := by
  cases step with
  | finish =>
    refine flag_iff.mpr ((flag_iff.mp up).imp id fun failed => ?_)
    exact (congrArg (· || _) failed).trans (Bool.true_or _)
  | giveUp => exact flag_iff.mpr (.inr rfl)
  | _ => exact up

/-- Only the caller cancels for the caller. -/
theorem Step.callerCancelled (step : Step made p q) : q.callerCancelled = p.callerCancelled := by
  cases step <;> rfl

end WorkerPool

namespace Search

variable {bs : List (Nat × List R)} {maxWorkers : Nat} {scratch : ScratchPool} {x y : Search R}

theorem hands_hold (x : Search R) (i : Nat) (h : Option (Hand R)) : (x.hold i h).hands i = h :=
  if_pos rfl

theorem hands_hold_of_ne (x : Search R) {i j : Nat} (other : j ≠ i) (h : Option (Hand R)) :
    (x.hold i h).hands j = x.hands j := if_neg other

/-- What holds of a search at every moment: its pool is one that works on whole batches, and who
holds something works on the batch that it leads to. -/
structure Follows (s : Selection R) (bs : List (Nat × List R)) (maxWorkers : Nat) (x : Search R) :
    Prop where
  pool : WorkerPool.Reachable (bs.map (positionsOf s)) maxWorkers x.pool
  tidy : x.scratch.Tidy
  hands : ∀ i h, x.hands i = some h → ∃ k batch, x.pool.workers[i]? = some (.working k) ∧
    bs[k]? = some batch ∧ h.LeadsTo s x.pool.flag (positionsOf s batch)

theorem Follows.start (tidy : scratch.Tidy) :
    Follows s bs maxWorkers (.start maxWorkers bs.length scratch) where
  pool := by
    have run : WorkerPool.Reachable (bs.map (positionsOf s)) maxWorkers _ := .start
    rwa [List.length_map] at run
  tidy := tidy
  hands _ _ none := nomatch none

/-- To settle a result is to end the work on a batch. -/
theorem Follows.settle (follows : Follows s bs maxWorkers x) {i k : Nat} {r : Answer Buffer}
    (working : x.pool.workers[i]? = some (.working k)) (hand : x.hands i = some (.done r)) :
    WorkerPool.Step (bs.map (positionsOf s)) x.pool { x.pool with
      workers := x.pool.workers.set i (.reporting k r)
      failed := x.pool.failed || !r.isOk } := by
  obtain ⟨k', batch, working', next, lead⟩ := follows.hands i _ hand
  cases working.symm.trans working'
  rcases lead with rfl | ⟨rfl, up⟩
  · exact .finish working (by rw [List.getElem?_map, next]; rfl)
  · have raised : (x.pool.failed || !(Except.error QueryFault.cancelled : Answer Buffer).isOk) =
        true := Bool.or_true _
    rw [raised]
    exact .giveUp working up

theorem Follows.step (follows : Follows s bs maxWorkers x) (step : Step s bs x y) :
    Follows s bs maxWorkers y := by
  obtain ⟨pool, tidy, hands⟩ := follows
  cases step with
  | around count step busy =>
    have step := step.of_busy (count.trans (List.length_map (positionsOf s)).symm) busy
    refine ⟨pool.step step, tidy, fun i h hand => ?_⟩
    obtain ⟨k, batch, working, next, lead⟩ := hands i h hand
    exact ⟨k, batch, busy i k working, next, lead.raise step.flag_mono⟩
  | @begin i k batch working free next =>
    refine ⟨pool, tidy.acquire.2, fun j h held => ?_⟩
    by_cases same : j = i
    · subst same
      rw [hands_hold] at held
      cases held
      exact ⟨k, batch, working, next, Hand.leadsTo_start tidy.acquire.1 batch⟩
    · rw [hands_hold_of_ne _ same] at held
      exact hands j h held
  | @go i h h' scratch hand step =>
    obtain ⟨k, batch, working, next, lead⟩ := hands i h hand
    refine ⟨pool, step.tidy tidy, fun j g held => ?_⟩
    by_cases same : j = i
    · subst same
      rw [hands_hold] at held
      cases held
      exact ⟨k, batch, working, next, lead.step step⟩
    · rw [hands_hold_of_ne _ same] at held
      exact hands j g held
  | @settle i k r working hand =>
    have moved := Follows.settle ⟨pool, tidy, hands⟩ working hand
    refine ⟨pool.step moved, tidy, fun j h held => ?_⟩
    by_cases same : j = i
    · subst same
      rw [hands_hold] at held
      cases held
    · rw [hands_hold_of_ne _ same] at held
      obtain ⟨k', batch, working', next, lead⟩ := hands j h held
      refine ⟨k', batch, ?_, next, lead.raise moved.flag_mono⟩
      exact (List.getElem?_set_ne (Ne.symm same)).trans working'

theorem Reachable.follows (reached : Reachable s bs maxWorkers scratch x) (tidy : scratch.Tidy) :
    Follows s bs maxWorkers x := by
  induction reached with
  | start => exact .start tidy
  | step _ step ih => exact ih.step step
  | cancel _ ih =>
    refine ⟨ih.pool.cancel, ih.tidy, fun i h hand => ?_⟩
    obtain ⟨k, batch, working, next, lead⟩ := ih.hands i h hand
    exact ⟨k, batch, working, next, lead.raise fun _ => rfl⟩
  | lend _ ih => exact ⟨ih.pool, ih.tidy.acquire.2, ih.hands⟩
  | giveBack _ b ih => exact ⟨ih.pool, ih.tidy.release b, ih.hands⟩

/-- A search ends as work on whole batches does. -/
theorem Ends.pool {cancelled : Bool} {a : Answer (List Buffer)}
    (ends : Ends s bs maxWorkers scratch cancelled a) (tidy : scratch.Tidy) :
    WorkerPool.Ends (bs.map (positionsOf s)) maxWorkers cancelled a := by
  cases ends with
  | nothing empty => exact .nothing (congrArg (List.map _) empty)
  | @single batch r after _ one reached =>
    have made : bs.map (positionsOf s) = [positionsOf s batch] := congrArg (List.map _) one
    rcases (reached.leadsTo tidy).1 with rfl | ⟨rfl, rfl⟩
    · exact .single made
    · exact .singleCancelled made
  | several several reached ended =>
    exact .pool (by rwa [List.length_map]) (reached.follows tidy).pool ended

end Search

end FieldQuery

import FieldQuery.Proofs.Searching
import Mathlib.Algebra.BigOperators.Group.Finset.Basic
import Mathlib.Algebra.Order.BigOperators.Group.List
import Mathlib.Algebra.Order.Ring.Nat

/-!
# Searches come to an end

Every step of a search takes off a weight, and unless the outcome is there some step can be taken.
So a search can neither go on for ever nor be stuck. Main statements: `Search.Step.lighter`,
`Search.Follows.progress` and `Search.exists_ends`.
-/
namespace FieldQuery

namespace WorkerPool

variable {β : Type} {made : List (Answer β)} {maxWorkers : Nat} {p q : WorkerPool β}

def workerWeight : WorkerState β → Nat
  | .working _ => 5
  | .reporting _ _ => 4
  | .waiting => 2
  | .receiving => 1
  | .gone => 0

def dispatcherWeight : DispatcherState → Nat
  | .checking => 2
  | .sending => 1
  | .stopped => 0

/-- How many steps are left at most: seven for a batch that is not dispatched, five for one in the
queue, and so on down to the outcome. -/
def weight (count : Nat) (p : WorkerPool β) : Nat :=
  7 * (count - p.dispatched) + 5 * p.queue.length + (p.workers.map workerWeight).sum +
    dispatcherWeight p.dispatcher + p.arrived.length + (if p.outcome.isNone then 1 else 0)

theorem sum_set {α : Type} (f : α → Nat) {l : List α} {i : Nat} {old : α} (there : l[i]? = some old)
    (new : α) : ((l.set i new).map f).sum + f old = (l.map f).sum + f new := by
  induction l generalizing i with
  | nil => cases there
  | cons a rest ih =>
    cases i with
    | zero =>
      cases there
      simp only [List.set_cons_zero, List.map_cons, List.sum_cons]
      omega
    | succ i =>
      have := ih there
      simp only [List.set_cons_succ, List.map_cons, List.sum_cons]
      omega

/-- A step takes off some of the weight. -/
theorem Step.lighter (step : Step made p q) (sound : Sound made p) :
    q.weight made.length < p.weight made.length := by
  cases step with
  | proceed checking down more =>
    simp only [weight, checking, dispatcherWeight]
    omega
  | send sending room =>
    have more := sound.sending sending
    simp only [weight, sending, dispatcherWeight, List.length_append, List.length_singleton]
    omega
  | stop checking done =>
    simp only [weight, checking, dispatcherWeight]
    omega
  | lineUp waiting free =>
    have moved := sum_set workerWeight waiting .receiving
    simp only [weight, workerWeight] at moved ⊢
    omega
  | @take i k rest receiving next =>
    have moved := sum_set workerWeight receiving (.working k)
    simp only [weight, workerWeight, next, List.length_cons] at moved ⊢
    omega
  | leave receiving empty stopped =>
    have moved := sum_set workerWeight receiving .gone
    simp only [weight, workerWeight] at moved ⊢
    omega
  | @finish i k r working result =>
    have moved := sum_set workerWeight working (.reporting k r)
    simp only [weight, workerWeight] at moved ⊢
    omega
  | @giveUp i k working up =>
    have moved := sum_set workerWeight working (.reporting k (.error .cancelled))
    simp only [weight, workerWeight] at moved ⊢
    omega
  | report reporting =>
    have moved := sum_set workerWeight reporting .waiting
    simp only [weight, workerWeight, List.length_append, List.length_singleton] at moved ⊢
    omega
  | collect stopped next =>
    simp only [weight, next, List.length_cons]
    omega
  | finishAll stopped allGone empty running =>
    simp only [weight, running, Option.isNone_none, Option.isNone_some, ↓reduceIte,
      Bool.false_eq_true]
    omega

structure InRange (made : List (Answer β)) (p : WorkerPool β) : Prop where
  dispatched : p.dispatched ≤ made.length
  queue : ∀ k ∈ p.queue, k < made.length
  working : ∀ k, .working k ∈ p.workers → k < made.length

theorem InRange.step (h : InRange made p) (sound : Sound made p) (step : Step made p q) :
    InRange made q := by
  obtain ⟨dispatched, queue, working⟩ := h
  have keep {i : Nat} {w : WorkerState β} (idle : ∀ k, w ≠ .working k) :
      ∀ k, .working k ∈ p.workers.set i w → k < made.length := by
    intro k mem
    rcases List.mem_or_eq_of_mem_set mem with mem | eq
    · exact working k mem
    · exact absurd eq.symm (idle k)
  cases step with
  | send sending room =>
    have more := sound.sending sending
    refine ⟨more, fun k mem => ?_, working⟩
    rcases List.mem_append.mp mem with mem | mem
    · exact queue k mem
    · exact List.mem_singleton.mp mem ▸ more
  | @take i k rest receiving next =>
    rw [next] at queue
    obtain ⟨first, queue⟩ := List.forall_mem_cons.mp queue
    refine ⟨dispatched, queue, fun j mem => ?_⟩
    rcases List.mem_or_eq_of_mem_set mem with mem | eq
    · exact working j mem
    · cases eq
      exact first
  | lineUp => exact ⟨dispatched, queue, keep nofun⟩
  | leave => exact ⟨dispatched, queue, keep nofun⟩
  | finish => exact ⟨dispatched, queue, keep nofun⟩
  | giveUp => exact ⟨dispatched, queue, keep nofun⟩
  | report => exact ⟨dispatched, queue, keep nofun⟩
  | _ => exact ⟨dispatched, queue, working⟩

theorem Reachable.inRange (reached : Reachable made maxWorkers p) : InRange made p := by
  induction reached with
  | start =>
    refine ⟨Nat.zero_le _, nofun, fun k mem => ?_⟩
    cases List.eq_of_mem_replicate mem
  | step reached step ih => exact ih.step reached.sound step
  | cancel _ ih => exact ⟨ih.dispatched, ih.queue, ih.working⟩

/-- If nobody works, a worker that is not gone yet can move, as long as there is something in the
queue or nothing more will come. -/
theorem worker_moves (idle : ∀ k, .working k ∉ p.workers) {w : WorkerState β}
    (mem : w ∈ p.workers) (here : w ≠ .gone)
    (supplied : p.queue ≠ [] ∨ p.dispatcher = .stopped) : ∃ q, Step made p q := by
  by_cases line : .receiving ∈ p.workers
  · obtain ⟨i, receiving⟩ := List.mem_iff_getElem?.mp line
    cases queue : p.queue with
    | nil => exact ⟨_, .leave receiving queue (supplied.resolve_left fun some => some queue)⟩
    | cons k rest => exact ⟨_, .take receiving queue⟩
  · obtain ⟨i, there⟩ := List.mem_iff_getElem?.mp mem
    cases w with
    | waiting => exact ⟨_, .lineUp there fun w mem eq => line (eq ▸ mem)⟩
    | receiving => exact absurd mem line
    | working k => exact absurd mem (idle k)
    | reporting k r => exact ⟨_, .report there⟩
    | gone => exact absurd rfl here

/-- If nobody works and there is no outcome, someone can move. -/
theorem Sound.progress (sound : Sound made p) (range : InRange made p) (workers : p.workers ≠ [])
    (idle : ∀ k, .working k ∉ p.workers) (running : p.outcome = none) : ∃ q, Step made p q := by
  cases dispatcher : p.dispatcher with
  | checking =>
    by_cases more : p.flag = false ∧ p.dispatched < made.length
    · exact ⟨_, .proceed dispatcher more.1 more.2⟩
    · refine ⟨_, .stop dispatcher ?_⟩
      by_cases up : p.flag = true
      · exact .inl up
      · have none := fun less => more ⟨Bool.eq_false_iff.mpr up, less⟩
        exact .inr (Nat.le_antisymm range.dispatched (Nat.le_of_not_lt none))
  | sending =>
    by_cases room : p.queue.length < p.workers.length
    · exact ⟨_, .send dispatcher room⟩
    · obtain ⟨w, mem⟩ := List.exists_mem_of_ne_nil _ workers
      have positive := List.length_pos_of_mem mem
      refine worker_moves idle mem (fun gone => ?_) (.inl fun none => ?_)
      · cases dispatcher.symm.trans (sound.gone (gone ▸ mem)).1
      · rw [none, List.length_nil] at room
        exact room positive
  | stopped =>
    cases arrived : p.arrived with
    | cons r rest => exact ⟨_, .collect dispatcher arrived⟩
    | nil =>
      by_cases allGone : ∀ w ∈ p.workers, w = .gone
      · exact ⟨_, .finishAll dispatcher allGone arrived running⟩
      · push Not at allGone
        obtain ⟨w, mem, here⟩ := allGone
        exact worker_moves idle mem here (.inr dispatcher)

/-- Where there is nobody to work there is nothing to do either. -/
theorem Sound.progress_of_no_workers (sound : Sound made p) (range : InRange made p)
    (workers : p.workers = []) (empty : made = []) (running : p.outcome = none) :
    ∃ q, Step made p q := by
  subst empty
  cases dispatcher : p.dispatcher with
  | checking => exact ⟨_, .stop dispatcher (.inr (Nat.le_zero.mp range.dispatched))⟩
  | sending => exact absurd (sound.sending dispatcher) (Nat.not_lt_zero _)
  | stopped =>
    cases arrived : p.arrived with
    | cons r rest => exact ⟨_, .collect dispatcher arrived⟩
    | nil => exact ⟨_, .finishAll dispatcher (by rw [workers]; exact nofun) arrived running⟩

/-- Unless there is an outcome, somebody can move. -/
theorem Reachable.progress (reached : Reachable made maxWorkers p) (running : p.outcome = none) :
    ∃ q, Step made p q := by
  have range := reached.inRange
  by_cases busy : ∃ k, .working k ∈ p.workers
  · obtain ⟨k, mem⟩ := busy
    obtain ⟨i, working⟩ := List.mem_iff_getElem?.mp mem
    exact ⟨_, .finish working (List.getElem?_eq_getElem (range.working k mem))⟩
  · have idle : ∀ k, .working k ∉ p.workers := fun k mem => busy ⟨k, mem⟩
    by_cases workers : p.workers = []
    · have length := reached.workers_length
      rw [workers, List.length_nil] at length
      have empty : made = [] := List.length_eq_zero_iff.mp (by omega)
      exact reached.sound.progress_of_no_workers range workers empty running
    · exact reached.sound.progress range workers idle running

/-- From every state that a run can come to it can come to an end. -/
theorem Reachable.exists_outcome (reached : Reachable made maxWorkers p) : ∃ q a,
    Reachable made maxWorkers q ∧ q.outcome = some a ∧ q.callerCancelled = p.callerCancelled := by
  induction hw : p.weight made.length using Nat.strongRecOn generalizing p with
  | _ w ih =>
    cases outcome : p.outcome with
    | some a => exact ⟨p, a, reached, outcome, rfl⟩
    | none =>
      obtain ⟨q, step⟩ := reached.progress outcome
      have lighter := step.lighter reached.sound
      obtain ⟨z, a, later, ended, same⟩ := ih _ (hw ▸ lighter) (reached.step step) rfl
      exact ⟨z, a, later, ended, same.trans step.callerCancelled⟩

/-- Work that is not cancelled can end. -/
theorem exists_ends (made : List (Answer β)) (maxWorkers : Nat) :
    ∃ a, Ends made maxWorkers false a := by
  match made with
  | [] => exact ⟨_, .nothing rfl⟩
  | [r] => exact ⟨_, .single rfl⟩
  | first :: second :: rest =>
    have run : Reachable (first :: second :: rest) maxWorkers _ := .start
    obtain ⟨q, a, reached, ended, calm⟩ := run.exists_outcome
    have calm : q.callerCancelled = false := calm
    exact ⟨a, calm ▸ .pool (Nat.le_add_left 2 _) reached ended⟩

end WorkerPool

variable {R : Type} {s : Selection R}

namespace Hand

/-- Whoever still reads a batch can go on. -/
theorem exists_step (raised : Bool) (found : Buffer) (position : Nat) (rest : List R)
    (scratch : ScratchPool) :
    ∃ h after, Step s raised (reading found position rest, scratch) (h, after) := by
  cases rest with
  | nil => exact ⟨_, _, .finish⟩
  | cons r rest =>
    cases judged : s.accepts r with
    | ok hit => exact ⟨_, _, .read judged⟩
    | error fault => exact ⟨_, _, .fail judged⟩

/-- Whoever reads a batch alone can read it to the end. -/
theorem Alone.exists_done {batch : Nat × List R} {scratch : ScratchPool} {found : Buffer}
    {position : Nat} {rest : List R} {p : ScratchPool}
    (reached : Alone s batch scratch (reading found position rest, p) false) :
    ∃ r after, Alone s batch scratch (done r, after) false := by
  induction rest generalizing found position p with
  | nil => exact ⟨_, _, reached.step .finish⟩
  | cons r rest ih =>
    cases judged : s.accepts r with
    | ok hit => exact ih (reached.step (.read judged))
    | error fault => exact ⟨_, _, reached.step (.fail judged)⟩

end Hand

namespace Search

variable {bs : List (Nat × List R)} {maxWorkers : Nat} {scratch : ScratchPool} {x y : Search R}

/-- How many steps are left until a hand is settled, where `none` has the whole batch before it. -/
def handWeight (most : Nat) : Option (Hand R) → Nat
  | none => most
  | some (.reading _ _ rest) => rest.length + 2
  | some (.done _) => 1

def most (bs : List (Nat × List R)) : Nat := (bs.map (·.2.length)).sum + 3

def burden (bs : List (Nat × List R)) (workers : Nat) (x : Search R) : Nat :=
  ∑ i ∈ Finset.range workers, handWeight (most bs) (x.hands i)

/-- The weight of the pool comes first and that of the hands second. -/
def weight (bs : List (Nat × List R)) (x : Search R) : Nat :=
  most bs * x.pool.weight bs.length + x.burden bs x.pool.workers.length

/-- What hands come to changes by what one of them holds before and after. -/
theorem sum_hold (f : Option (Hand R) → Nat) {n i : Nat} (inside : i < n) (x : Search R)
    (h : Option (Hand R)) :
    (∑ j ∈ Finset.range n, f ((x.hold i h).hands j)) + f (x.hands i) =
      (∑ j ∈ Finset.range n, f (x.hands j)) + f h := by
  have mem := Finset.mem_range.mpr inside
  have others : ∑ j ∈ (Finset.range n).erase i, f ((x.hold i h).hands j) =
      ∑ j ∈ (Finset.range n).erase i, f (x.hands j) :=
    Finset.sum_congr rfl fun j other =>
      congrArg f (hands_hold_of_ne x (Finset.ne_of_mem_erase other) h)
  rw [← Finset.add_sum_erase _ _ mem, ← Finset.add_sum_erase _ (fun j => f (x.hands j)) mem,
    others, hands_hold]
  omega

theorem burden_hold (bs : List (Nat × List R)) {n i : Nat} (inside : i < n) (x : Search R)
    (h : Option (Hand R)) :
    (x.hold i h).burden bs n + handWeight (most bs) (x.hands i) =
      x.burden bs n + handWeight (most bs) h := sum_hold _ inside x h

theorem lighter_of_hand {h h' : Hand R} {p p' : ScratchPool} {raised : Bool} (n : Nat)
    (step : Hand.Step s raised (h, p) (h', p')) :
    handWeight n (some h') < handWeight n (some h) := by
  cases step <;> simp only [handWeight, List.length_cons] <;> omega

theorem length_lt_most {k : Nat} {batch : Nat × List R} (next : bs[k]? = some batch) :
    batch.2.length + 2 < most bs := by
  have mem : batch.2.length ∈ bs.map (·.2.length) :=
    List.mem_map.mpr ⟨batch, List.mem_of_getElem? next, rfl⟩
  have := List.le_sum_of_mem mem
  unfold most
  omega

/-- A step of a search takes off some of the weight. -/
theorem Step.lighter (step : Step s bs x y) (follows : Follows s bs maxWorkers x) :
    y.weight bs < x.weight bs := by
  have sound := follows.pool.sound
  have count : (bs.map (Engine.positionsOf s)).length = bs.length := List.length_map _
  have inside {i k : Nat} (working : x.pool.workers[i]? = some (.working k)) :
      i < x.pool.workers.length := (List.getElem?_eq_some_iff.mp working).1
  cases step with
  | @around q made same step busy =>
    have less := (step.of_busy (same.trans count.symm) busy).lighter sound
    rw [count] at less
    have less := Nat.mul_lt_mul_of_pos_left less (show 0 < most bs from Nat.succ_pos _)
    unfold weight
    simp only [step.workers_length]
    exact Nat.add_lt_add_right less _
  | @begin i k batch working free next =>
    have less := length_lt_most next
    have moved := burden_hold bs (inside working) x
      (some (.reading x.scratch.acquire.1 batch.1 batch.2))
    rw [free, handWeight, handWeight] at moved
    have less : (x.hold i (some (.reading x.scratch.acquire.1 batch.1 batch.2))).burden bs
        x.pool.workers.length < x.burden bs x.pool.workers.length := by omega
    exact Nat.add_lt_add_left less _
  | @go i h h' scratch hand step =>
    obtain ⟨k, batch, working, next, lead⟩ := follows.hands i h hand
    have less := lighter_of_hand (most bs) step
    have moved := burden_hold bs (inside working) x (some h')
    rw [hand] at moved
    have less : (x.hold i (some h')).burden bs x.pool.workers.length <
        x.burden bs x.pool.workers.length := by omega
    exact Nat.add_lt_add_left less _
  | @settle i k r working hand =>
    have step := follows.settle working hand
    have less := step.lighter sound
    rw [count] at less
    have less := Nat.mul_le_mul_left (most bs) (Nat.succ_le_of_lt less)
    have moved := burden_hold bs (inside working) x none
    rw [hand, handWeight, handWeight] at moved
    -- the pool takes off more than the hand, empty again, may get
    rw [Nat.mul_succ] at less
    have whole : most bs * WorkerPool.weight bs.length { x.pool with
          workers := x.pool.workers.set i (.reporting k r), failed := x.pool.failed || !r.isOk } +
        (x.hold i none).burden bs x.pool.workers.length < x.weight bs := by
      unfold weight
      omega
    rw [← step.workers_length] at whole
    exact whole

/-- Unless a search has ended, some step can be taken. -/
theorem Follows.progress (follows : Follows s bs maxWorkers x) (running : x.pool.outcome = none) :
    ∃ y, Step s bs x y := by
  have count : (bs.map (Engine.positionsOf s)).length = bs.length := List.length_map _
  have range := follows.pool.inRange
  by_cases busy : ∃ k, .working k ∈ x.pool.workers
  · obtain ⟨k, mem⟩ := busy
    obtain ⟨i, working⟩ := List.mem_iff_getElem?.mp mem
    cases hand : x.hands i with
    | none =>
      have inside : k < bs.length := count ▸ range.working k mem
      exact ⟨_, .begin working hand (List.getElem?_eq_getElem inside)⟩
    | some h =>
      cases h with
      | reading found position rest =>
        obtain ⟨h, after, step⟩ := Hand.exists_step x.pool.flag found position rest x.scratch
        exact ⟨_, .go hand step⟩
      | done r => exact ⟨_, .settle working hand⟩
  · have idle : ∀ k, .working k ∉ x.pool.workers := fun k mem => busy ⟨k, mem⟩
    obtain ⟨q, step⟩ := follows.pool.progress running
    exact ⟨_, .around count step fun i k working => absurd (List.mem_of_getElem? working) (idle k)⟩

theorem Step.callerCancelled (step : Step s bs x y) :
    y.pool.callerCancelled = x.pool.callerCancelled := by
  cases step with
  | around _ step _ => exact step.callerCancelled
  | _ => rfl

/-- From every state a search can come to it can come to an end. -/
theorem Reachable.exists_outcome (reached : Reachable s bs maxWorkers scratch x)
    (tidy : scratch.Tidy) :
    ∃ y a, Reachable s bs maxWorkers scratch y ∧ y.pool.outcome = some a ∧
      y.pool.callerCancelled = x.pool.callerCancelled := by
  induction hw : x.weight bs using Nat.strongRecOn generalizing x with
  | _ w ih =>
    cases outcome : x.pool.outcome with
    | some a => exact ⟨x, a, reached, outcome, rfl⟩
    | none =>
      have follows := reached.follows tidy
      obtain ⟨y, step⟩ := follows.progress outcome
      obtain ⟨z, a, later, ended, same⟩ := ih _ (hw ▸ step.lighter follows) (reached.step step) rfl
      exact ⟨z, a, later, ended, same.trans step.callerCancelled⟩

/-- A search that is not cancelled can end. -/
theorem exists_ends (s : Selection R) (bs : List (Nat × List R)) (maxWorkers : Nat)
    (tidy : scratch.Tidy) : ∃ a, Ends s bs maxWorkers scratch false a := by
  match bs with
  | [] => exact ⟨_, .nothing rfl⟩
  | [batch] =>
    have first : Hand.Alone s batch scratch _ false := .start
    obtain ⟨r, after, reached⟩ := first.exists_done
    exact ⟨_, .single rfl reached⟩
  | first :: second :: rest =>
    have run : Reachable s (first :: second :: rest) maxWorkers scratch _ := .start
    obtain ⟨y, a, reached, ended, calm⟩ := run.exists_outcome tidy
    have calm : y.pool.callerCancelled = false := calm
    exact ⟨a, calm ▸ .several (Nat.le_add_left 2 _) reached ended⟩

end Search

end FieldQuery

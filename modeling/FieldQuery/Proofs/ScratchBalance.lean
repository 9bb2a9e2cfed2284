import FieldQuery.Proofs.Dispatch
import FieldQuery.Proofs.InOrder

/-!
# What becomes of scratch buffers

A buffer that was taken from the scratch pool is in somebody's hand, or in a result that is fine and
on its way, until it is given back; so the buffers that are idle and those that are out are together
as many as were idle at first. Nobody holds anything any more when a search is over, and its results
are given back, or dropped with their buffers if it failed.
-/
namespace FieldQuery

variable {R : Type} {s : Selection R} {n : Nat}

namespace ScratchPool

variable {p : ScratchPool}

theorem idle_le_acquire (p : ScratchPool) : p.idle.length ≤ p.acquire.2.idle.length + 1 := by
  unfold acquire
  split
  · exact Nat.le_succ _
  · rename_i b rest eq
    rw [eq]
    exact Nat.le_refl _

/-- A buffer that is given back makes up for one that is out, since no more are missed than the pool
can hold. -/
theorem idle_release (few : n ≤ limit) (b : Buffer) (before : n ≤ p.idle.length + 1) :
    n ≤ (p.release b).idle.length := by
  unfold release
  split
  · exact before
  · omega

theorem idle_releaseAll (few : n ≤ limit) (bs : List Buffer)
    (before : n ≤ p.idle.length + bs.length) : n ≤ (p.releaseAll bs).idle.length := by
  induction bs generalizing p with
  | nil => exact before
  | cons b rest ih =>
    refine ih (p := p.release b) ?_
    rw [List.length_cons] at before
    have one : n - rest.length ≤ (p.release b).idle.length := idle_release (by omega) b (by omega)
    omega

end ScratchPool

/-- How many buffers somebody holds who reads a batch. -/
def Hand.buffers : Option (Hand R) → Nat
  | some (.reading _ _ _) | some (.done (.ok _)) => 1
  | some (.done (.error _)) | none => 0

/-- A step of reading gives back the buffer that it lays down. -/
theorem Hand.Step.covers {raised : Bool} {h h' : Hand R} {p p' : ScratchPool} {out out' : Nat}
    (step : Step s raised (h, p) (h', p')) (few : n ≤ ScratchPool.limit)
    (moved : out' + buffers (some h) = out + buffers (some h')) (before : n ≤ p.idle.length + out) :
    n ≤ p'.idle.length + out' := by
  have laidDown {found : Buffer} (less : out' + 1 = out) :
      n ≤ (p.release found).idle.length + out' := by
    have one : n - out' ≤ (p.release found).idle.length :=
      ScratchPool.idle_release (by omega) found (by omega)
    omega
  cases step with
  | read =>
    obtain rfl : out' = out := Nat.succ.inj moved
    exact before
  | fail => exact laidDown moved
  | giveUp => exact laidDown moved
  | finish =>
    obtain rfl : out' = out := Nat.succ.inj moved
    exact before

theorem Hand.Undisturbed.alone {batch : Nat × List R} {scratch : ScratchPool}
    {x : Hand R × ScratchPool} {cancelled : Bool}
    (reached : Undisturbed s batch scratch x cancelled) : Alone s batch scratch x cancelled := by
  induction reached with
  | start => exact .start
  | step _ step ih => exact ih.step step
  | cancel _ ih => exact ih.cancel

theorem Hand.Undisturbed.covers {batch : Nat × List R} {scratch : ScratchPool}
    {x : Hand R × ScratchPool} {cancelled : Bool}
    (reached : Undisturbed s batch scratch x cancelled) (tidy : scratch.Tidy) :
    scratch.idle.length ≤ x.2.idle.length + buffers (some x.1) := by
  induction reached with
  | start => exact scratch.idle_le_acquire
  | step _ step ih => exact step.covers tidy.2 (Nat.add_comm _ _) ih
  | cancel _ ih => exact ih

namespace WorkerPool

variable {β : Type} {made : List (Answer β)} {maxWorkers : Nat} {p q : WorkerPool β}

/-- Whether a worker has a result that is fine. -/
def fineIn : WorkerState β → Nat
  | .reporting _ (.ok _) => 1
  | _ => 0

def fineCount (p : WorkerPool β) : Nat :=
  (p.workers.map fineIn).sum + (fine p.arrived).length + (fine p.collected).length

theorem length_fine_cons (r : Nat × Answer β) (rest : List (Nat × Answer β)) :
    (fine (r :: rest)).length = fineIn (.reporting r.1 r.2) + (fine rest).length := by
  obtain ⟨k, fault | b⟩ := r
  · exact (Nat.zero_add _).symm
  · exact Nat.add_comm _ 1

theorem length_fine_concat (results : List (Nat × Answer β)) (r : Nat × Answer β) :
    (fine (results ++ [r])).length = (fine results).length + fineIn (.reporting r.1 r.2) := by
  unfold fine
  rw [List.filterMap_append, List.length_append]
  exact congrArg _ (length_fine_cons r [])

/-- Where no work ends, no result comes or goes. -/
theorem Step.fineCount_eq (step : Step made p q)
    (busy : ∀ (i k : Nat), p.workers[i]? = some (.working k) → q.workers[i]? = some (.working k)) :
    q.fineCount = p.fineCount := by
  unfold fineCount
  cases step with
  | @lineUp i waiting free =>
    have moved := sum_set fineIn waiting .receiving
    simp only [fineIn] at moved ⊢
    omega
  | @take i k rest receiving next =>
    have moved := sum_set fineIn receiving (.working k)
    simp only [fineIn] at moved ⊢
    omega
  | leave receiving empty stopped =>
    have moved := sum_set fineIn receiving .gone
    simp only [fineIn] at moved ⊢
    omega
  | finish working result =>
    cases (getElem?_set_of_there working _).symm.trans (busy _ _ working)
  | giveUp working up =>
    cases (getElem?_set_of_there working _).symm.trans (busy _ _ working)
  | @report i k r reporting =>
    have moved := sum_set fineIn reporting .waiting
    have waiting : fineIn (.waiting : WorkerState β) = 0 := rfl
    simp only [length_fine_concat]
    omega
  | collect stopped next =>
    simp only [next, length_fine_cons, length_fine_concat]
    omega
  | _ => rfl

/-- No batch has more than one result. -/
theorem Reachable.collected_subperm (reached : Reachable made maxWorkers p) :
    (p.collected.map (·.1)).Subperm (List.range made.length) := by
  obtain ⟨log, seen⟩ := reached.logged
  have tells := seen.tells
  have once : (p.collected.map (·.1)).Nodup := by
    have all := tells.results_once
    rw [List.map_append] at all
    exact all.of_append_right
  refine once.subperm fun k mem => ?_
  obtain ⟨⟨k, r⟩, there, rfl⟩ := List.mem_map.mp mem
  obtain ⟨i, handled⟩ := tells.handled_of_result (List.mem_append_right _ there)
  have sent := tells.sent_of_taken (tells.own _ handled)
  rw [tells.sent, List.mem_range] at sent
  exact List.mem_range.mpr (sent.trans_le reached.inRange.dispatched)

theorem Reachable.length_collected_le (reached : Reachable made maxWorkers p) :
    p.collected.length ≤ made.length := by
  have few := reached.collected_subperm.length_le
  rwa [List.length_map, List.length_range] at few

theorem length_fine_le (results : List (Nat × Answer β)) :
    (fine results).length ≤ results.length := List.length_filterMap_le _ _

theorem length_fine_lt {results : List (Nat × Answer β)} {k : Nat} {fault : QueryFault}
    (mem : (k, .error fault) ∈ results) : (fine results).length < results.length := by
  obtain ⟨before, after, rfl⟩ := List.append_of_mem mem
  have split : fine (before ++ (k, .error fault) :: after) = fine before ++ fine after :=
    List.filterMap_append
  rw [split, List.length_append, List.length_append, List.length_cons]
  have first := length_fine_le before
  have last := length_fine_le after
  omega

/-- Where there is a failure some batch has no result that is fine. -/
theorem Reachable.length_fine_lt (reached : Reachable made maxWorkers p) {fault : QueryFault}
    (failed : total made.length p.collected = .error fault) :
    (fine p.collected).length < made.length := by
  have few := reached.length_collected_le
  -- as many fine results as batches leave room for no failure and for no batch without a result
  by_contra all
  have less := length_fine_le p.collected
  have clear : ∀ k fault, (k, .error fault) ∉ p.collected := by
    intro k fault mem
    have less := WorkerPool.length_fine_lt mem
    omega
  have perm : (p.collected.map (·.1)).Perm (List.range made.length) := by
    refine reached.collected_subperm.perm_of_length_le ?_
    rw [List.length_map, List.length_range]
    omega
  have complete : ∀ k < made.length, ∃ r, (k, r) ∈ p.collected := by
    intro k inside
    obtain ⟨⟨k, r⟩, mem, rfl⟩ := List.mem_map.mp (perm.mem_iff.mpr (List.mem_range.mpr inside))
    exact ⟨r, mem⟩
  obtain ⟨results, whole⟩ := total_of_fine clear complete
  cases failed.symm.trans whole

end WorkerPool

namespace Search

variable {bs : List (Nat × List R)} {maxWorkers : Nat} {scratch : ScratchPool} {x y : Search R}

def held (x : Search R) : Nat :=
  ∑ i ∈ Finset.range x.pool.workers.length, Hand.buffers (x.hands i)

/-- So many buffers are idle, in somebody's hand, or in a result. -/
def Covers (n : Nat) (x : Search R) : Prop :=
  n ≤ x.scratch.idle.length + (x.held + x.pool.fineCount)

theorem held_hold {i k : Nat} (working : x.pool.workers[i]? = some (.working k))
    (h : Option (Hand R)) :
    (x.hold i h).held + Hand.buffers (x.hands i) = x.held + Hand.buffers h :=
  sum_hold Hand.buffers (List.getElem?_eq_some_iff.mp working).1 x h

/-- A result that is settled holds what the hand did. -/
theorem fineCount_settle {p : WorkerPool Buffer} {i k : Nat}
    (working : p.workers[i]? = some (.working k)) (r : Answer Buffer) (failed : Bool) :
    WorkerPool.fineCount { p with workers := p.workers.set i (.reporting k r), failed := failed } =
      p.fineCount + Hand.buffers (some (.done r : Hand R)) := by
  have moved := WorkerPool.sum_set WorkerPool.fineIn working (.reporting k r)
  have same : WorkerPool.fineIn (.reporting k r) = Hand.buffers (some (.done r : Hand R)) := by
    cases r <;> rfl
  have nothing : WorkerPool.fineIn (.working k : WorkerState Buffer) = 0 := rfl
  unfold WorkerPool.fineCount
  simp only
  omega

theorem Step.covers (step : Step s bs x y) (follows : Follows s bs maxWorkers x)
    (few : n ≤ ScratchPool.limit) (before : Covers n x) : Covers n y := by
  unfold Covers at before
  cases step with
  | around count step busy =>
    unfold Covers held at *
    simp only [step.workers_length, step.fineCount_eq busy]
    exact before
  | @begin i k batch working free next =>
    have taken := x.scratch.idle_le_acquire
    have gained := held_hold working (some (.start x.scratch.acquire.1 batch))
    rw [free] at gained
    change _ + 0 = x.held + 1 at gained
    change n ≤ x.scratch.acquire.2.idle.length + ((x.hold i _).held + x.pool.fineCount)
    omega
  | @go i h h' scratch hand step =>
    obtain ⟨k, batch, working, -⟩ := follows.hands i h hand
    have moved := held_hold working (some h')
    rw [hand] at moved
    change n ≤ scratch.idle.length + ((x.hold i (some h')).held + x.pool.fineCount)
    exact step.covers few (by omega) before
  | @settle i k r working hand =>
    have moved := held_hold working none
    rw [hand] at moved
    have count := fineCount_settle (R := R) working r (x.pool.failed || !r.isOk)
    have same : (x.pool.workers.set i (.reporting k r)).length = x.pool.workers.length :=
      List.length_set
    unfold Covers held at *
    simp only [hold, same, count] at moved ⊢
    change _ + _ = _ + 0 at moved
    omega

/-- No buffer is missed while a search goes on. -/
theorem Undisturbed.covers (reached : Undisturbed s bs maxWorkers scratch x)
    (tidy : scratch.Tidy) : Covers scratch.idle.length x := by
  induction reached with
  | start => exact Nat.le_add_right _ _
  | step reached step ih => exact step.covers (reached.reachable.follows tidy) tidy.2 ih
  | cancel _ ih => exact ih

/-- In the end nobody holds anything, and every result has been collected. -/
theorem Follows.all_collected (follows : Follows s bs maxWorkers x) {a : Answer (List Buffer)}
    (ended : x.pool.outcome = some a) :
    x.held + x.pool.fineCount = (WorkerPool.fine x.pool.collected).length := by
  obtain ⟨allGone, arrived, -⟩ := follows.pool.sound.ended a ended
  have empty : x.held = 0 := by
    refine Finset.sum_eq_zero fun i _ => ?_
    cases hand : x.hands i with
    | none => rfl
    | some h =>
      obtain ⟨k, batch, working, -⟩ := follows.hands i h hand
      cases allGone _ (List.mem_of_getElem? working)
  have silent : (x.pool.workers.map WorkerPool.fineIn).sum = 0 := by
    refine List.sum_eq_zero fun c mem => ?_
    obtain ⟨w, there, rfl⟩ := List.mem_map.mp mem
    rw [allGone w there]
    rfl
  have none : (WorkerPool.fine x.pool.arrived).length = 0 := by
    rw [arrived]
    rfl
  unfold WorkerPool.fineCount
  omega

/-- In the end the buffers that were found, and those that are dropped, are all that is missed. -/
theorem Leaves.covers {a : Answer (List Buffer)} {dropped : List Buffer} {after : ScratchPool}
    (left : Leaves s bs maxWorkers scratch a dropped after) (tidy : scratch.Tidy) :
    after.Tidy ∧
      scratch.idle.length ≤ after.idle.length + (a.toOption.getD []).length + dropped.length ∧
      dropped.length < max bs.length 1 ∧ (a.isOk = true → dropped = []) := by
  have positive : 0 < max bs.length 1 := Nat.le_max_right _ 1
  cases left with
  | nothing empty => exact ⟨tidy, Nat.le_refl _, positive, fun _ => rfl⟩
  | @single batch r _ cancelled one reached =>
    refine ⟨(reached.alone.leadsTo tidy).2, ?_, positive, fun _ => rfl⟩
    have covers := reached.covers tidy
    cases r with
    | ok found => exact covers
    | error fault => exact covers
  | @found x buffers several reached ended =>
    have follows := reached.reachable.follows tidy
    have covers := reached.covers tidy
    have collected := follows.all_collected ended
    have few := follows.pool.length_collected_le
    have fewer := WorkerPool.length_fine_le x.pool.collected
    have finished := follows.pool.finished (by rwa [List.length_map]) ended
    have all := (WorkerPool.total_ok finished.total.symm).1
    refine ⟨follows.tidy, ?_, positive, fun _ => rfl⟩
    change _ ≤ _ + buffers.length + 0
    unfold Covers at covers
    omega
  | @failed x fault several reached ended =>
    have follows := reached.reachable.follows tidy
    have covers := reached.covers tidy
    have collected := follows.all_collected ended
    have finished := follows.pool.finished (by rwa [List.length_map]) ended
    have less := follows.pool.length_fine_lt finished.total.symm
    rw [List.length_map] at less
    refine ⟨follows.tidy, ?_, less.trans_le (Nat.le_max_left _ _), nofun⟩
    change _ ≤ _ + 0 + _
    unfold Covers at covers
    omega

theorem Passes.tidy {p : ScratchPool} (passed : Passes s bs maxWorkers scratch p)
    (tidy : scratch.Tidy) : p.Tidy := by
  cases passed with
  | alone one reached => exact (reached.alone.leadsTo tidy).2
  | several several reached => exact (reached.reachable.follows tidy).tidy

end Search

/-- A pool in order in which no more buffers are missed than are dropped: none after a fine answer,
and otherwise fewer than there were batches to be searched. -/
structure ScratchPool.Balances (p q : ScratchPool) (count : Nat) (fine : Bool)
    (dropped : List Buffer) : Prop where
  tidy : q.Tidy
  idle : p.idle.length ≤ q.idle.length + dropped.length
  fewer : dropped.length < max count 1
  whole : fine = true → dropped = []

namespace ScratchPool

variable {p q r : ScratchPool} {count : Nat} {fine : Bool} {dropped : List Buffer}

theorem Balances.of_le (tidy : q.Tidy) (idle : p.idle.length ≤ q.idle.length) :
    p.Balances q count fine [] :=
  ⟨tidy, idle, Nat.le_max_right _ 1, fun _ => rfl⟩

theorem Balances.refl (tidy : p.Tidy) : p.Balances p count fine [] := .of_le tidy (Nat.le_refl _)

theorem Balances.trans {c : Nat} (first : p.Balances q count true dropped)
    (second : q.Balances r c fine []) : p.Balances r count fine dropped := by
  obtain rfl := first.whole rfl
  exact .of_le second.tidy (first.idle.trans second.idle)

end ScratchPool

namespace Engine

variable {M : RecordModel} {e d : Engine M} {maxWorkers : Nat} {dropped : List Buffer}
  {p : ScratchPool}

theorem SelectLeaves.balances {records : List R} {a : Answer (List R)}
    (left : e.SelectLeaves s records maxWorkers a dropped d) (tidy : e.scratch.Tidy) :
    e.scratch.Balances d.scratch (batches e.settings.batchSize records).length a.isOk dropped := by
  cases left with
  | all trivial => exact .refl tidy
  | refused trivial => exact .refl tidy
  | @found buffers _ scratch choosy search =>
    obtain ⟨after, idle, -, whole⟩ := search.covers tidy
    obtain rfl := whole rfl
    exact .of_le (after.releaseAll buffers) (ScratchPool.idle_releaseAll tidy.2 buffers idle)
  | failed choosy search =>
    obtain ⟨after, idle, fewer, whole⟩ := search.covers tidy
    exact ⟨after, idle, fewer, whole⟩

theorem SelectPasses.tidy {records : List R} (passed : e.SelectPasses s records maxWorkers p)
    (tidy : e.scratch.Tidy) : p.Tidy := by
  cases passed with
  | searching choosy passed => exact passed.tidy tidy
  | givingBack choosy search count => exact (search.covers tidy).1.releaseAll _

/-- The buffer for the order is given back, so that nothing is missed. -/
theorem ArrangeLeaves.balances {plan : SortPlan R} {records : List R} {a : Answer (List R)}
    (left : e.ArrangeLeaves plan records maxWorkers a d) (tidy : e.scratch.Tidy) :
    e.scratch.Balances d.scratch 0 a.isOk [] := by
  cases left with
  | kept few => exact .refl tidy
  | refused keyed several ends => exact .refl tidy
  | @sorted _ _ order keyed several ends made =>
    exact .of_le (tidy.acquire.2.release order)
      (ScratchPool.idle_release tidy.2 order e.scratch.idle_le_acquire)

theorem ArrangePasses.tidy {plan : SortPlan R} {records : List R}
    (passed : e.ArrangePasses plan records p) (tidy : e.scratch.Tidy) : p.Tidy := by
  obtain ⟨-, -, rfl⟩ := passed
  exact tidy.acquire.2

variable [DecidableEq M.Kind] {k : M.Kind} {records : List (M.Item k)} {f : Filter}
  {a : Answer (List (M.Item k))}

/-- To look up the paths of a filter takes no buffers. -/
theorem kept_of_selection {r : Answer (Selection (M.Item k))}
    (compiled : e.selection k f = (r, d)) :
    d.scratch = e.scratch ∧ d.settings = e.settings := by
  obtain rfl : (e.selection k f).2 = d := congrArg Prod.snd compiled
  exact ⟨rfl, rfl⟩

theorem kept_of_sortPlan {fields : List SortField} {r : Answer (SortPlan (M.Item k))}
    (plan : e.sortPlan k fields = (r, d)) :
    d.scratch = e.scratch ∧ d.settings = e.settings := by
  obtain rfl : (e.sortPlan k fields).2 = d := congrArg Prod.snd plan
  exact ⟨rfl, rfl⟩

theorem FilterLeaves.balances (left : e.FilterLeaves k records f maxWorkers a dropped d)
    (tidy : e.scratch.Tidy) :
    e.scratch.Balances d.scratch (batches e.settings.batchSize records).length a.isOk dropped := by
  cases left with
  | unready compiled =>
    rw [(kept_of_selection compiled).1]
    exact .refl tidy
  | selected compiled select =>
    obtain ⟨scratch, settings⟩ := kept_of_selection compiled
    rw [← scratch] at tidy ⊢
    rw [← settings]
    exact select.balances tidy

theorem FilterPasses.tidy (passed : e.FilterPasses k records f maxWorkers p)
    (tidy : e.scratch.Tidy) : p.Tidy := by
  obtain ⟨s, d, compiled, passed⟩ := passed
  exact passed.tidy ((kept_of_selection compiled).1 ▸ tidy)

theorem SortLeaves.balances {fields : List SortField}
    (left : e.SortLeaves k records fields maxWorkers a d) (tidy : e.scratch.Tidy) :
    e.scratch.Balances d.scratch 0 a.isOk [] := by
  cases left with
  | unplanned plan =>
    rw [(kept_of_sortPlan plan).1]
    exact .refl tidy
  | arranged plan arrange =>
    have scratch := (kept_of_sortPlan plan).1
    rw [← scratch] at tidy ⊢
    exact arrange.balances tidy

theorem SortPasses.tidy {fields : List SortField} (passed : e.SortPasses k records fields p)
    (tidy : e.scratch.Tidy) : p.Tidy := by
  obtain ⟨plan, d, made, passed⟩ := passed
  exact passed.tidy ((kept_of_sortPlan made).1 ▸ tidy)

theorem FilterAndSortLeaves.balances
    (left : e.FilterAndSortLeaves k records f maxWorkers a dropped d) (tidy : e.scratch.Tidy) :
    e.scratch.Balances d.scratch (batches e.settings.batchSize records).length a.isOk dropped := by
  cases left with
  | unplanned plan =>
    rw [(kept_of_sortPlan plan).1]
    exact .refl tidy
  | unfiltered plan filter =>
    obtain ⟨scratch, settings⟩ := kept_of_sortPlan plan
    rw [← scratch] at tidy ⊢
    rw [← settings]
    exact filter.balances tidy
  | filtered plan filter arrange =>
    obtain ⟨scratch, settings⟩ := kept_of_sortPlan plan
    rw [← scratch] at tidy ⊢
    rw [← settings]
    have found := filter.balances tidy
    exact found.trans (arrange.balances found.tidy)

theorem FilterAndSortPasses.tidy (passed : e.FilterAndSortPasses k records f maxWorkers p)
    (tidy : e.scratch.Tidy) : p.Tidy := by
  cases passed with
  | filtering plan passed => exact passed.tidy ((kept_of_sortPlan plan).1 ▸ tidy)
  | sorting plan filter passed =>
    exact passed.tidy (filter.balances ((kept_of_sortPlan plan).1 ▸ tidy)).tidy

end Engine

namespace Call

variable {M : RecordModel} [DecidableEq M.Kind] {e d : Engine M} {maxWorkers : Nat} {c : Call M}
  {a : Answer c.Reply} {dropped : List Buffer} {p : ScratchPool}

theorem Leaves.balances (left : c.Leaves e maxWorkers a dropped d) (tidy : e.scratch.Tidy) :
    e.scratch.Balances d.scratch (c.batchCount e) a.isOk dropped := by
  cases c with
  | filter k records f => exact Engine.FilterLeaves.balances left tidy
  | sort k records fields =>
    obtain ⟨rfl, left⟩ := left
    exact left.balances tidy
  | filterAndSort k records f limit =>
    obtain ⟨all, left, rfl⟩ := left
    have balances := left.balances tidy
    cases all <;> exact balances
  | paginate k records f index size =>
    obtain ⟨all, left, rfl⟩ := left
    have balances := left.balances tidy
    cases all <;> exact balances

theorem Passes.tidy (passed : c.Passes e maxWorkers p) (tidy : e.scratch.Tidy) : p.Tidy := by
  cases c with
  | filter k records f => exact Engine.FilterPasses.tidy passed tidy
  | sort k records fields => exact Engine.SortPasses.tidy passed tidy
  | filterAndSort k records f limit => exact Engine.FilterAndSortPasses.tidy passed tidy
  | paginate k records f index size => exact Engine.FilterAndSortPasses.tidy passed tidy

end Call

/-- One call after another leaves the pool in order. -/
theorem Engine.Used.tidy {M : RecordModel} [DecidableEq M.Kind] {e : Engine M} {maxWorkers : Nat}
    (used : e.Used maxWorkers) : e.scratch.Tidy := by
  induction used with
  | fresh empty =>
    rw [empty]
    exact ScratchPool.tidy_empty
  | call used left ih => exact (left.balances ih).tidy

/-- Whatever calls an engine has answered since it was new, and whatever any number of workers and
the caller do in the next one: at every moment only so many buffers are idle, all of them empty, and
so is a buffer that is handed out. When the call is over, no buffer is missed but those that it
dropped with the positions in them: none if it is answered, and else fewer than there were batches
to be searched. The engine that works on one batch after the other goes one of these ways. -/
theorem Call.buffers_given_back {M : RecordModel} [DecidableEq M.Kind] {e : Engine M}
    {maxWorkers : Nat} (used : e.Used maxWorkers) (c : Call M) :
    (∀ p, p = e.scratch ∨ c.Passes e maxWorkers p →
      (∀ b ∈ p.idle, b = []) ∧ p.idle.length ≤ ScratchPool.limit ∧ p.acquire.1 = []) ∧
    (∀ a dropped d, c.Leaves e maxWorkers a dropped d → d.scratch.Tidy ∧
      e.scratch.idle.length ≤ d.scratch.idle.length + dropped.length ∧
      dropped.length < max (c.batchCount e) 1 ∧ (a.isOk = true → dropped = [])) ∧
    ∃ dropped, c.Leaves e maxWorkers (c.run e false).1 dropped (c.run e false).2 := by
  have tidy := used.tidy
  refine ⟨?_, ?_, Call.run_leaves tidy maxWorkers c⟩
  · intro p seen
    have tidy : p.Tidy := by
      rcases seen with rfl | passed
      · exact tidy
      · exact passed.tidy tidy
    exact ⟨tidy.1, tidy.2, tidy.acquire.1⟩
  · intro a dropped d left
    obtain ⟨after, idle, fewer, whole⟩ := left.balances tidy
    exact ⟨after, idle, fewer, whole⟩

namespace Sample

/-- An engine that has found the long books in two batches. -/
def inUse : Engine shelf := (inTwos.filter () stock byLength false).2

theorem used_inUse : inUse.Used 3 := by
  obtain ⟨dropped, left⟩ :=
    Call.run_leaves (e := inTwos) ScratchPool.tidy_empty 3 (.filter () stock byLength)
  exact .call (.fresh rfl) left

/-- Novels in two batches, the second of which has no number for a title. -/
def novels : List (shelf.Item ()) := [("1984", 328), ("2666", 898), ("Emma", 474)]

end Sample

open Sample in
theorem Call.buffers_given_back_inUse :
    inUse.Used 3 ∧ inUse.scratch.idle.length = 2 ∧
    (∀ a dropped d, (Call.filterAndSort () stock byLength (some 1)).Leaves inUse 3 a dropped d →
      a.isOk = true → 2 ≤ d.scratch.idle.length) ∧
    ∀ a dropped d, (Call.filter () novels years).Leaves inUse 3 a dropped d →
      1 ≤ d.scratch.idle.length := by
  have two : inUse.scratch.idle.length = 2 := by decide +kernel
  obtain ⟨-, answered, -⟩ :=
    Call.buffers_given_back used_inUse (.filterAndSort () stock byLength (some 1))
  obtain ⟨-, ended, -⟩ := Call.buffers_given_back used_inUse (.filter () novels years)
  refine ⟨used_inUse, two, ?_, ?_⟩
  · intro a dropped d left fine
    obtain ⟨-, idle, -, whole⟩ := answered a dropped d left
    rw [two, whole fine] at idle
    exact idle
  · intro a dropped d left
    obtain ⟨-, idle, fewer, -⟩ := ended a dropped d left
    have count : max ((Call.filter () novels years).batchCount inUse) 1 = 2 := by decide +kernel
    omega

open Sample in
/-- The second batch fails, and the buffer of the first, which is done, is not given back. -/
theorem Call.finished_batch_dropped :
    inUse.Used 3 ∧
    (∃ dropped, (Call.filter () novels years).Leaves inUse 3
      (inUse.filter () novels years false).1 dropped (inUse.filter () novels years false).2) ∧
    (inUse.filter () novels years false).1.isOk = false ∧
    (inUse.filter () novels years false).2.scratch.idle.length <
      inUse.scratch.idle.length := by
  refine ⟨used_inUse, ?_, ?_, ?_⟩
  · exact Call.run_leaves used_inUse.tidy 3 (.filter () novels years)
  · decide +kernel
  · decide +kernel

end FieldQuery

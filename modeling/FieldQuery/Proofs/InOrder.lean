import FieldQuery.Proofs.Filtering
import FieldQuery.Proofs.Sorting
import FieldQuery.Record.Calls
import Mathlib.Logic.Relation

/-!
# One batch after the other

An engine that works on one batch after the other does what workers may do of whom only one ever
takes a batch, and the next batch is put into the queue when there is a result for the one before.
So its answers, and what it leaves in the scratch pool, are among those that are possible with any
number of workers.
-/
namespace FieldQuery

variable {R : Type} {s : Selection R}

/-- What comes of reading on from a position, and the scratch pool then. -/
def Selection.readOut (s : Selection R) (found : Buffer) (position : Nat) (rest : List R)
    (scratch : ScratchPool) : Answer Buffer × ScratchPool :=
  match s.hits position rest with
  | .ok hits => (.ok (found ++ hits), scratch)
  | .error fault => (.error fault, scratch.release found)

theorem Engine.fillBuffer_eq (s : Selection R) (scratch : ScratchPool) (batch : Nat × List R) :
    Engine.fillBuffer s scratch batch.1 batch.2 =
      s.readOut scratch.acquire.1 batch.1 batch.2 scratch.acquire.2 := rfl

theorem Selection.readOut_cons_ok {r : R} {hit : Bool} (judged : s.accepts r = .ok hit)
    (found : Buffer) (position : Nat) (rest : List R) (scratch : ScratchPool) :
    s.readOut found position (r :: rest) scratch =
      s.readOut (if hit then found ++ [position] else found) (position + 1) rest scratch := by
  unfold readOut
  rw [hits_cons_ok judged]
  cases s.hits (position + 1) rest with
  | error fault => rfl
  | ok more =>
    cases hit with
    | false => rfl
    | true => exact congrArg (fun all => (Except.ok all, scratch)) (List.append_cons ..)

theorem Hand.reads (s : Selection R) (raised : Bool) (found : Buffer) (position : Nat)
    (rest : List R) (scratch : ScratchPool) :
    Relation.ReflTransGen (Step s raised) (reading found position rest, scratch)
      (done (s.readOut found position rest scratch).1,
        (s.readOut found position rest scratch).2) := by
  induction rest generalizing found position with
  | nil =>
    have none : s.readOut found position [] scratch = (.ok found, scratch) :=
      congrArg (fun all => (Except.ok all, scratch)) (List.append_nil found)
    rw [none]
    exact .single .finish
  | cons r rest ih =>
    cases judged : s.accepts r with
    | ok hit =>
      rw [Selection.readOut_cons_ok judged]
      exact .head (.read judged) (ih _ _)
    | error fault =>
      have failed : s.readOut found position (r :: rest) scratch =
          (.error (.atItem position fault), scratch.release found) := by
        unfold Selection.readOut
        rw [Selection.hits_cons_error judged]
      rw [failed]
      exact .single (.fail judged)

theorem Hand.Undisturbed.steps {batch : Nat × List R} {scratch : ScratchPool}
    {x y : Hand R × ScratchPool} {cancelled : Bool}
    (reached : Undisturbed s batch scratch x cancelled)
    (steps : Relation.ReflTransGen (Step s cancelled) x y) :
    Undisturbed s batch scratch y cancelled := by
  induction steps with
  | refl => exact reached
  | tail _ step ih => exact ih.step step

namespace Search

variable {bs : List (Nat × List R)} {maxWorkers : Nat} {scratch : ScratchPool} {x : Search R}

theorem Undisturbed.reachable (reached : Undisturbed s bs maxWorkers scratch x) :
    Reachable s bs maxWorkers scratch x := by
  induction reached with
  | start => exact .start
  | step _ step ih => exact ih.step step
  | cancel _ ih => exact ih.cancel

theorem busy_cons {w w' : WorkerState Buffer} (rest : List (WorkerState Buffer))
    (idle : ∀ k, w ≠ .working k) (i k : Nat) (working : (w :: rest)[i]? = some (.working k)) :
    (w' :: rest)[i]? = some (.working k) := by
  cases i with
  | zero => exact absurd (Option.some.inj working) (idle k)
  | succ i => exact working

/-- A search in which only the first worker ever holds anything. -/
def first (pool : WorkerPool Buffer) (p : ScratchPool) (hand : Option (Hand R)) : Search R :=
  ⟨pool, p, fun j => if j = 0 then hand else none⟩

theorem first_hold (pool : WorkerPool Buffer) (p : ScratchPool) (hand h : Option (Hand R)) :
    (first pool p hand).hold 0 h = first pool p h := by
  unfold first hold
  congr 1
  funext j
  by_cases same : j = 0 <;> simp [same]

theorem Undisturbed.steps {pool : WorkerPool Buffer} {y z : Hand R × ScratchPool}
    (steps : Relation.ReflTransGen (Hand.Step s pool.flag) y z)
    (reached : Undisturbed s bs maxWorkers scratch (first pool y.2 (some y.1))) :
    Undisturbed s bs maxWorkers scratch (first pool z.2 (some z.1)) := by
  induction steps with
  | refl => exact reached
  | @tail y z _ step ih =>
    have after := ih.step (.go (i := 0) rfl step)
    exact first_hold pool z.2 (some y.1) _ ▸ after

/-- The first worker is handed the next batch and reads it to its end. -/
theorem Undisturbed.round {rest : List (WorkerState Buffer)} {arrived : List (Nat × Answer Buffer)}
    {p : ScratchPool} {k : Nat} {batch : Nat × List R} (waiting : ∀ w ∈ rest, w = .waiting)
    (reached : Undisturbed s bs maxWorkers scratch
      (first { workers := .waiting :: rest, dispatched := k, arrived := arrived } p none))
    (next : bs[k]? = some batch) :
    Undisturbed s bs maxWorkers scratch
      (first { workers := .waiting :: rest
               dispatched := k + 1
               failed := !(Engine.fillBuffer s p batch.1 batch.2).1.isOk
               arrived := arrived ++ [(k, (Engine.fillBuffer s p batch.1 batch.2).1)] }
        (Engine.fillBuffer s p batch.1 batch.2).2 none) := by
  have count : (List.replicate bs.length (.ok [] : Answer Buffer)).length = bs.length :=
    List.length_replicate
  have more : k < (List.replicate bs.length (.ok [] : Answer Buffer)).length := by
    rw [count]
    exact (List.getElem?_eq_some_iff.mp next).1
  have free : ∀ w ∈ (.waiting :: rest : List (WorkerState Buffer)), w ≠ .receiving := by
    intro w mem
    rcases List.mem_cons.mp mem with rfl | mem
    · exact nofun
    · rw [waiting w mem]
      exact nofun
  rw [Engine.fillBuffer_eq]
  generalize hf : s.readOut p.acquire.1 batch.1 batch.2 p.acquire.2 = filled
  obtain ⟨r, q⟩ := filled
  have sending : Undisturbed s bs maxWorkers scratch (first
      { workers := .waiting :: rest, dispatcher := .sending, dispatched := k, arrived := arrived }
      p none) := reached.step (.around count (.proceed rfl rfl more) fun _ _ h => h)
  have sent : Undisturbed s bs maxWorkers scratch (first
      { workers := .waiting :: rest, dispatched := k + 1, queue := [k], arrived := arrived }
      p none) := sending.step (.around count (.send rfl (Nat.succ_pos _)) fun _ _ h => h)
  have inLine : Undisturbed s bs maxWorkers scratch (first
      { workers := .receiving :: rest, dispatched := k + 1, queue := [k], arrived := arrived }
      p none) :=
    sent.step (.around count (.lineUp (i := 0) rfl free) (busy_cons rest nofun))
  have taken : Undisturbed s bs maxWorkers scratch (first
      { workers := .working k :: rest, dispatched := k + 1, arrived := arrived } p none) :=
    inLine.step (.around count (.take (i := 0) rfl rfl) (busy_cons rest nofun))
  have begun : Undisturbed s bs maxWorkers scratch (first
      { workers := .working k :: rest, dispatched := k + 1, arrived := arrived }
      p.acquire.2 (some (.start p.acquire.1 batch))) :=
    first_hold _ p.acquire.2 none _ ▸ taken.step (.begin (i := 0) rfl rfl next)
  have read : Undisturbed s bs maxWorkers scratch (first
      { workers := .working k :: rest, dispatched := k + 1, arrived := arrived }
      q (some (.done r))) := by
    have steps := Hand.reads s false p.acquire.1 batch.1 batch.2 p.acquire.2
    rw [hf] at steps
    exact Undisturbed.steps (y := (_, _)) (z := (_, _)) steps begun
  have settled : Undisturbed s bs maxWorkers scratch (first
      { workers := .reporting k r :: rest
        dispatched := k + 1
        failed := !r.isOk
        arrived := arrived } q none) :=
    first_hold _ q (some (.done r)) none ▸ read.step (.settle (i := 0) rfl rfl)
  exact settled.step (.around count (.report (i := 0) rfl) (busy_cons rest nofun))

/-- Batch after batch is read, up to the first that fails. -/
theorem Undisturbed.rounds {rest : List (WorkerState Buffer)} (waiting : ∀ w ∈ rest, w = .waiting)
    (before after : List (Nat × List R)) {arrived : List (Nat × Answer Buffer)} {p : ScratchPool}
    (split : bs = before ++ after) (fine : arrived.foldl WorkerPool.keep none = none)
    (reached : Undisturbed s bs maxWorkers scratch (first
      { workers := .waiting :: rest, dispatched := before.length, arrived := arrived } p none)) :
    ∃ count failed results, (failed = true ∨ count = bs.length) ∧
      (∀ fault, (runInOrder (Engine.fillBuffer s) p after).1 = .error fault →
        results.foldl WorkerPool.keep none = some fault) ∧
      Undisturbed s bs maxWorkers scratch (first
        { workers := .waiting :: rest, dispatched := count, failed := failed, arrived := results }
        (runInOrder (Engine.fillBuffer s) p after).2 none) := by
  induction after generalizing before arrived p with
  | nil =>
    rw [List.append_nil] at split
    subst split
    refine ⟨_, _, _, .inr rfl, ?_, reached⟩
    intro fault failed
    cases failed
  | cons batch more ih =>
    have next : bs[before.length]? = some batch := by
      rw [split, List.getElem?_append_right (Nat.le_refl _), Nat.sub_self]
      rfl
    have round := reached.round waiting next
    have later (result : Answer Buffer) :
        (arrived ++ [(before.length, result)]).foldl WorkerPool.keep none =
          WorkerPool.keep none (before.length, result) := by
      rw [List.foldl_append, fine]
      rfl
    obtain ⟨offset, items⟩ := batch
    rw [runInOrder]
    generalize Engine.fillBuffer s p offset items = filled at round
    obtain ⟨result, q⟩ := filled
    cases result with
    | error fault =>
      refine ⟨_, _, _, .inl rfl, ?_, round⟩
      intro _ failed
      cases failed
      exact later (.error fault)
    | ok b =>
      have length : before.length + 1 = (before ++ [(offset, items)]).length := by simp
      rw [length] at round
      have again := ih _ (split.trans (List.append_cons _ _ _)) (later (.ok b)) round
      simp only
      generalize runInOrder (Engine.fillBuffer s) q more = ran at again
      obtain ⟨outcome, after⟩ := ran
      obtain ⟨count, failed, results, whole, kept, reached⟩ := again
      cases outcome with
      | ok buffers =>
        refine ⟨count, failed, results, whole, ?_, reached⟩
        intro fault broke
        cases broke
      | error fault => exact ⟨count, failed, results, whole, kept, reached⟩

/-- Nothing is left to do but to collect what has arrived. -/
structure Settled (results : List (Nat × Answer Buffer)) (p : ScratchPool) (x : Search R) :
    Prop where
  stopped : x.pool.dispatcher = .stopped
  queue : x.pool.queue = []
  idle : ∀ w ∈ x.pool.workers, w = .waiting ∨ w = .receiving ∨ w = .gone
  hands : ∀ i, x.hands i = none
  results : x.pool.collected ++ x.pool.arrived = results
  scratch : x.scratch = p
  calm : x.pool.callerCancelled = false

theorem Settled.step {results : List (Nat × Answer Buffer)} {p : ScratchPool} {y : Search R}
    (settled : Settled results p x) (step : Step s bs x y) : Settled results p y := by
  obtain ⟨stopped, queue, idle, hands, collected, scratch, calm⟩ := settled
  have busy {i : Nat} {w : WorkerState Buffer} (there : x.pool.workers[i]? = some w) :=
    idle w (List.mem_of_getElem? there)
  cases step with
  | around count step _ =>
    cases step with
    | proceed checking down more => cases checking.symm.trans stopped
    | send sending room => cases sending.symm.trans stopped
    | stop checking done => cases checking.symm.trans stopped
    | lineUp waiting free =>
      refine ⟨stopped, queue, fun w mem => ?_, hands, collected, scratch, calm⟩
      rcases List.mem_or_eq_of_mem_set mem with mem | eq
      · exact idle w mem
      · exact .inr (.inl eq)
    | take receiving next => cases queue.symm.trans next
    | leave receiving empty stopped =>
      refine ⟨stopped, queue, fun w mem => ?_, hands, collected, scratch, calm⟩
      rcases List.mem_or_eq_of_mem_set mem with mem | eq
      · exact idle w mem
      · exact .inr (.inr eq)
    | finish working result => rcases busy working with eq | eq | eq <;> cases eq
    | giveUp working up => rcases busy working with eq | eq | eq <;> cases eq
    | report reporting => rcases busy reporting with eq | eq | eq <;> cases eq
    | @collect r rest stopped next =>
      rw [next] at collected
      refine ⟨stopped, queue, idle, hands, ?_, scratch, calm⟩
      exact (List.append_cons _ r rest).symm.trans collected
    | finishAll stopped allGone empty running =>
      exact ⟨stopped, queue, idle, hands, collected, scratch, calm⟩
  | begin working free next => rcases busy working with eq | eq | eq <;> cases eq
  | go hand step => cases (hands _).symm.trans hand
  | settle working hand => cases (hands _).symm.trans hand

/-- A search that is settled comes to what its results do, with the scratch pool as it is. -/
theorem Settled.exists_outcome {results : List (Nat × Answer Buffer)} {p : ScratchPool}
    (settled : Settled results p x) (reached : Undisturbed s bs maxWorkers scratch x)
    (tidy : scratch.Tidy) :
    ∃ y, Undisturbed s bs maxWorkers scratch y ∧ y.scratch = p ∧
      y.pool.callerCancelled = false ∧
      y.pool.outcome = some (WorkerPool.total bs.length results) := by
  -- any step may be taken, since all make the search lighter and none changes what it comes to
  induction hw : x.weight bs using Nat.strongRecOn generalizing x with
  | _ w ih =>
    have follows := reached.reachable.follows tidy
    cases outcome : x.pool.outcome with
    | some a =>
      obtain ⟨-, empty, total⟩ := follows.pool.sound.ended a outcome
      have all := settled.results
      rw [empty, List.append_nil] at all
      rw [all, List.length_map] at total
      exact ⟨x, reached, settled.scratch, settled.calm, outcome.trans (congrArg _ total)⟩
    | none =>
      obtain ⟨y, step⟩ := follows.progress outcome
      exact ih _ (hw ▸ step.lighter follows) (settled.step step) (reached.step step) rfl

theorem settled_first {rest : List (WorkerState Buffer)} (waiting : ∀ w ∈ rest, w = .waiting)
    (count : Nat) (failed : Bool) (results : List (Nat × Answer Buffer)) (p : ScratchPool) :
    Settled results p (first (R := R)
      { workers := .waiting :: rest
        dispatcher := .stopped
        dispatched := count
        failed := failed
        arrived := results } p none) := by
  refine ⟨rfl, rfl, fun w mem => .inl ?_, fun i => ite_self none, rfl, rfl, rfl⟩
  rcases List.mem_cons.mp mem with rfl | mem
  · rfl
  · exact waiting w mem

/-- The first failure, or all buffers if there is none, is what reading in order comes to. -/
theorem Undisturbed.total_eq {results : List (Nat × Answer Buffer)}
    (reached : Undisturbed s bs maxWorkers scratch x) (several : 2 ≤ bs.length)
    (tidy : scratch.Tidy) (calm : x.pool.callerCancelled = false)
    (ended : x.pool.outcome = some (WorkerPool.total bs.length results))
    (kept : ∀ fault, (runInOrder (Engine.fillBuffer s) scratch bs).1 = .error fault →
      results.foldl WorkerPool.keep none = some fault) :
    WorkerPool.total bs.length results = (runInOrder (Engine.fillBuffer s) scratch bs).1 := by
  have follows := reached.reachable.follows tidy
  have finished := follows.pool.finished (by rwa [List.length_map]) ended
  have outcome := (Engine.runInOrder_fillBuffer s tidy bs).1
  cases ran : (runInOrder (Engine.fillBuffer s) scratch bs).1 with
  | error fault =>
    unfold WorkerPool.total
    rw [kept fault ran]
  | ok buffers =>
    have fair := fair_mapM (Engine.positionsOf s) bs
    rw [← outcome, ran] at fair
    rcases fair with ⟨_, all, same⟩ | ⟨fault, -, same⟩
    · -- no batch fails, and then what the workers find is what there is to be found
      cases same
      obtain ⟨others, total⟩ := finished.of_all_ok follows.pool.sound calm fun r mem => by
        rw [all] at mem
        obtain ⟨b, -, rfl⟩ := List.mem_map.mp mem
        rfl
      rw [total] at finished ⊢
      have whole := all.symm.trans (finished.ok follows.pool.sound)
      rw [List.map_injective_iff.mpr (fun a b => Except.ok.inj) whole]
    · cases same

/-- Several workers can come to what reading the batches in order comes to. -/
theorem exists_inOrder (s : Selection R) (maxWorkers : Nat) (several : 2 ≤ bs.length)
    (tidy : scratch.Tidy) :
    ∃ y, Undisturbed s bs maxWorkers scratch y ∧
      y.scratch = (runInOrder (Engine.fillBuffer s) scratch bs).2 ∧
      y.pool.outcome = some (runInOrder (Engine.fillBuffer s) scratch bs).1 := by
  obtain ⟨others, hn⟩ : ∃ others, min (max maxWorkers 1) bs.length = others + 1 :=
    ⟨min (max maxWorkers 1) bs.length - 1, by omega⟩
  have waiting : ∀ w ∈ List.replicate others (.waiting : WorkerState Buffer), w = .waiting :=
    fun w mem => List.eq_of_mem_replicate mem
  have begun : Undisturbed s bs maxWorkers scratch
      (first { workers := .waiting :: List.replicate others .waiting } scratch none) := by
    have begun : Undisturbed s bs maxWorkers scratch _ := .start
    unfold Search.start WorkerPool.start at begun
    rw [hn, List.replicate_succ] at begun
    unfold first
    simpa only [ite_self] using begun
  obtain ⟨count, failed, results, whole, kept, read⟩ :=
    Undisturbed.rounds waiting [] bs rfl rfl begun
  have made : (List.replicate bs.length (.ok [] : Answer Buffer)).length = bs.length :=
    List.length_replicate
  have stopped : Undisturbed s bs maxWorkers scratch (first
      { workers := .waiting :: List.replicate others .waiting
        dispatcher := .stopped
        dispatched := count
        failed := failed
        arrived := results } (runInOrder (Engine.fillBuffer s) scratch bs).2 none) := by
    refine read.step (.around made (.stop rfl ?_) fun _ _ h => h)
    rw [made]
    exact whole
  have settled := settled_first (R := R) waiting count failed results
    (runInOrder (Engine.fillBuffer s) scratch bs).2
  obtain ⟨y, reached, after, calm, ended⟩ := settled.exists_outcome stopped tidy
  have total := reached.total_eq several tidy calm ended kept
  exact ⟨y, reached, after, ended.trans (congrArg some total)⟩

/-- Reading the batches in order is one way to search through them. -/
theorem exists_leaves (s : Selection R) (bs : List (Nat × List R)) (maxWorkers : Nat)
    (tidy : scratch.Tidy) :
    ∃ dropped, Leaves s bs maxWorkers scratch (runInOrder (Engine.fillBuffer s) scratch bs).1
      dropped (runInOrder (Engine.fillBuffer s) scratch bs).2 := by
  match bs with
  | [] => exact ⟨[], .nothing rfl⟩
  | [(offset, items)] =>
    have begun : Hand.Undisturbed s (offset, items) scratch _ false := .start
    have read := begun.steps (Hand.reads s false _ _ _ _)
    rw [← Engine.fillBuffer_eq] at read
    have left : Leaves s [(offset, items)] maxWorkers scratch _ [] _ := .single rfl read
    rw [runInOrder]
    generalize Engine.fillBuffer s scratch offset items = filled at left
    obtain ⟨result, after⟩ := filled
    refine ⟨[], ?_⟩
    cases result with
    | ok b => exact left
    | error fault => exact left
  | first :: second :: rest =>
    have several : 2 ≤ (first :: second :: rest).length := Nat.le_add_left 2 _
    obtain ⟨y, reached, after, ended⟩ := exists_inOrder s maxWorkers several tidy
    rw [← after]
    cases ran : (runInOrder (Engine.fillBuffer s) scratch (first :: second :: rest)).1 with
    | ok buffers => exact ⟨[], .found several reached (ended.trans (congrArg some ran))⟩
    | error fault => exact ⟨_, .failed several reached (ended.trans (congrArg some ran))⟩

end Search

namespace Engine

variable {M : RecordModel} {e : Engine M}

theorem select_leaves (tidy : e.scratch.Tidy) (s : Selection R) (records : List R)
    (maxWorkers : Nat) :
    ∃ dropped, e.SelectLeaves s records maxWorkers (e.select s records false).1 dropped
      (e.select s records false).2 := by
  unfold select
  cases trivial : s.isTrivial with
  | true => exact ⟨[], .all trivial⟩
  | false =>
    obtain ⟨dropped, left⟩ :=
      Search.exists_leaves s (batches e.settings.batchSize records) maxWorkers tidy
    simp only [Bool.false_and, Bool.false_eq_true, ↓reduceIte]
    generalize runInOrder (fillBuffer s) e.scratch (batches e.settings.batchSize records) = ran
      at left
    obtain ⟨outcome, after⟩ := ran
    cases outcome with
    | ok buffers => exact ⟨dropped, .found trivial left⟩
    | error fault => exact ⟨dropped, .failed trivial left⟩

theorem arrange_leaves (e : Engine M) (p : SortPlan R) (records : List R) (maxWorkers : Nat) :
    e.ArrangeLeaves p records maxWorkers (e.arrange p records false).1
      (e.arrange p records false).2 := by
  unfold arrange
  by_cases few : p.keys = [] ∨ records.length < 2
  · rw [if_pos (by simpa using few)]
    exact .kept few
  · rw [if_neg (by simpa using few), if_neg Bool.false_ne_true]
    rw [not_or, Nat.not_lt] at few
    obtain ⟨a, ends⟩ := WorkerPool.exists_ends
      ((batches e.settings.batchSize records).map p.rowsOf) maxWorkers
    obtain ⟨rows, rfl⟩ := ends.of_all_ok fun r mem => by
      obtain ⟨b, -, rfl⟩ := List.mem_map.mp mem
      rfl
    refine .sorted few.1 few.2 ends ?_
    unfold SortPlan.arranged
    rw [flatten_rows ends.ok, List.length_map]

variable [DecidableEq M.Kind] {k : M.Kind}

theorem filter_leaves (tidy : e.scratch.Tidy) (records : List (M.Item k)) (f : Filter)
    (maxWorkers : Nat) :
    ∃ dropped, e.FilterLeaves k records f maxWorkers (e.filter k records f false).1 dropped
      (e.filter k records f false).2 := by
  unfold filter
  have scratch : (e.selection k f).2.scratch = e.scratch := rfl
  cases compiled : e.selection k f with
  | mk answer d =>
    rw [compiled] at scratch
    cases answer with
    | error fault => exact ⟨[], .unready compiled⟩
    | ok s =>
      obtain ⟨dropped, left⟩ := select_leaves (scratch ▸ tidy) s records maxWorkers
      exact ⟨dropped, .selected compiled left⟩

theorem sort_leaves (e : Engine M) (records : List (M.Item k)) (fields : List SortField)
    (maxWorkers : Nat) :
    e.SortLeaves k records fields maxWorkers (e.sort k records fields false).1
      (e.sort k records fields false).2 := by
  unfold sort
  cases plan : e.sortPlan k fields with
  | mk answer d =>
    cases answer with
    | error fault => exact .unplanned plan
    | ok p => exact .arranged plan (d.arrange_leaves p records maxWorkers)

theorem filterAndSort_leaves (tidy : e.scratch.Tidy) (records : List (M.Item k)) (f : Filter)
    (maxWorkers : Nat) :
    ∃ dropped, e.FilterAndSortLeaves k records f maxWorkers (e.filterAndSort k records f false).1
      dropped (e.filterAndSort k records f false).2 := by
  unfold filterAndSort
  have scratch : (e.sortPlan k f.sort).2.scratch = e.scratch := rfl
  cases plan : e.sortPlan k f.sort with
  | mk answer d =>
    rw [plan] at scratch
    cases answer with
    | error fault => exact ⟨[], .unplanned plan⟩
    | ok p =>
      obtain ⟨dropped, left⟩ := filter_leaves (scratch ▸ tidy) records f maxWorkers
      simp only
      generalize d.filter k records f false = ran at left
      obtain ⟨answer, after⟩ := ran
      cases answer with
      | error fault => exact ⟨dropped, .unfiltered plan left⟩
      | ok selected =>
        exact ⟨dropped, .filtered plan left (after.arrange_leaves p selected maxWorkers)⟩

/-- The first of the records that `filterAndSort` comes to. -/
theorem first_eq_map (e : Engine M) (records : List (M.Item k)) (f : Filter) (limit : Option Nat)
    (cancelled : Bool) :
    e.first k records f limit cancelled =
      ((e.filterAndSort k records f cancelled).1.map (Call.upTo limit),
        (e.filterAndSort k records f cancelled).2) := by
  unfold first
  generalize e.filterAndSort k records f cancelled = ran
  obtain ⟨answer, d⟩ := ran
  cases answer <;> rfl

theorem paginate_eq_map (e : Engine M) (records : List (M.Item k)) (f : Filter) (index size : Int)
    (cancelled : Bool) :
    e.paginate k records f index size cancelled =
      ((e.filterAndSort k records f cancelled).1.map fun sorted =>
          .ofList
            (.ofRequest (e.filterAndSort k records f cancelled).2.settings.pageSize index size)
            sorted f.sort,
        (e.filterAndSort k records f cancelled).2) := by
  unfold paginate
  generalize e.filterAndSort k records f cancelled = ran
  obtain ⟨answer, d⟩ := ran
  cases answer <;> rfl

end Engine

/-- What an engine does that works on one batch after the other is one way that a call can go. -/
theorem Call.run_leaves {M : RecordModel} [DecidableEq M.Kind] {e : Engine M}
    (tidy : e.scratch.Tidy) (maxWorkers : Nat) (c : Call M) :
    ∃ dropped, c.Leaves e maxWorkers (c.run e false).1 dropped (c.run e false).2 := by
  cases c with
  | filter k records f => exact Engine.filter_leaves tidy records f maxWorkers
  | sort k records fields => exact ⟨[], rfl, e.sort_leaves records fields maxWorkers⟩
  | filterAndSort k records f limit =>
    obtain ⟨dropped, left⟩ := Engine.filterAndSort_leaves tidy records f maxWorkers
    have same := e.first_eq_map records f limit false
    exact ⟨dropped, _, (congrArg Prod.snd same) ▸ left, congrArg Prod.fst same⟩
  | paginate k records f index size =>
    obtain ⟨dropped, left⟩ := Engine.filterAndSort_leaves tidy records f maxWorkers
    have same := e.paginate_eq_map records f index size false
    have after : (run e false (paginate k records f index size)).2 =
        (e.filterAndSort k records f false).2 := congrArg Prod.snd same
    refine ⟨dropped, (e.filterAndSort k records f false).1, ?_, ?_⟩
    · exact after ▸ left
    · rw [after]
      exact congrArg Prod.fst same

end FieldQuery

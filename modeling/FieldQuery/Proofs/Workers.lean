import FieldQuery.Proofs.Answers
import FieldQuery.Record.Workers

/-!
# What workers bring back

Whatever the order in which dispatcher, workers and collector take their steps, every result that is
under way or collected is what work made of its batch, or a cancellation, and no batch that was
dispatched is lost. Hence a run that ends has either the results of all batches, or a failure that
some batch really has.
-/
namespace FieldQuery

namespace WorkerPool

variable {β : Type} {made : List (Answer β)} {maxWorkers : Nat} {p q : WorkerPool β}

theorem mem_set_of_ne {α : Type} {l : List α} {i : Nat} {a old new : α} (there : l[i]? = some old)
    (mem : a ∈ l) (other : a ≠ old) : a ∈ l.set i new := by
  obtain ⟨j, hj⟩ := List.mem_iff_getElem?.mp mem
  refine List.mem_iff_getElem?.mpr ⟨j, ?_⟩
  have apart : i ≠ j := by
    rintro rfl
    exact other (Option.some.inj (hj.symm.trans there))
  rw [List.getElem?_set_ne apart, hj]

theorem mem_set_of_getElem? {α : Type} {l : List α} {i : Nat} {old : α} (there : l[i]? = some old)
    (new : α) : new ∈ l.set i new :=
  List.mem_set (List.getElem?_eq_some_iff.mp there).1 new

theorem flag_iff : p.flag = true ↔ p.callerCancelled = true ∨ p.failed = true := by
  rw [flag, Bool.or_eq_true]

/-- A result that a worker is about to report, or that has arrived, or that has been collected. -/
def Holds (p : WorkerPool β) (k : Nat) (r : Answer β) : Prop :=
  .reporting k r ∈ p.workers ∨ (k, r) ∈ p.arrived ∨ (k, r) ∈ p.collected

/-- A batch that was dispatched waits in the queue, or is worked on, or has a result. -/
def Has (p : WorkerPool β) (k : Nat) : Prop :=
  k ∈ p.queue ∨ .working k ∈ p.workers ∨ ∃ r, p.Holds k r

/-- What holds of a pool at every moment. -/
structure Sound (made : List (Answer β)) (p : WorkerPool β) : Prop where
  sending : p.dispatcher = .sending → p.dispatched < made.length
  kept : ∀ k < p.dispatched, p.Has k
  results : ∀ k r, p.Holds k r → made[k]? = some r ∨ r = .error .cancelled
  flagged : ∀ k fault, p.Holds k (.error fault) → p.failed = true
  cause : p.failed = true →
    p.callerCancelled = true ∨ ∃ k fault, made[k]? = some (.error fault) ∧ p.Holds k (.error fault)
  stopped : p.dispatcher = .stopped → p.flag = true ∨ p.dispatched = made.length
  gone : .gone ∈ p.workers → p.dispatcher = .stopped ∧ p.queue = []
  ended : ∀ a, p.outcome = some a → (∀ w ∈ p.workers, w = .gone) ∧ p.arrived = [] ∧
    a = total made.length p.collected

theorem Sound.start (made : List (Answer β)) (maxWorkers : Nat) :
    Sound made (start maxWorkers made.length) where
  sending h := nomatch h
  kept k hk := absurd hk (Nat.not_lt_zero k)
  results k r h := by simp [Holds, WorkerPool.start] at h
  flagged k fault h := by simp [Holds, WorkerPool.start] at h
  cause h := nomatch h
  stopped h := nomatch h
  gone h := by simp [WorkerPool.start] at h
  ended a h := nomatch h

/-- Cancelling from outside raises the flag and changes nothing else. -/
theorem Sound.cancel (h : Sound made p) : Sound made { p with callerCancelled := true } :=
  { h with
    cause := fun _ => .inl rfl
    stopped := fun _ => .inl rfl }

section Workers

variable {i : Nat} {old w : WorkerState β}

/-- Where a worker that reports nothing turns to something else, no result is lost. -/
theorem Holds.of_set (there : p.workers[i]? = some old) (silent : ∀ k r, old ≠ .reporting k r)
    {k : Nat} {r : Answer β} (h : p.Holds k r) :
    { p with workers := p.workers.set i w }.Holds k r := by
  rcases h with reported | later
  · exact .inl (mem_set_of_ne there reported (silent k r).symm)
  · exact .inr later

/-- Where a worker turns to something else than a report, no result is added. -/
theorem Holds.of_of_set (silent : ∀ k r, w ≠ .reporting k r) {k : Nat} {r : Answer β}
    (h : { p with workers := p.workers.set i w }.Holds k r) : p.Holds k r := by
  rcases h with reported | later
  · rcases List.mem_or_eq_of_mem_set reported with before | eq
    · exact .inl before
    · exact absurd eq.symm (silent k r)
  · exact .inr later

theorem gone_of_set (alive : w ≠ .gone) (h : .gone ∈ p.workers.set i w) :
    .gone ∈ p.workers := by
  rcases List.mem_or_eq_of_mem_set h with before | eq
  · exact before
  · exact absurd eq.symm alive

/-- After the end no worker is there that could do anything. -/
theorem Sound.running (h : Sound made p) (there : p.workers[i]? = some old) (alive : old ≠ .gone) :
    p.outcome = none := by
  cases ho : p.outcome with
  | none => rfl
  | some a => exact absurd ((h.ended a ho).1 old (List.mem_of_getElem? there)) alive

/-- A worker hands in a result: what work made of its batch, or a cancellation after the flag. -/
theorem Sound.deliver (h : Sound made p) {k : Nat} {r : Answer β} {failed : Bool}
    (working : p.workers[i]? = some (.working k))
    (result : made[k]? = some r ∨ r = .error .cancelled ∧ p.flag = true)
    (raises : failed = (p.failed || !r.isOk)) :
    Sound made { p with workers := p.workers.set i (.reporting k r), failed := failed } where
  sending := h.sending
  kept j hj := by
    rcases h.kept j hj with queued | worked | ⟨s, hs⟩
    · exact .inl queued
    · by_cases same : j = k
      · subst same
        exact .inr (.inr ⟨r, .inl (mem_set_of_getElem? working _)⟩)
      · refine .inr (.inl (mem_set_of_ne working worked ?_))
        exact fun eq => same (WorkerState.working.inj eq)
    · exact .inr (.inr ⟨s, hs.of_set working nofun⟩)
  results j s hs := by
    rcases hs with reported | later
    · rcases List.mem_or_eq_of_mem_set reported with before | eq
      · exact h.results j s (.inl before)
      · obtain ⟨rfl, rfl⟩ := WorkerState.reporting.inj eq
        exact result.imp_right And.left
    · exact h.results j s (.inr later)
  flagged j fault hs := by
    change failed = true
    rw [raises, Bool.or_eq_true]
    rcases hs with reported | later
    · rcases List.mem_or_eq_of_mem_set reported with before | eq
      · exact .inl (h.flagged j fault (.inl before))
      · obtain ⟨rfl, rfl⟩ := WorkerState.reporting.inj eq
        exact .inr rfl
    · exact .inl (h.flagged j fault (.inr later))
  cause up := by
    have before (up : p.failed = true) : p.callerCancelled = true ∨ ∃ j fault,
        made[j]? = some (.error fault) ∧
          { p with workers := p.workers.set i (.reporting k r) }.Holds j (.error fault) := by
      rcases h.cause up with caller | ⟨j, fault, hj, hs⟩
      · exact .inl caller
      · exact .inr ⟨j, fault, hj, hs.of_set working nofun⟩
    change failed = true at up
    rw [raises, Bool.or_eq_true] at up
    rcases up with up | bad
    · exact before up
    · cases r with
      | ok b => cases bad
      | error fault =>
        rcases result with hk | ⟨-, flag⟩
        · exact .inr ⟨k, fault, hk, .inl (mem_set_of_getElem? working _)⟩
        · rcases flag_iff.mp flag with caller | up
          · exact .inl caller
          · exact before up
  stopped hd := by
    rcases h.stopped hd with flag | all
    · refine .inl (flag_iff.mpr ?_)
      rcases flag_iff.mp flag with caller | up
      · exact .inl caller
      · exact .inr (by rw [raises, up, Bool.true_or])
    · exact .inr all
  gone hg := h.gone (gone_of_set (w := .reporting k r) nofun hg)
  ended a ha := by
    have running : p.outcome = none := h.running working nofun
    rw [running] at ha
    cases ha

/-- A worker with nothing in hand turns to something else, without a report. -/
theorem Sound.turn (h : Sound made p) (there : p.workers[i]? = some old)
    (idle : old = .waiting ∨ old = .receiving) (silent : ∀ k r, w ≠ .reporting k r)
    (leaving : w = .gone → p.dispatcher = .stopped ∧ p.queue = []) :
    Sound made { p with workers := p.workers.set i w } := by
  have quiet : ∀ k r, old ≠ .reporting k r := by
    rcases idle with rfl | rfl <;> exact nofun
  have free : ∀ k, old ≠ .working k := by
    rcases idle with rfl | rfl <;> exact nofun
  have running : p.outcome = none := by
    rcases idle with rfl | rfl <;> exact h.running there nofun
  refine { h with
    kept := fun k hk => ?_
    results := fun k r hr => h.results k r (hr.of_of_set silent)
    flagged := fun k fault hr => h.flagged k fault (hr.of_of_set silent)
    cause := fun up => ?_
    gone := fun hg => ?_
    ended := fun a ha => nomatch running.symm.trans ha }
  · rcases h.kept k hk with queued | worked | ⟨r, hr⟩
    · exact .inl queued
    · exact .inr (.inl (mem_set_of_ne there worked (free k).symm))
    · exact .inr (.inr ⟨r, hr.of_set there quiet⟩)
  · rcases h.cause up with caller | ⟨k, fault, hk, hr⟩
    · exact .inl caller
    · exact .inr ⟨k, fault, hk, hr.of_set there quiet⟩
  · rcases List.mem_or_eq_of_mem_set hg with before | eq
    · exact h.gone before
    · exact leaving eq.symm

/-- The next batch of the queue goes to a worker. -/
theorem Sound.take (h : Sound made p) {k : Nat} {rest : List Nat}
    (receiving : p.workers[i]? = some .receiving) (next : p.queue = k :: rest) :
    Sound made { p with workers := p.workers.set i (.working k), queue := rest } := by
  have turned := h.turn (w := .working k) receiving (.inr rfl) nofun nofun
  refine { turned with
    kept := fun j hj => ?_
    gone := fun hg => ?_ }
  · rcases turned.kept j hj with queued | later
    · rcases List.mem_cons.mp (next ▸ queued : j ∈ k :: rest) with rfl | waiting
      · exact .inr (.inl (mem_set_of_getElem? receiving _))
      · exact .inl waiting
    · exact .inr later
  · exact nomatch (turned.gone hg).2.symm.trans next

/-- A report arrives. -/
theorem Sound.report (h : Sound made p) {k : Nat} {r : Answer β}
    (reporting : p.workers[i]? = some (.reporting k r)) :
    Sound made { p with
      workers := p.workers.set i .waiting
      arrived := p.arrived ++ [(k, r)] } := by
  have forth {j : Nat} {s : Answer β} (hs : p.Holds j s) :
      { p with
        workers := p.workers.set i .waiting
        arrived := p.arrived ++ [(k, r)] }.Holds j s := by
    rcases hs with reported | arrived | collected
    · by_cases same : (.reporting j s : WorkerState β) = .reporting k r
      · obtain ⟨rfl, rfl⟩ := WorkerState.reporting.inj same
        exact .inr (.inl List.mem_concat_self)
      · exact .inl (mem_set_of_ne reporting reported same)
    · exact .inr (.inl (List.mem_append_left _ arrived))
    · exact .inr (.inr collected)
  have back {j : Nat} {s : Answer β}
      (hs : { p with
        workers := p.workers.set i .waiting
        arrived := p.arrived ++ [(k, r)] }.Holds j s) : p.Holds j s := by
    rcases hs with reported | arrived | collected
    · rcases List.mem_or_eq_of_mem_set reported with before | eq
      · exact .inl before
      · cases eq
    · rcases List.mem_append.mp arrived with before | last
      · exact .inr (.inl before)
      · obtain ⟨rfl, rfl⟩ := Prod.mk.inj (List.mem_singleton.mp last)
        exact .inl (List.mem_of_getElem? reporting)
    · exact .inr (.inr collected)
  have running : p.outcome = none := h.running reporting nofun
  refine { h with
    kept := fun j hj => ?_
    results := fun j s hs => h.results j s (back hs)
    flagged := fun j fault hs => h.flagged j fault (back hs)
    cause := fun up => ?_
    gone := fun hg => h.gone (gone_of_set (w := .waiting) nofun hg)
    ended := fun a ha => nomatch running.symm.trans ha }
  · rcases h.kept j hj with queued | worked | ⟨s, hs⟩
    · exact .inl queued
    · exact .inr (.inl (mem_set_of_ne reporting worked nofun))
    · exact .inr (.inr ⟨s, forth hs⟩)
  · rcases h.cause up with caller | ⟨j, fault, hj, hs⟩
    · exact .inl caller
    · exact .inr ⟨j, fault, hj, forth hs⟩

end Workers

/-- The collector takes the next result that has arrived. -/
theorem Sound.collect (h : Sound made p) {r : Nat × Answer β} {rest : List (Nat × Answer β)}
    (next : p.arrived = r :: rest) :
    Sound made { p with arrived := rest, collected := p.collected ++ [r] } := by
  have same (j : Nat) (s : Answer β) :
      { p with arrived := rest, collected := p.collected ++ [r] }.Holds j s ↔ p.Holds j s := by
    simp only [Holds, next, List.mem_append, List.mem_cons, List.not_mem_nil, or_false]
    constructor
    · rintro (reported | arrived | collected | last)
      · exact .inl reported
      · exact .inr (.inl (.inr arrived))
      · exact .inr (.inr collected)
      · exact .inr (.inl (.inl last))
    · rintro (reported | (last | arrived) | collected)
      · exact .inl reported
      · exact .inr (.inr (.inr last))
      · exact .inr (.inl arrived)
      · exact .inr (.inr (.inl collected))
  refine { h with
    kept := fun j hj => ?_
    results := fun j s hs => h.results j s ((same j s).mp hs)
    flagged := fun j fault hs => h.flagged j fault ((same j _).mp hs)
    cause := fun up => ?_
    ended := fun a ha => nomatch (h.ended a ha).2.1.symm.trans next }
  · rcases h.kept j hj with queued | worked | ⟨s, hs⟩
    · exact .inl queued
    · exact .inr (.inl worked)
    · exact .inr (.inr ⟨s, (same j s).mpr hs⟩)
  · rcases h.cause up with caller | ⟨j, fault, hj, hs⟩
    · exact .inl caller
    · exact .inr ⟨j, fault, hj, (same j _).mpr hs⟩

/-- The dispatcher puts the next batch into the queue. -/
theorem Sound.send (h : Sound made p) (sending : p.dispatcher = .sending) :
    Sound made { p with
      dispatcher := .checking
      dispatched := p.dispatched + 1
      queue := p.queue ++ [p.dispatched] } := by
  refine { h with
    sending := nofun
    kept := fun k hk => ?_
    stopped := nofun
    gone := fun hg => nomatch (h.gone hg).1.symm.trans sending }
  by_cases last : k = p.dispatched
  · subst last
    exact .inl List.mem_concat_self
  · have before : k < p.dispatched := by
      change k < p.dispatched + 1 at hk
      omega
    exact (h.kept k before).imp_left (List.mem_append_left _)

/-- Every step keeps the pool sound. -/
theorem Step.sound (s : Step made p q) (h : Sound made p) : Sound made q := by
  cases s with
  | proceed checking down more =>
    exact { h with
      sending := fun _ => more
      stopped := nofun
      gone := fun hg => nomatch (h.gone hg).1.symm.trans checking }
  | send sending room => exact h.send sending
  | stop checking done =>
    exact { h with
      sending := nofun
      stopped := fun _ => done
      gone := fun hg => nomatch (h.gone hg).1.symm.trans checking }
  | lineUp waiting free => exact h.turn waiting (.inl rfl) nofun nofun
  | take receiving next => exact h.take receiving next
  | leave receiving empty stopped =>
    exact h.turn receiving (.inr rfl) nofun fun _ => ⟨stopped, empty⟩
  | finish working result => exact h.deliver working (.inl result) rfl
  | giveUp working up =>
    exact h.deliver working (.inr ⟨rfl, up⟩) (Bool.or_true _).symm
  | report reporting => exact h.report reporting
  | collect stopped next => exact h.collect next
  | finishAll stopped allGone empty running =>
    exact { h with ended := fun a ha => ⟨allGone, empty, (Option.some.inj ha).symm⟩ }

theorem Reachable.sound (h : Reachable made maxWorkers p) : Sound made p := by
  induction h with
  | start => exact Sound.start made maxWorkers
  | step _ s ih => exact s.sound ih
  | cancel _ ih => exact ih.cancel

/-- Whether the failure kept so far is a cause rather than a cancellation. -/
def Caused (kept : Option QueryFault) : Prop :=
  ∃ fault, kept = some fault ∧ isCancelled fault = false

theorem Caused.keep {kept : Option QueryFault} (h : Caused kept) (r : Nat × Answer β) :
    Caused (keep kept r) := by
  obtain ⟨first, rfl, cause⟩ := h
  obtain ⟨k, fault | b⟩ := r
  · exact ⟨first, by simp [WorkerPool.keep, cause], cause⟩
  · exact ⟨first, rfl, cause⟩

theorem caused_keep_of_cause (kept : Option QueryFault) (k : Nat) {fault : QueryFault}
    (cause : isCancelled fault = false) : Caused (keep (β := β) kept (k, .error fault)) := by
  cases kept with
  | none => exact ⟨fault, rfl, cause⟩
  | some first =>
    cases hc : isCancelled first with
    | true => exact ⟨fault, by simp [keep, hc, cause], cause⟩
    | false => exact ⟨first, by simp [keep, hc], hc⟩

theorem Caused.foldl_keep (results : List (Nat × Answer β)) {kept : Option QueryFault}
    (h : Caused kept) : Caused (results.foldl WorkerPool.keep kept) := by
  induction results generalizing kept with
  | nil => exact h
  | cons r rest ih => exact ih (h.keep r)

/-- A cause among the results is never outweighed by cancellations. -/
theorem caused_foldl_keep {results : List (Nat × Answer β)} {k : Nat} {fault : QueryFault}
    (mem : (k, .error fault) ∈ results) (cause : isCancelled fault = false)
    (kept : Option QueryFault) : Caused (results.foldl keep kept) := by
  induction results generalizing kept with
  | nil => cases mem
  | cons r rest ih =>
    rcases List.mem_cons.mp mem with rfl | later
    · exact (caused_keep_of_cause kept k cause).foldl_keep rest
    · exact ih later (keep kept r)

/-- The failure that is kept was there before, or is one of the results. -/
theorem mem_of_foldl_keep {results : List (Nat × Answer β)} {kept : Option QueryFault}
    {fault : QueryFault} (h : results.foldl keep kept = some fault) :
    kept = some fault ∨ ∃ k, (k, .error fault) ∈ results := by
  induction results generalizing kept with
  | nil => exact .inl h
  | cons r rest ih =>
    rcases ih h with now | ⟨k, later⟩
    · obtain ⟨k, other | b⟩ := r
      · cases kept with
        | none =>
          cases now
          exact .inr ⟨k, List.mem_cons_self⟩
        | some first =>
          simp only [keep] at now
          split at now
          · cases now
            exact .inr ⟨k, List.mem_cons_self⟩
          · exact .inl now
      · exact .inl now
    · exact .inr ⟨k, List.mem_cons_of_mem r later⟩

theorem foldl_keep_eq_none {results : List (Nat × Answer β)}
    (fine : ∀ k fault, (k, .error fault) ∉ results) : results.foldl keep none = none := by
  cases h : results.foldl keep none with
  | none => rfl
  | some fault =>
    rcases mem_of_foldl_keep h with before | ⟨k, mem⟩
    · cases before
    · exact absurd mem (fine k fault)

theorem mem_of_resultOf {results : List (Nat × Answer β)} {k : Nat} {b : β}
    (h : resultOf k results = .ok b) : (k, .ok b) ∈ results := by
  unfold resultOf at h
  split at h
  · rename_i j c found
    cases h
    have there := List.mem_reverse.mp (List.mem_of_find?_eq_some found)
    have same : j = k := by simpa using List.find?_some found
    exact same ▸ there
  · cases h

theorem resultOf_ok {results : List (Nat × Answer β)}
    (fine : ∀ k fault, (k, .error fault) ∉ results) {k : Nat} {r : Answer β}
    (mem : (k, r) ∈ results) : ∃ b, resultOf k results = .ok b := by
  unfold resultOf
  cases found : results.reverse.find? (·.1 = k) with
  | none =>
    have none := List.find?_eq_none.mp found (k, r) (List.mem_reverse.mpr mem)
    exact absurd (decide_eq_true rfl) none
  | some x =>
    obtain ⟨j, fault | b⟩ := x
    · exact absurd (List.mem_reverse.mp (List.mem_of_find?_eq_some found)) (fine j fault)
    · exact ⟨b, rfl⟩

/-- Results come to a list only if each batch has one that is fine. -/
theorem total_ok {count : Nat} {results : List (Nat × Answer β)} {bs : List β}
    (h : total count results = .ok bs) :
    bs.length = count ∧ ∀ k b, bs[k]? = some b → (k, .ok b) ∈ results := by
  unfold total at h
  split at h
  · cases h
  · have each := mapM_ok_forall₂ h
    refine ⟨by rw [← each.length_eq, List.length_range], ?_⟩
    intro k b hk
    have inside : k < count := by
      have := (List.getElem?_eq_some_iff.mp hk).1
      rwa [← each.length_eq, List.length_range] at this
    have one := each.get (i := k) (by rwa [List.length_range]) (List.getElem?_eq_some_iff.mp hk).1
    simp only [List.get_eq_getElem, List.getElem_range] at one
    rw [(List.getElem?_eq_some_iff.mp hk).2] at one
    exact mem_of_resultOf one

theorem total_of_fine {count : Nat} {results : List (Nat × Answer β)}
    (fine : ∀ k fault, (k, .error fault) ∉ results) (all : ∀ k < count, ∃ r, (k, r) ∈ results) :
    ∃ bs, total count results = .ok bs := by
  unfold total
  rw [foldl_keep_eq_none fine]
  refine mapM_ok_of_forall fun k hk => ?_
  obtain ⟨r, mem⟩ := all k (List.mem_range.mp hk)
  exact resultOf_ok fine mem

/-- With a cause among the results, a cause is reported. -/
theorem total_of_cause {n : Nat} {results : List (Nat × Answer β)} {k : Nat}
    {fault : QueryFault} (mem : (k, .error fault) ∈ results) (cause : isCancelled fault = false) :
    ∃ j other, (j, .error other) ∈ results ∧ isCancelled other = false ∧
      total n results = .error other := by
  obtain ⟨other, kept, real⟩ := caused_foldl_keep mem cause none
  rcases mem_of_foldl_keep kept with before | ⟨j, there⟩
  · cases before
  · exact ⟨j, other, there, real, by rw [total, kept]⟩

structure Finished (made : List (Answer β)) (p : WorkerPool β) (a : Answer (List β)) : Prop where
  total : a = total made.length p.collected
  held : ∀ k r, p.Holds k r ↔ (k, r) ∈ p.collected
  kept : ∀ k < p.dispatched, ∃ r, (k, r) ∈ p.collected
  stopped : p.flag = true ∨ p.dispatched = made.length

theorem Sound.finished (h : Sound made p) (workers : p.workers ≠ []) {a : Answer (List β)}
    (ended : p.outcome = some a) : Finished made p a := by
  obtain ⟨allGone, empty, total⟩ := h.ended a ended
  have held (k : Nat) (r : Answer β) : p.Holds k r ↔ (k, r) ∈ p.collected := by
    constructor
    · rintro (reported | arrived | collected)
      · cases allGone _ reported
      · rw [empty] at arrived
        cases arrived
      · exact collected
    · exact fun collected => .inr (.inr collected)
  obtain ⟨w, hw⟩ := List.exists_mem_of_ne_nil _ workers
  obtain ⟨stopped, queue⟩ := h.gone (allGone w hw ▸ hw)
  refine ⟨total, held, fun k hk => ?_, h.stopped stopped⟩
  rcases h.kept k hk with queued | worked | ⟨r, hr⟩
  · rw [queue] at queued
    cases queued
  · cases allGone _ worked
  · exact ⟨r, (held k r).mp hr⟩

/-- A list of results is complete and in the order of the batches. -/
theorem Finished.ok {bs : List β} (f : Finished made p (.ok bs)) (h : Sound made p) :
    made = bs.map .ok := by
  obtain ⟨length, collected⟩ := total_ok f.total.symm
  refine List.ext_getElem? fun k => ?_
  rw [List.getElem?_map]
  cases hk : bs[k]? with
  | some b =>
    rcases h.results k _ ((f.held k _).mpr (collected k b hk)) with result | bad
    · exact result
    · cases bad
  | none =>
    have outside := List.getElem?_eq_none_iff.mp hk
    exact List.getElem?_eq_none_iff.mpr (length ▸ outside)

/-- Without a failure that someone raised, every batch is worked on to its end. -/
theorem Finished.undisturbed {a : Answer (List β)} (f : Finished made p a) (h : Sound made p)
    (calm : p.callerCancelled = false) (fine : p.failed = false) :
    (∀ k fault, (k, .error fault) ∉ p.collected) ∧
      ∀ k < made.length, ∃ r, (k, r) ∈ p.collected := by
  constructor
  · intro k fault mem
    have raised := h.flagged k fault ((f.held k _).mpr mem)
    rw [fine] at raised
    cases raised
  · intro k hk
    refine f.kept k ?_
    rcases f.stopped with flag | all
    · rcases flag_iff.mp flag with caller | raised
      · rw [calm] at caller
        cases caller
      · rw [fine] at raised
        cases raised
    · exact all ▸ hk

theorem Finished.of_all_ok {a : Answer (List β)} (f : Finished made p a) (h : Sound made p)
    (calm : p.callerCancelled = false) (all : ∀ r ∈ made, r.isOk = true) : ∃ bs, a = .ok bs := by
  have fine : p.failed = false := by
    refine Bool.eq_false_iff.mpr fun raised => ?_
    rcases h.cause raised with caller | ⟨k, fault, hk, -⟩
    · rw [calm] at caller
      cases caller
    · cases all _ (List.mem_of_getElem? hk)
  obtain ⟨fine, complete⟩ := f.undisturbed h calm fine
  obtain ⟨bs, hbs⟩ := total_of_fine fine complete
  exact ⟨bs, f.total.trans hbs⟩

theorem isCancelled_iff {fault : QueryFault} : isCancelled fault = true ↔ fault = .cancelled := by
  cases fault <;> simp [isCancelled]

/-- If batches fail of themselves, the failure of one of them is reported. -/
theorem Finished.of_error {a : Answer (List β)} (f : Finished made p a) (h : Sound made p)
    (calm : p.callerCancelled = false) (honest : .error .cancelled ∉ made) {fault : QueryFault}
    (bad : .error fault ∈ made) :
    ∃ other, .error other ∈ made ∧ other ≠ .cancelled ∧ a = .error other := by
  have raised : p.failed = true := by
    refine Bool.of_not_eq_false fun fine => ?_
    obtain ⟨none, complete⟩ := f.undisturbed h calm fine
    obtain ⟨k, hk⟩ := List.mem_iff_getElem?.mp bad
    obtain ⟨r, mem⟩ := complete k (List.getElem?_eq_some_iff.mp hk).1
    rcases h.results k r ((f.held k r).mpr mem) with result | rfl
    · cases result.symm.trans hk
      exact none k fault mem
    · exact none k .cancelled mem
  rcases h.cause raised with caller | ⟨k, first, hk, held⟩
  · rw [calm] at caller
    cases caller
  have cause : isCancelled first = false := by
    refine Bool.eq_false_iff.mpr fun hc => honest ?_
    exact isCancelled_iff.mp hc ▸ List.mem_of_getElem? hk
  obtain ⟨j, other, mem, real, reported⟩ :=
    total_of_cause (n := made.length) ((f.held k _).mp held) cause
  have proper : other ≠ .cancelled := fun eq => by
    rw [isCancelled_iff.mpr eq] at real
    cases real
  refine ⟨other, ?_, proper, f.total.trans reported⟩
  rcases h.results j _ ((f.held j _).mpr mem) with result | eq
  · exact List.mem_of_getElem? result
  · exact absurd (Except.error.inj eq) proper

theorem Reachable.finished (reached : Reachable made maxWorkers p) (several : 2 ≤ made.length)
    {a : Answer (List β)} (ended : p.outcome = some a) : Finished made p a := by
  refine reached.sound.finished (fun none => ?_) ended
  have workers := reached.workers_length
  rw [none, List.length_nil] at workers
  omega

theorem Ends.ok {cancelled : Bool} {bs : List β} (h : Ends made maxWorkers cancelled (.ok bs)) :
    made = bs.map .ok := by
  generalize ha : (Except.ok bs : Answer (List β)) = a at h
  cases h with
  | nothing empty =>
    cases ha
    exact empty
  | @single _ r one =>
    cases r with
    | error fault => cases ha
    | ok b =>
      cases ha
      exact one
  | singleCancelled one => cases ha
  | pool several reached ended =>
    subst ha
    exact (reached.finished several ended).ok reached.sound

theorem Ends.of_all_ok {a : Answer (List β)} (h : Ends made maxWorkers false a)
    (all : ∀ r ∈ made, r.isOk = true) : ∃ bs, a = .ok bs := by
  generalize hc : false = cancelled at h
  cases h with
  | nothing empty => exact ⟨[], rfl⟩
  | @single _ r one =>
    cases r with
    | error fault => cases all (.error fault) (one ▸ List.mem_singleton_self _)
    | ok b => exact ⟨[b], rfl⟩
  | singleCancelled one => cases hc
  | pool several reached ended =>
    exact (reached.finished several ended).of_all_ok reached.sound hc.symm all

theorem Ends.of_error {a : Answer (List β)} (h : Ends made maxWorkers false a)
    (honest : .error .cancelled ∉ made) {fault : QueryFault} (bad : .error fault ∈ made) :
    ∃ other, .error other ∈ made ∧ other ≠ .cancelled ∧ a = .error other := by
  generalize hc : false = cancelled at h
  cases h with
  | nothing empty =>
    rw [empty] at bad
    cases bad
  | @single _ r one =>
    rw [one] at bad
    cases List.mem_singleton.mp bad
    refine ⟨fault, one ▸ List.mem_singleton_self _, fun eq => honest ?_, rfl⟩
    rw [one, eq]
    exact List.mem_singleton_self _
  | singleCancelled one => cases hc
  | pool several reached ended =>
    exact (reached.finished several ended).of_error reached.sound hc.symm honest bad

end WorkerPool

end FieldQuery

import FieldQuery.Proofs.Answers
import FieldQuery.Record.Engine

/-!
# What is remembered

An engine remembers how paths were resolved and keeps its scratch buffers. Neither shows in its
answers: a request may be put again, or after others, and is answered as before. Main statements:
`Engine.Steady.bind` and `Engine.steady_filterAndSort`.
-/
namespace FieldQuery

namespace ResolutionCache

variable {M : RecordModel} [DecidableEq M.Kind] {c : ResolutionCache M} {s t : Source M}
  {p q : String}

/-- What is learned under one key does not show under another. -/
theorem findIn_learn_of_ne {key : ResolutionKey M.Kind} (other : keyOf s p ≠ key) :
    findIn key (c.learn s p).entries = findIn key c.entries := by
  unfold learn
  split
  · rfl
  · split
    · exact dif_neg other
    · rfl

theorem find?_learn_of_ne (other : keyOf s p ≠ keyOf t q) :
    (c.learn s p).find? t q = c.find? t q := findIn_learn_of_ne other

theorem answer_learn_self : (c.learn s p).answer s p = c.answer s p := by
  cases known : c.find? s p with
  | some target =>
    have same : c.learn s p = c := by
      unfold learn
      rw [known]
    rw [same]
  | none =>
    cases found : s.locate p with
    | error fault =>
      have same : c.learn s p = c := by
        unfold learn
        rw [known, found]
      rw [same]
    | ok target => simp only [answer, find?_learn_self found known, known, found]

/-- Learning changes no answer if the key tells the source. -/
theorem answer_learn (key : keyOf s p = keyOf t q → s = t ∧ p = q) :
    (c.learn s p).answer t q = c.answer t q := by
  by_cases same : keyOf s p = keyOf t q
  · obtain ⟨rfl, rfl⟩ := key same
    exact answer_learn_self
  · unfold answer
    rw [find?_learn_of_ne same]

theorem answer_learnAll (paths : List String)
    (key : ∀ p ∈ paths, keyOf s p = keyOf t q → s = t ∧ p = q) :
    (c.learnAll s paths).answer t q = c.answer t q := by
  induction paths generalizing c with
  | nil => rfl
  | cons p rest ih =>
    have later := ih (c := c.learn s p) fun r hr => key r (List.mem_cons_of_mem p hr)
    exact later.trans (answer_learn (key p List.mem_cons_self))

omit [DecidableEq M.Kind] in
/-- Record types are told apart by the key. -/
theorem eq_of_keyOf_record {j k : M.Kind} (h : keyOf (.record j) p = keyOf (.record k) q) :
    Source.record j = .record (M := M) k ∧ p = q := by
  have family : SourceFamily.record j = .record k := congrArg (·.family) h
  exact ⟨congrArg Source.record (SourceFamily.record.inj family), congrArg (·.path) h⟩

end ResolutionCache

namespace Engine

variable {M : RecordModel} [DecidableEq M.Kind] {α β : Type} {R : Type}

/-- Engines that work in the same way and look up paths with the same outcome. -/
structure Alike (e d : Engine M) : Prop where
  settings : e.settings = d.settings
  lookup : ∀ k, e.lookup k = d.lookup k

theorem Alike.refl (e : Engine M) : e.Alike e := ⟨rfl, fun _ => rfl⟩

theorem Alike.symm {e d : Engine M} (h : e.Alike d) : d.Alike e :=
  ⟨h.settings.symm, fun k => (h.lookup k).symm⟩

theorem Alike.trans {a b c : Engine M} (h : a.Alike b) (k : b.Alike c) : a.Alike c :=
  ⟨h.settings.trans k.settings, fun j => (h.lookup j).trans (k.lookup j)⟩

/-- A request that is answered in the same way by engines that are alike, and leaves behind an
engine alike to the one it was put to. Scratch buffers are in order before and after. -/
structure Steady (request : Engine M → Answer α × Engine M) : Prop where
  answer : ∀ e d : Engine M, e.Alike d → e.scratch.Tidy → d.scratch.Tidy →
    (request e).1 = (request d).1
  alike : ∀ e : Engine M, e.scratch.Tidy → (request e).2.Alike e
  tidy : ∀ e : Engine M, e.scratch.Tidy → (request e).2.scratch.Tidy

/-- A request that goes on to another one unless it fails. -/
def andThen (first : Engine M → Answer α × Engine M) (next : α → Engine M → Answer β × Engine M)
    (e : Engine M) : Answer β × Engine M :=
  match first e with
  | (.error fault, e) => (.error fault, e)
  | (.ok a, e) => next a e

omit [DecidableEq M.Kind] in
theorem andThen_error {first : Engine M → Answer α × Engine M}
    {next : α → Engine M → Answer β × Engine M} {e : Engine M} {fault : QueryFault}
    (h : (first e).1 = .error fault) : andThen first next e = (.error fault, (first e).2) := by
  have whole : first e = (.error fault, (first e).2) := Prod.ext h rfl
  unfold andThen
  rw [whole]

omit [DecidableEq M.Kind] in
theorem andThen_ok {first : Engine M → Answer α × Engine M}
    {next : α → Engine M → Answer β × Engine M} {e : Engine M} {a : α}
    (h : (first e).1 = .ok a) : andThen first next e = next a (first e).2 := by
  have whole : first e = (.ok a, (first e).2) := Prod.ext h rfl
  unfold andThen
  rw [whole]

omit [DecidableEq M.Kind] in
theorem ok_of_andThen {first : Engine M → Answer α × Engine M}
    {next : α → Engine M → Answer β × Engine M} {e : Engine M} {b : β}
    (h : (andThen first next e).1 = .ok b) :
    ∃ a, (first e).1 = .ok a ∧ (next a (first e).2).1 = .ok b := by
  cases outcome : (first e).1 with
  | error fault =>
    rw [andThen_error outcome] at h
    cases h
  | ok a =>
    rw [andThen_ok outcome] at h
    exact ⟨a, rfl, h⟩

theorem Steady.bind {first : Engine M → Answer α × Engine M}
    {next : α → Engine M → Answer β × Engine M} (hf : Steady first) (hn : ∀ a, Steady (next a)) :
    Steady (andThen first next) := by
  constructor
  · intro e d alike he hd
    have same := hf.answer e d alike he hd
    cases outcome : (first e).1 with
    | error fault => rw [andThen_error outcome, andThen_error (same.symm.trans outcome)]
    | ok a =>
      rw [andThen_ok outcome, andThen_ok (same.symm.trans outcome)]
      have after := ((hf.alike e he).trans alike).trans (hf.alike d hd).symm
      exact (hn a).answer _ _ after (hf.tidy e he) (hf.tidy d hd)
  · intro e he
    cases outcome : (first e).1 with
    | error fault =>
      rw [andThen_error outcome]
      exact hf.alike e he
    | ok a =>
      rw [andThen_ok outcome]
      exact ((hn a).alike _ (hf.tidy e he)).trans (hf.alike e he)
  · intro e he
    cases outcome : (first e).1 with
    | error fault =>
      rw [andThen_error outcome]
      exact hf.tidy e he
    | ok a =>
      rw [andThen_ok outcome]
      exact (hn a).tidy _ (hf.tidy e he)

theorem lookup_learned (e : Engine M) (j k : M.Kind) (paths : List String) :
    (e.learned j paths).lookup k = e.lookup k := by
  funext path
  exact ResolutionCache.answer_learnAll paths fun _ _ => ResolutionCache.eq_of_keyOf_record

theorem learned_alike (e : Engine M) (k : M.Kind) (paths : List String) :
    (e.learned k paths).Alike e :=
  ⟨rfl, fun j => e.lookup_learned k j paths⟩

theorem steady_selection (k : M.Kind) (f : Filter) :
    Steady fun e : Engine M => e.selection k f := by
  constructor
  · intro e d alike _ _
    simp only [selection, alike.lookup, alike.settings]
  · intro e _
    exact e.learned_alike k _
  · intro e he
    exact he

theorem steady_sortPlan (k : M.Kind) (sort : List SortField) :
    Steady fun e : Engine M => e.sortPlan k sort := by
  constructor
  · intro e d alike _ _
    simp only [sortPlan, alike.lookup, alike.settings]
  · intro e _
    exact e.learned_alike k _
  · intro e he
    exact he

/-- A buffer out of a tidy pool is empty, so it holds just the positions of its batch. -/
theorem fillBuffer_of_tidy (s : Selection R) {scratch : ScratchPool} (h : scratch.Tidy)
    (offset : Nat) (batch : List R) :
    (fillBuffer s scratch offset batch).1 = s.hits offset batch ∧
      (fillBuffer s scratch offset batch).2.Tidy := by
  obtain ⟨empty, tidy⟩ := h.acquire
  unfold fillBuffer
  cases found : s.hits offset batch with
  | error fault => exact ⟨rfl, tidy.release _⟩
  | ok hits =>
    refine ⟨?_, tidy⟩
    change Except.ok (scratch.acquire.1 ++ hits) = .ok hits
    rw [empty, List.nil_append]

def positionsOf (s : Selection R) (b : Nat × List R) : Answer (List Nat) := s.hits b.1 b.2

theorem runInOrder_fillBuffer (s : Selection R) {scratch : ScratchPool} (h : scratch.Tidy)
    (bs : List (Nat × List R)) :
    (runInOrder (fillBuffer s) scratch bs).1 = bs.mapM (positionsOf s) ∧
      (runInOrder (fillBuffer s) scratch bs).2.Tidy := by
  induction bs generalizing scratch with
  | nil => exact ⟨rfl, h⟩
  | cons b rest ih =>
    obtain ⟨offset, batch⟩ := b
    obtain ⟨buffer, tidy⟩ := fillBuffer_of_tidy s h offset batch
    obtain ⟨buffers, after⟩ := ih tidy
    have head : positionsOf s (offset, batch) = (fillBuffer s scratch offset batch).1 := buffer.symm
    rw [runInOrder]
    generalize fillBuffer s scratch offset batch = filled at head tidy buffers after
    obtain ⟨outcome, pool⟩ := filled
    cases outcome with
    | error fault => exact ⟨(mapM_cons_error_head head).symm, tidy⟩
    | ok hits =>
      dsimp only at buffers after ⊢
      generalize runInOrder (fillBuffer s) pool rest = ran at buffers after
      obtain ⟨outcome, last⟩ := ran
      cases outcome with
      | error fault => exact ⟨(mapM_cons_error_tail head buffers.symm).symm, after⟩
      | ok more => exact ⟨(mapM_cons_ok head buffers.symm).symm, after⟩

/-- The records at the positions that the batches of a list yield. -/
def selected (size : Nat) (s : Selection R) (records : List R) : Answer (List R) :=
  ((batches size records).mapM (positionsOf s)).map fun positions =>
    positions.flatten.filterMap fun i => records.toArray[i]?

theorem select_of_tidy (e : Engine M) (h : e.scratch.Tidy) (s : Selection R) (records : List R)
    (cancelled : Bool) :
    (e.select s records cancelled).1 =
        (if s.isTrivial then (if cancelled then .error .cancelled else .ok records)
        else if cancelled && !records.isEmpty then .error .cancelled
        else selected e.settings.batchSize s records) ∧
      (e.select s records cancelled).2.Alike e ∧ (e.select s records cancelled).2.scratch.Tidy := by
  unfold select
  split
  · exact ⟨rfl, .refl e, h⟩
  · split
    · exact ⟨rfl, .refl e, h⟩
    · obtain ⟨outcome, tidy⟩ := runInOrder_fillBuffer s h (batches e.settings.batchSize records)
      unfold selected
      rw [← outcome]
      generalize runInOrder (fillBuffer s) e.scratch (batches e.settings.batchSize records) = ran
        at tidy
      obtain ⟨outcome, scratch⟩ := ran
      cases outcome with
      | error fault => exact ⟨rfl, ⟨rfl, fun _ => rfl⟩, tidy⟩
      | ok buffers => exact ⟨rfl, ⟨rfl, fun _ => rfl⟩, tidy.releaseAll buffers⟩

theorem steady_select (s : Selection R) (records : List R) (cancelled : Bool) :
    Steady fun e : Engine M => e.select s records cancelled := by
  constructor
  · intro e d alike he hd
    rw [(e.select_of_tidy he s records cancelled).1, (d.select_of_tidy hd s records cancelled).1,
      alike.settings]
  · intro e he
    exact (e.select_of_tidy he s records cancelled).2.1
  · intro e he
    exact (e.select_of_tidy he s records cancelled).2.2

/-- The positions of records in the order of a plan. -/
def arrangement (p : SortPlan R) (records : List R) : List Nat :=
  let rows := (records.map p.row).toArray
  stableSort (fun i j => compareRows p.directions (rows.getD i []) (rows.getD j []))
    (List.range records.length)

theorem arrange_of_tidy (e : Engine M) (h : e.scratch.Tidy) (p : SortPlan R) (records : List R)
    (cancelled : Bool) :
    (e.arrange p records cancelled).1 =
        (if p.keys.isEmpty || records.length < 2 then .ok records
        else if cancelled then .error .cancelled
        else .ok ((arrangement p records).filterMap fun i => records.toArray[i]?)) ∧
      (e.arrange p records cancelled).2.Alike e ∧
      (e.arrange p records cancelled).2.scratch.Tidy := by
  obtain ⟨empty, tidy⟩ := h.acquire
  unfold arrange
  split
  · exact ⟨rfl, .refl e, h⟩
  · split
    · exact ⟨rfl, .refl e, h⟩
    · refine ⟨?_, ⟨rfl, fun _ => rfl⟩, tidy.release _⟩
      generalize e.scratch.acquire = taken at empty
      obtain ⟨buffer, pool⟩ := taken
      have unsent : buffer = [] := empty
      subst unsent
      rfl

theorem steady_arrange (p : SortPlan R) (records : List R) (cancelled : Bool) :
    Steady fun e : Engine M => e.arrange p records cancelled := by
  constructor
  · intro e d _ he hd
    rw [(e.arrange_of_tidy he p records cancelled).1, (d.arrange_of_tidy hd p records cancelled).1]
  · intro e he
    exact (e.arrange_of_tidy he p records cancelled).2.1
  · intro e he
    exact (e.arrange_of_tidy he p records cancelled).2.2

section Requests

variable (k : M.Kind) (records : List (M.Item k)) (f : Filter) (cancelled : Bool)

theorem filter_eq (e : Engine M) : e.filter k records f cancelled =
    andThen (·.selection k f) (fun s e => e.select s records cancelled) e := by
  unfold filter andThen
  dsimp only
  rcases e.selection k f with ⟨_ | _, _⟩ <;> rfl

theorem filterAndSort_eq (e : Engine M) : e.filterAndSort k records f cancelled =
    andThen (·.sortPlan k f.sort) (fun p => andThen (·.filter k records f cancelled)
      fun selected e => e.arrange p selected cancelled) e := by
  unfold filterAndSort andThen
  dsimp only
  rcases e.sortPlan k f.sort with ⟨_ | p, e⟩
  · rfl
  · dsimp only
    rcases e.filter k records f cancelled with ⟨_ | _, _⟩ <;> rfl

theorem paginate_eq (index size : Int) (e : Engine M) :
    e.paginate k records f index size cancelled =
      andThen (·.filterAndSort k records f cancelled) (fun sorted e =>
        (.ok (Page.ofList (.ofRequest e.settings.pageSize index size) sorted f.sort), e)) e := by
  unfold paginate andThen
  dsimp only
  rcases e.filterAndSort k records f cancelled with ⟨_ | _, _⟩ <;> rfl

theorem steady_filter : Steady fun e : Engine M => e.filter k records f cancelled := by
  simp only [filter_eq]
  exact (steady_selection k f).bind fun s => steady_select s records cancelled

theorem steady_filterAndSort :
    Steady fun e : Engine M => e.filterAndSort k records f cancelled := by
  simp only [filterAndSort_eq]
  refine (steady_sortPlan k f.sort).bind fun p => ?_
  exact (steady_filter k records f cancelled).bind fun found => steady_arrange p found cancelled

theorem steady_paginate (index size : Int) :
    Steady fun e : Engine M => e.paginate k records f index size cancelled := by
  simp only [paginate_eq]
  refine (steady_filterAndSort k records f cancelled).bind fun sorted => ?_
  constructor
  · intro e d alike _ _
    simp only [alike.settings]
  · intro e _
    exact .refl e
  · intro e he
    exact he

end Requests

end Engine

end FieldQuery

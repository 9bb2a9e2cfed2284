import FieldQuery.Record.Arranging
import FieldQuery.Record.Search

/-!
# Calls on an engine

What an engine is asked for, one call after another, while nobody else uses its scratch pool: how a
call can end, which buffers of the pool stay away when it is over, and which pools it passes until
then. When a search fails, the positions that other batches had found are dropped with the buffers
that hold them.
-/
namespace FieldQuery

variable {R : Type}

/-- What the caller can hold who reads a batch alone, and whether it cancelled. -/
inductive Hand.Undisturbed (s : Selection R) (batch : Nat × List R) (scratch : ScratchPool) :
    Hand R × ScratchPool → Bool → Prop where
  | start : Undisturbed s batch scratch (.start scratch.acquire.1 batch, scratch.acquire.2) false
  | step {x y : Hand R × ScratchPool} {cancelled : Bool}
      (reached : Undisturbed s batch scratch x cancelled) (step : Step s cancelled x y) :
      Undisturbed s batch scratch y cancelled
  | cancel {x : Hand R × ScratchPool} {cancelled : Bool}
      (reached : Undisturbed s batch scratch x cancelled) : Undisturbed s batch scratch x true

/-- What the results that are fine hold. -/
def WorkerPool.fine {β : Type} (results : List (Nat × Answer β)) : List β :=
  results.filterMap (·.2.toOption)

namespace Search

/-- The states that a search can come to; the caller may cancel at any moment. -/
inductive Undisturbed (s : Selection R) (bs : List (Nat × List R)) (maxWorkers : Nat)
    (scratch : ScratchPool) : Search R → Prop where
  | start : Undisturbed s bs maxWorkers scratch (.start maxWorkers bs.length scratch)
  | step {x y : Search R} (reached : Undisturbed s bs maxWorkers scratch x) (step : Step s bs x y) :
      Undisturbed s bs maxWorkers scratch y
  | cancel {x : Search R} (reached : Undisturbed s bs maxWorkers scratch x) :
      Undisturbed s bs maxWorkers scratch
        { x with pool := { x.pool with callerCancelled := true } }

/-- How a search through batches can end, the buffers it drops, and the scratch pool then. -/
inductive Leaves (s : Selection R) (bs : List (Nat × List R)) (maxWorkers : Nat)
    (scratch : ScratchPool) : Answer (List Buffer) → List Buffer → ScratchPool → Prop where
  | nothing (empty : bs = []) : Leaves s bs maxWorkers scratch (.ok []) [] scratch
  | single {batch : Nat × List R} {r : Answer Buffer} {after : ScratchPool} {cancelled : Bool}
      (one : bs = [batch])
      (reached : Hand.Undisturbed s batch scratch (.done r, after) cancelled) :
      Leaves s bs maxWorkers scratch (r.map ([·])) [] after
  | found {x : Search R} {buffers : List Buffer} (several : 2 ≤ bs.length)
      (reached : Undisturbed s bs maxWorkers scratch x)
      (ended : x.pool.outcome = some (.ok buffers)) :
      Leaves s bs maxWorkers scratch (.ok buffers) [] x.scratch
  | failed {x : Search R} {fault : QueryFault} (several : 2 ≤ bs.length)
      (reached : Undisturbed s bs maxWorkers scratch x)
      (ended : x.pool.outcome = some (.error fault)) :
      Leaves s bs maxWorkers scratch (.error fault) (WorkerPool.fine x.pool.collected) x.scratch

/-- The scratch pools that a search passes. -/
inductive Passes (s : Selection R) (bs : List (Nat × List R)) (maxWorkers : Nat)
    (scratch : ScratchPool) : ScratchPool → Prop where
  | alone {batch : Nat × List R} {x : Hand R × ScratchPool} {cancelled : Bool} (one : bs = [batch])
      (reached : Hand.Undisturbed s batch scratch x cancelled) :
      Passes s bs maxWorkers scratch x.2
  | several {x : Search R} (several : 2 ≤ bs.length)
      (reached : Undisturbed s bs maxWorkers scratch x) : Passes s bs maxWorkers scratch x.scratch

end Search

/-- The positions of records in the order of their rows, written into a buffer. -/
def SortPlan.arranged (p : SortPlan R) (rows : List (List SortKey)) (buffer : Buffer) : Buffer :=
  stableSort
    (fun i j => compareRows p.directions (rows.toArray.getD i []) (rows.toArray.getD j []))
    (buffer ++ List.range rows.length)

namespace Engine

variable {M : RecordModel}

/-- How a selection from records can end, the buffers it drops, and the engine then. -/
inductive SelectLeaves (e : Engine M) (s : Selection R) (records : List R) (maxWorkers : Nat) :
    Answer (List R) → List Buffer → Engine M → Prop where
  | all (trivial : s.isTrivial = true) : SelectLeaves e s records maxWorkers (.ok records) [] e
  | refused (trivial : s.isTrivial = true) :
      SelectLeaves e s records maxWorkers (.error .cancelled) [] e
  | found {buffers dropped : List Buffer} {scratch : ScratchPool} (choosy : s.isTrivial = false)
      (search : Search.Leaves s (batches e.settings.batchSize records) maxWorkers e.scratch
        (.ok buffers) dropped scratch) :
      SelectLeaves e s records maxWorkers
        (.ok (buffers.flatten.filterMap fun i => records.toArray[i]?)) dropped
        { e with scratch := scratch.releaseAll buffers }
  | failed {fault : QueryFault} {dropped : List Buffer} {scratch : ScratchPool}
      (choosy : s.isTrivial = false)
      (search : Search.Leaves s (batches e.settings.batchSize records) maxWorkers e.scratch
        (.error fault) dropped scratch) :
      SelectLeaves e s records maxWorkers (.error fault) dropped { e with scratch := scratch }

/-- The scratch pools that a selection passes: those of its search, and then one after each buffer
that is given back. -/
inductive SelectPasses (e : Engine M) (s : Selection R) (records : List R) (maxWorkers : Nat) :
    ScratchPool → Prop where
  | searching {scratch : ScratchPool} (choosy : s.isTrivial = false)
      (passed : Search.Passes s (batches e.settings.batchSize records) maxWorkers e.scratch
        scratch) :
      SelectPasses e s records maxWorkers scratch
  | givingBack {buffers dropped : List Buffer} {scratch : ScratchPool}
      (choosy : s.isTrivial = false)
      (search : Search.Leaves s (batches e.settings.batchSize records) maxWorkers e.scratch
        (.ok buffers) dropped scratch) (count : Nat) :
      SelectPasses e s records maxWorkers (scratch.releaseAll (buffers.take count))

/-- How putting records in order can end, and the engine then. Only whoever has all the rows takes
a buffer. -/
inductive ArrangeLeaves (e : Engine M) (p : SortPlan R) (records : List R) (maxWorkers : Nat) :
    Answer (List R) → Engine M → Prop where
  | kept (few : p.keys = [] ∨ records.length < 2) :
      ArrangeLeaves e p records maxWorkers (.ok records) e
  | refused {cancelled : Bool} {fault : QueryFault} (keyed : p.keys ≠ [])
      (several : 2 ≤ records.length)
      (ends : WorkerPool.Ends ((batches e.settings.batchSize records).map p.rowsOf) maxWorkers
        cancelled (.error fault)) :
      ArrangeLeaves e p records maxWorkers (.error fault) e
  | sorted {cancelled : Bool} {rows : List (List (List SortKey))} {order : Buffer}
      (keyed : p.keys ≠ []) (several : 2 ≤ records.length)
      (ends : WorkerPool.Ends ((batches e.settings.batchSize records).map p.rowsOf) maxWorkers
        cancelled (.ok rows))
      (made : order = p.arranged rows.flatten e.scratch.acquire.1) :
      ArrangeLeaves e p records maxWorkers (.ok (order.filterMap fun i => records.toArray[i]?))
        { e with scratch := e.scratch.acquire.2.release order }

/-- The scratch pool that putting records in order passes, while a buffer is in use. -/
def ArrangePasses (e : Engine M) (p : SortPlan R) (records : List R) (scratch : ScratchPool) :
    Prop :=
  p.keys ≠ [] ∧ 2 ≤ records.length ∧ scratch = e.scratch.acquire.2

variable [DecidableEq M.Kind]

/-- How a filter can end, the buffers it drops, and the engine then. -/
inductive FilterLeaves (e : Engine M) (k : M.Kind) (records : List (M.Item k)) (f : Filter)
    (maxWorkers : Nat) : Answer (List (M.Item k)) → List Buffer → Engine M → Prop where
  | unready {fault : QueryFault} {d : Engine M} (compiled : e.selection k f = (.error fault, d)) :
      FilterLeaves e k records f maxWorkers (.error fault) [] d
  | selected {s : Selection (M.Item k)} {a : Answer (List (M.Item k))} {dropped : List Buffer}
      {d d' : Engine M} (compiled : e.selection k f = (.ok s, d))
      (select : d.SelectLeaves s records maxWorkers a dropped d') :
      FilterLeaves e k records f maxWorkers a dropped d'

def FilterPasses (e : Engine M) (k : M.Kind) (records : List (M.Item k)) (f : Filter)
    (maxWorkers : Nat) (scratch : ScratchPool) : Prop :=
  ∃ s d, e.selection k f = (.ok s, d) ∧ d.SelectPasses s records maxWorkers scratch

/-- How sorting can end, and the engine then. -/
inductive SortLeaves (e : Engine M) (k : M.Kind) (records : List (M.Item k))
    (fields : List SortField) (maxWorkers : Nat) :
    Answer (List (M.Item k)) → Engine M → Prop where
  | unplanned {fault : QueryFault} {d : Engine M} (plan : e.sortPlan k fields = (.error fault, d)) :
      SortLeaves e k records fields maxWorkers (.error fault) d
  | arranged {p : SortPlan (M.Item k)} {a : Answer (List (M.Item k))} {d d' : Engine M}
      (plan : e.sortPlan k fields = (.ok p, d))
      (arrange : d.ArrangeLeaves p records maxWorkers a d') :
      SortLeaves e k records fields maxWorkers a d'

def SortPasses (e : Engine M) (k : M.Kind) (records : List (M.Item k)) (fields : List SortField)
    (scratch : ScratchPool) : Prop :=
  ∃ p d, e.sortPlan k fields = (.ok p, d) ∧ d.ArrangePasses p records scratch

/-- How filtering and sorting can end. Sort fields are looked up first. -/
inductive FilterAndSortLeaves (e : Engine M) (k : M.Kind) (records : List (M.Item k)) (f : Filter)
    (maxWorkers : Nat) : Answer (List (M.Item k)) → List Buffer → Engine M → Prop where
  | unplanned {fault : QueryFault} {d : Engine M} (plan : e.sortPlan k f.sort = (.error fault, d)) :
      FilterAndSortLeaves e k records f maxWorkers (.error fault) [] d
  | unfiltered {p : SortPlan (M.Item k)} {fault : QueryFault} {dropped : List Buffer}
      {d d' : Engine M} (plan : e.sortPlan k f.sort = (.ok p, d))
      (filter : d.FilterLeaves k records f maxWorkers (.error fault) dropped d') :
      FilterAndSortLeaves e k records f maxWorkers (.error fault) dropped d'
  | filtered {p : SortPlan (M.Item k)} {selected : List (M.Item k)} {dropped : List Buffer}
      {a : Answer (List (M.Item k))} {d d' d'' : Engine M}
      (plan : e.sortPlan k f.sort = (.ok p, d))
      (filter : d.FilterLeaves k records f maxWorkers (.ok selected) dropped d')
      (arrange : d'.ArrangeLeaves p selected maxWorkers a d'') :
      FilterAndSortLeaves e k records f maxWorkers a dropped d''

inductive FilterAndSortPasses (e : Engine M) (k : M.Kind) (records : List (M.Item k)) (f : Filter)
    (maxWorkers : Nat) : ScratchPool → Prop where
  | filtering {p : SortPlan (M.Item k)} {d : Engine M} {scratch : ScratchPool}
      (plan : e.sortPlan k f.sort = (.ok p, d))
      (passed : d.FilterPasses k records f maxWorkers scratch) :
      FilterAndSortPasses e k records f maxWorkers scratch
  | sorting {p : SortPlan (M.Item k)} {selected : List (M.Item k)} {dropped : List Buffer}
      {d d' : Engine M} {scratch : ScratchPool} (plan : e.sortPlan k f.sort = (.ok p, d))
      (filter : d.FilterLeaves k records f maxWorkers (.ok selected) dropped d')
      (passed : d'.ArrangePasses p selected scratch) :
      FilterAndSortPasses e k records f maxWorkers scratch

end Engine

inductive Call (M : RecordModel) where
  | filter (k : M.Kind) (records : List (M.Item k)) (f : Filter)
  | sort (k : M.Kind) (records : List (M.Item k)) (fields : List SortField)
  | filterAndSort (k : M.Kind) (records : List (M.Item k)) (f : Filter) (limit : Option Nat)
  | paginate (k : M.Kind) (records : List (M.Item k)) (f : Filter) (index size : Int)

namespace Call

variable {M : RecordModel}

def Reply : Call M → Type
  | filter k _ _ | sort k _ _ | filterAndSort k _ _ _ => List (M.Item k)
  | paginate k _ _ _ _ => Page (M.Item k)

def upTo {α : Type} (limit : Option Nat) (all : List α) : List α :=
  match limit with
  | some n => all.take n
  | none => all

/-- How many batches of records a call searches. -/
def batchCount (e : Engine M) : Call M → Nat
  | sort _ _ _ => 0
  | filter _ records _ | filterAndSort _ records _ _ | paginate _ records _ _ _ =>
    (batches e.settings.batchSize records).length

variable [DecidableEq M.Kind]

/-- The answer of an engine that works on one batch after the other. -/
def run (e : Engine M) (cancelled : Bool) : (c : Call M) → Answer c.Reply × Engine M
  | filter k records f => e.filter k records f cancelled
  | sort k records fields => e.sort k records fields cancelled
  | filterAndSort k records f limit => e.first k records f limit cancelled
  | paginate k records f index size => e.paginate k records f index size cancelled

/-- How a call can end, the buffers it drops, and the engine then. -/
def Leaves (e : Engine M) (maxWorkers : Nat) :
    (c : Call M) → Answer c.Reply → List Buffer → Engine M → Prop
  | filter k records f, a, dropped, d => e.FilterLeaves k records f maxWorkers a dropped d
  | sort k records fields, a, dropped, d =>
    dropped = [] ∧ e.SortLeaves k records fields maxWorkers a d
  | filterAndSort k records f limit, a, dropped, d =>
    ∃ all, e.FilterAndSortLeaves k records f maxWorkers all dropped d ∧
      a = all.map (upTo limit)
  | paginate k records f index size, a, dropped, d =>
    ∃ all, e.FilterAndSortLeaves k records f maxWorkers all dropped d ∧
      a = all.map fun sorted => .ofList (.ofRequest d.settings.pageSize index size) sorted f.sort

/-- The scratch pools that a call passes. -/
def Passes (e : Engine M) (maxWorkers : Nat) : Call M → ScratchPool → Prop
  | filter k records f, scratch => e.FilterPasses k records f maxWorkers scratch
  | sort k records fields, scratch => e.SortPasses k records fields scratch
  | filterAndSort k records f _, scratch | paginate k records f _ _, scratch =>
    e.FilterAndSortPasses k records f maxWorkers scratch

end Call

/-- An engine that has answered calls, one after another, since its scratch pool was empty. -/
inductive Engine.Used {M : RecordModel} [DecidableEq M.Kind] (maxWorkers : Nat) :
    Engine M → Prop where
  | fresh {e : Engine M} (empty : e.scratch = {}) : Used maxWorkers e
  | call {e d : Engine M} {c : Call M} {a : Answer c.Reply} {dropped : List Buffer}
      (used : Used maxWorkers e) (left : c.Leaves e maxWorkers a dropped d) : Used maxWorkers d

end FieldQuery

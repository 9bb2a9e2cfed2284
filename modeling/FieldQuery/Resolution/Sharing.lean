import FieldQuery.Resolution.Cache

/-!
# Sharing a cache

Several callers may resolve paths with one cache at once. A call looks first, together with others;
if the path is not remembered it waits to be alone with the cache, looks again, asks the source, and
puts what the source found into the cache. A step is what one call does at once, so a run of steps
is one interleaving of the calls. While one call is alone with the cache no other can look.
-/
namespace FieldQuery

variable {M : RecordModel}

namespace ResolutionCache

variable [DecidableEq M.Kind]

/-- Puts in what a path leads to, in place of anything else under the same key. -/
def insert (c : ResolutionCache M) (s : Source M) (path : String) (t : s.family.Target M) :
    ResolutionCache M :=
  ⟨⟨keyOf s path, t⟩ :: c.entries.filter (·.key ≠ keyOf s path)⟩

theorem findIn_eq_none_iff {key : ResolutionKey M.Kind} {entries : List (ResolutionEntry M)} :
    findIn key entries = none ↔ ∀ e ∈ entries, e.key ≠ key := by
  induction entries with
  | nil => simp [findIn]
  | cons e rest ih =>
    rw [List.forall_mem_cons, ← ih, findIn]
    split
    · rename_i same
      simp [same]
    · rename_i other
      simp [other]

/-- Under a key that is not taken nothing has to give way. -/
theorem insert_of_unknown {c : ResolutionCache M} {s : Source M} {path : String}
    (unknown : c.find? s path = none) (t : s.family.Target M) :
    c.insert s path t = ⟨⟨keyOf s path, t⟩ :: c.entries⟩ := by
  unfold insert
  rw [List.filter_eq_self.mpr]
  intro e mem
  exact decide_eq_true (findIn_eq_none_iff.mp unknown e mem)

theorem find?_insert_self (c : ResolutionCache M) (s : Source M) (path : String)
    (t : s.family.Target M) : (c.insert s path t).find? s path = some t := dif_pos rfl

end ResolutionCache

inductive Caller (M : RecordModel) where
  | asking (s : Source M) (path : String)
  /-- Looked in vain, and waits to be alone with the cache. -/
  | missed (s : Source M) (path : String)
  /-- Alone with the cache, but has not looked again. -/
  | entered (s : Source M) (path : String)
  /-- Alone with the cache, having looked again in vain. -/
  | confirmed (s : Source M) (path : String)
  /-- Alone with the cache, and knows what the source says. -/
  | located (s : Source M) (path : String) (answer : Answer (s.family.Target M))
  /-- Has its answer, and either found it in the cache or had to ask the source. -/
  | answered (s : Source M) (path : String) (answer : Answer (s.family.Target M)) (asked : Bool)

namespace Caller

def source : Caller M → Source M
  | asking s _ | missed s _ | entered s _ | confirmed s _ | located s _ _ | answered s _ _ _ => s

def path : Caller M → String
  | asking _ path | missed _ path | entered _ path | confirmed _ path | located _ path _
  | answered _ path _ _ => path

def IsAlone : Caller M → Prop
  | entered _ _ | confirmed _ _ | located _ _ _ => True
  | asking _ _ | missed _ _ | answered _ _ _ _ => False

/-- Whether a call had the source find the path of a key, be it that it is about to remember it or
has done so. -/
def Found (key : ResolutionKey M.Kind) : Caller M → Prop
  | located s path answer => ResolutionCache.keyOf s path = key ∧ answer.isOk = true
  | answered s path answer asked =>
    ResolutionCache.keyOf s path = key ∧ answer.isOk = true ∧ asked = true
  | _ => False

def answeredKey? : Caller M → Option (ResolutionKey M.Kind)
  | answered s path (.ok _) _ => some (ResolutionCache.keyOf s path)
  | _ => none

end Caller

/-- A cache and the calls that have been made of it, the first one first. -/
structure SharedCache (M : RecordModel) where
  cache : ResolutionCache M := {}
  callers : List (Caller M) := []

namespace SharedCache

/-- Nobody is alone with the cache. -/
def Open (c : SharedCache M) : Prop := ∀ w ∈ c.callers, ¬ w.IsAlone

/-- The keys of all calls that have led somewhere, one for each call. -/
def answeredKeys (c : SharedCache M) : List (ResolutionKey M.Kind) :=
  c.callers.filterMap (·.answeredKey?)

variable [DecidableEq M.Kind]

inductive Step : SharedCache M → SharedCache M → Prop where
  /-- A call may be made at any moment. -/
  | call {c : SharedCache M} (s : Source M) (path : String) :
      Step c { c with callers := c.callers ++ [.asking s path] }
  | hit {c : SharedCache M} {i : Nat} {s : Source M} {path : String} {t : s.family.Target M}
      (asking : c.callers[i]? = some (.asking s path)) (free : c.Open)
      (known : c.cache.find? s path = some t) :
      Step c { c with callers := c.callers.set i (.answered s path (.ok t) false) }
  | miss {c : SharedCache M} {i : Nat} {s : Source M} {path : String}
      (asking : c.callers[i]? = some (.asking s path)) (free : c.Open)
      (unknown : c.cache.find? s path = none) :
      Step c { c with callers := c.callers.set i (.missed s path) }
  | enter {c : SharedCache M} {i : Nat} {s : Source M} {path : String}
      (missed : c.callers[i]? = some (.missed s path)) (free : c.Open) :
      Step c { c with callers := c.callers.set i (.entered s path) }
  | findAgain {c : SharedCache M} {i : Nat} {s : Source M} {path : String} {t : s.family.Target M}
      (entered : c.callers[i]? = some (.entered s path))
      (known : c.cache.find? s path = some t) :
      Step c { c with callers := c.callers.set i (.answered s path (.ok t) false) }
  | missAgain {c : SharedCache M} {i : Nat} {s : Source M} {path : String}
      (entered : c.callers[i]? = some (.entered s path))
      (unknown : c.cache.find? s path = none) :
      Step c { c with callers := c.callers.set i (.confirmed s path) }
  | locate {c : SharedCache M} {i : Nat} {s : Source M} {path : String}
      (confirmed : c.callers[i]? = some (.confirmed s path)) :
      Step c { c with callers := c.callers.set i (.located s path (s.locate path)) }
  | store {c : SharedCache M} {i : Nat} {s : Source M} {path : String} {t : s.family.Target M}
      (located : c.callers[i]? = some (.located s path (.ok t))) :
      Step c
        { cache := c.cache.insert s path t
          callers := c.callers.set i (.answered s path (.ok t) true) }
  | fail {c : SharedCache M} {i : Nat} {s : Source M} {path : String} {fault : QueryFault}
      (located : c.callers[i]? = some (.located s path (.error fault))) :
      Step c { c with callers := c.callers.set i (.answered s path (.error fault) true) }

/-- A run from one state to another. -/
inductive Run (c : SharedCache M) : SharedCache M → Prop where
  | stay : Run c c
  | step {d e : SharedCache M} (before : Run c d) (s : Step d e) : Run c e

/-- The states that runs from an empty cache can come to. -/
def Reachable (c : SharedCache M) : Prop := Run {} c

end SharedCache

end FieldQuery

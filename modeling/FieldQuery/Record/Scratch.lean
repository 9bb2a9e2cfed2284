/-!
# Scratch buffers

Lists of positions that are built up during a request use buffers that are kept for the next one.
The pool hands out empty buffers and takes them back until it is full.
-/
namespace FieldQuery

abbrev Buffer := List Nat

structure ScratchPool where
  idle : List Buffer := []
deriving Repr

namespace ScratchPool

def limit : Nat := 64

/-- Takes a buffer out of the pool, or a new one. -/
def acquire (p : ScratchPool) : Buffer × ScratchPool :=
  match p.idle with
  | [] => ([], p)
  | b :: rest => (b, ⟨rest⟩)

/-- Gives a buffer back, emptied. A full pool drops it. -/
def release (p : ScratchPool) (b : Buffer) : ScratchPool :=
  if p.idle.length < limit then ⟨b.take 0 :: p.idle⟩ else p

def releaseAll (p : ScratchPool) (bs : List Buffer) : ScratchPool := bs.foldl release p

/-- A pool that keeps to its rules: every buffer is empty, and there are not too many. -/
def Tidy (p : ScratchPool) : Prop := (∀ b ∈ p.idle, b = []) ∧ p.idle.length ≤ limit

theorem tidy_empty : Tidy {} := ⟨by simp, by simp⟩

theorem Tidy.acquire {p : ScratchPool} (h : p.Tidy) : p.acquire.1 = [] ∧ p.acquire.2.Tidy := by
  obtain ⟨empty, few⟩ := h
  unfold ScratchPool.acquire
  split
  · exact ⟨rfl, empty, few⟩
  · rename_i b rest eq
    rw [eq] at empty few
    exact ⟨empty b List.mem_cons_self, fun c hc => empty c (List.mem_cons_of_mem _ hc),
      Nat.le_of_succ_le few⟩

theorem Tidy.release {p : ScratchPool} (h : p.Tidy) (b : Buffer) : (p.release b).Tidy := by
  obtain ⟨empty, few⟩ := h
  unfold ScratchPool.release
  split
  · rename_i room
    refine ⟨fun c hc => ?_, room⟩
    rcases List.mem_cons.mp hc with rfl | hc
    · simp
    · exact empty c hc
  · exact ⟨empty, few⟩

theorem Tidy.releaseAll {p : ScratchPool} (h : p.Tidy) (bs : List Buffer) :
    (p.releaseAll bs).Tidy := by
  induction bs generalizing p with
  | nil => exact h
  | cons b rest ih => exact ih (h.release b)

end ScratchPool

end FieldQuery

import FieldQuery.Filter.Fault
import Mathlib.Data.List.Forall2

/-!
# Lists of answers

A request often asks for one thing after another, and the first fault met is the answer. Two such
runs over one list are compared element by element: if they agree on each element, they come to an
end together.
-/
namespace FieldQuery

variable {α β γ τ : Type}

/-- The two functions fail on one element of the list, and are fine on every one before it. The runs
over the whole list then end with the faults of that element. -/
structure FailTogether (f : α → Answer β) (g : α → Answer γ)
    (alike : QueryFault → QueryFault → Prop) (l : List α) (first second : QueryFault) : Prop where
  alike : alike first second
  place : ∃ before a after, l = before ++ a :: after ∧
    (∀ x ∈ before, (f x).isOk = true ∧ (g x).isOk = true) ∧ f a = .error first ∧ g a = .error second

theorem FailTogether.cons {f : α → Answer β} {g : α → Answer γ}
    {alike : QueryFault → QueryFault → Prop} {l : List α} {first second : QueryFault} {a : α}
    (hf : (f a).isOk = true) (hg : (g a).isOk = true) (h : FailTogether f g alike l first second) :
    FailTogether f g alike (a :: l) first second := by
  obtain ⟨before, b, after, hl, fine, failing⟩ := h.place
  refine ⟨h.alike, a :: before, b, after, by rw [hl, List.cons_append], ?_, failing⟩
  intro x hx
  rcases List.mem_cons.mp hx with rfl | hx
  · exact ⟨hf, hg⟩
  · exact fine x hx

theorem bind_ok_iff {ε : Type} {x : Except ε α} {f : α → Except ε β} {b : β} :
    x >>= f = .ok b ↔ ∃ a, x = .ok a ∧ f a = .ok b := by
  cases x with
  | error fault => exact ⟨nofun, nofun⟩
  | ok a =>
    constructor
    · exact fun h => ⟨a, rfl, h⟩
    · rintro ⟨c, hc, h⟩
      cases hc
      exact h

theorem bind_error_iff {x : Answer α} {f : α → Answer β} {fault : QueryFault} :
    x >>= f = .error fault ↔ x = .error fault ∨ ∃ a, x = .ok a ∧ f a = .error fault := by
  cases x with
  | error other =>
    constructor
    · intro h
      cases h
      exact .inl rfl
    · rintro (h | ⟨c, hc, -⟩)
      · cases h
        rfl
      · cases hc
  | ok a =>
    constructor
    · exact fun h => .inr ⟨a, rfl, h⟩
    · rintro (h | ⟨c, hc, h⟩)
      · cases h
      · cases hc
        exact h

theorem map_ok_iff {x : Answer α} {f : α → β} {b : β} :
    x.map f = .ok b ↔ ∃ a, x = .ok a ∧ f a = b := by
  cases x with
  | error fault => exact ⟨nofun, nofun⟩
  | ok a =>
    constructor
    · exact fun h => ⟨a, rfl, Except.ok.inj h⟩
    · rintro ⟨c, hc, rfl⟩
      cases hc
      rfl

/-- What is known of an answer without its faults. -/
theorem exists_of_toOption {x : Answer α} {f : α → β} {b : β} (h : x.toOption.map f = some b) :
    ∃ a, x = .ok a ∧ f a = b := by
  cases x with
  | error fault => cases h
  | ok a => exact ⟨a, rfl, Option.some.inj h⟩

theorem eq_ok_of_toOption {x : Answer α} {a : α} (h : x.toOption = some a) : x = .ok a := by
  cases x with
  | error fault => cases h
  | ok b => exact congrArg Except.ok (Option.some.inj h)

theorem mapM_cons_ok {f : α → Answer β} {a : α} {b : β} {l : List α} {bs : List β}
    (head : f a = .ok b) (tail : l.mapM f = .ok bs) : (a :: l).mapM f = .ok (b :: bs) := by
  rw [List.mapM_cons, head, tail]
  rfl

theorem mapM_cons_error_head {f : α → Answer β} {a : α} {l : List α} {fault : QueryFault}
    (head : f a = .error fault) : (a :: l).mapM f = .error fault := by
  rw [List.mapM_cons, head]
  rfl

theorem mapM_cons_error_tail {f : α → Answer β} {a : α} {b : β} {l : List α} {fault : QueryFault}
    (head : f a = .ok b) (tail : l.mapM f = .error fault) : (a :: l).mapM f = .error fault := by
  rw [List.mapM_cons, head, tail]
  rfl

theorem mapM_ok_forall₂ {f : α → Answer β} {l : List α} {bs : List β} (h : l.mapM f = .ok bs) :
    List.Forall₂ (fun a b => f a = .ok b) l bs := by
  induction l generalizing bs with
  | nil =>
    cases h
    exact .nil
  | cons a rest ih =>
    cases head : f a with
    | error fault => cases (mapM_cons_error_head head).symm.trans h
    | ok b =>
      cases tail : rest.mapM f with
      | error fault => cases (mapM_cons_error_tail head tail).symm.trans h
      | ok cs =>
        cases (mapM_cons_ok head tail).symm.trans h
        exact .cons head (ih tail)

theorem mapM_error {f : α → Answer β} {l : List α} {fault : QueryFault}
    (h : l.mapM f = .error fault) : ∃ a ∈ l, f a = .error fault := by
  induction l with
  | nil => cases h
  | cons a rest ih =>
    rw [List.mapM_cons] at h
    rcases bind_error_iff.mp h with head | ⟨b, -, h⟩
    · exact ⟨a, List.mem_cons_self, head⟩
    · rcases bind_error_iff.mp h with tail | ⟨bs, -, h⟩
      · obtain ⟨x, mem, hx⟩ := ih tail
        exact ⟨x, List.mem_cons_of_mem a mem, hx⟩
      · cases h

theorem exists_of_mem_right {rel : α → β → Prop} {xs : List α} {ys : List β}
    (h : List.Forall₂ rel xs ys) {y : β} (mem : y ∈ ys) : ∃ x ∈ xs, rel x y := by
  induction h with
  | nil => cases mem
  | cons head _ ih =>
    rcases List.mem_cons.mp mem with rfl | later
    · exact ⟨_, List.mem_cons_self, head⟩
    · obtain ⟨x, there, good⟩ := ih later
      exact ⟨x, List.mem_cons_of_mem _ there, good⟩

theorem exists_of_mem_left {rel : α → β → Prop} {xs : List α} {ys : List β}
    (h : List.Forall₂ rel xs ys) {x : α} (mem : x ∈ xs) : ∃ y ∈ ys, rel x y := by
  obtain ⟨y, there, good⟩ := exists_of_mem_right h.flip mem
  exact ⟨y, there, good⟩

theorem mapM_ok_of_forall {f : α → Answer β} {l : List α} (h : ∀ a ∈ l, ∃ b, f a = .ok b) :
    ∃ bs, l.mapM f = .ok bs := by
  induction l with
  | nil => exact ⟨[], rfl⟩
  | cons a rest ih =>
    obtain ⟨b, head⟩ := h a List.mem_cons_self
    obtain ⟨bs, tail⟩ := ih fun x hx => h x (List.mem_cons_of_mem a hx)
    exact ⟨b :: bs, mapM_cons_ok head tail⟩

/-- Two runs over one list. Where both functions are fine on an element, what they give are two
views of one outcome of that element. -/
theorem mapM_together {f : α → Answer β} {g : α → Answer γ} {left : τ → β} {right : τ → γ}
    {comesTo : α → τ → Prop} {alike : QueryFault → QueryFault → Prop} {l : List α}
    (each : ∀ a ∈ l,
      (∃ t, comesTo a t ∧ f a = .ok (left t) ∧ g a = .ok (right t)) ∨
      (∃ first second, alike first second ∧ f a = .error first ∧ g a = .error second)) :
    (∃ ts, List.Forall₂ comesTo l ts ∧ l.mapM f = .ok (ts.map left) ∧
      l.mapM g = .ok (ts.map right)) ∨
    (∃ first second, FailTogether f g alike l first second ∧ l.mapM f = .error first ∧
      l.mapM g = .error second) := by
  induction l with
  | nil => exact .inl ⟨[], .nil, rfl, rfl⟩
  | cons a rest ih =>
    rcases each a List.mem_cons_self with ⟨t, ht, hf, hg⟩ | ⟨first, second, hs, hf, hg⟩
    · rcases ih fun x hx => each x (List.mem_cons_of_mem a hx) with
        ⟨ts, hts, fs, gs⟩ | ⟨first, second, failing, fs, gs⟩
      · exact .inl ⟨t :: ts, .cons ht hts, mapM_cons_ok hf fs, mapM_cons_ok hg gs⟩
      · refine .inr ⟨first, second, failing.cons ?_ ?_, mapM_cons_error_tail hf fs,
          mapM_cons_error_tail hg gs⟩
        · rw [hf]
          rfl
        · rw [hg]
          rfl
    · exact .inr ⟨first, second, ⟨hs, [], a, rest, rfl, by simp, hf, hg⟩,
        mapM_cons_error_head hf, mapM_cons_error_head hg⟩

end FieldQuery

import FieldQuery.Proofs.Answers
import FieldQuery.Proofs.Paging
import FieldQuery.Proofs.Progress

/-!
# What a filter finds

However the records are cut into batches and whoever reads them, a filter finds the records of which
all or any of its checks hold, or it reports a record that it cannot judge. Main statement:
`filter_finds`.
-/
namespace FieldQuery

open Engine (positionsOf)

variable {R : Type}

/-- Whether a record passes a check for certain. -/
def Check.holds (c : Check R) (r : R) : Bool :=
  match c.passes r with
  | .ok hit => hit
  | .error _ => false

theorem Check.holds_of_passes {c : Check R} {r : R} {hit : Bool} (passed : c.passes r = .ok hit) :
    c.holds r = hit := by
  unfold holds
  rw [passed]

namespace Selection

variable {s : Selection R} {logic : Logic} {r : R}

/-- Whether all the checks hold of a record, or any of them. -/
def joined (logic : Logic) (r : R) (checks : List (Check R)) : Bool :=
  match logic with
  | .and => checks.all (·.holds r)
  | .or => checks.any (·.holds r)

def selects (s : Selection R) (r : R) : Bool := joined s.logic r s.checks

/-- Of checks read from left to right one fails before any has decided. -/
def FailsAt (logic : Logic) (r : R) (fault : QueryFault) (checks : List (Check R)) : Prop :=
  ∃ before c after, checks = before ++ c :: after ∧
    (∀ b ∈ before, b.passes r = .ok (logic == .and)) ∧ c.passes r = .error fault

def Fails (s : Selection R) (r : R) (fault : QueryFault) : Prop := FailsAt s.logic r fault s.checks

theorem decide_cons {c : Check R} {hit : Bool} (passed : c.passes r = .ok hit)
    (rest : List (Check R)) :
    decide logic r (c :: rest) =
      if hit = (logic == .and) then decide logic r rest else .ok hit := by
  rw [decide, passed]
  cases logic <;> cases hit <;> rfl

/-- Checks behind one that was passed without deciding fail as they do alone. -/
theorem failsAt_cons {c : Check R} {rest : List (Check R)} {hit : Bool} {fault : QueryFault}
    (passed : c.passes r = .ok hit) :
    FailsAt logic r fault (c :: rest) ↔ hit = (logic == .and) ∧ FailsAt logic r fault rest := by
  constructor
  · rintro ⟨before, d, after, split, undecided, failed⟩
    cases before with
    | nil =>
      obtain ⟨rfl, -⟩ := List.cons.inj split
      cases passed.symm.trans failed
    | cons b before =>
      obtain ⟨rfl, tail⟩ := List.cons.inj split
      obtain ⟨first, others⟩ := List.forall_mem_cons.mp undecided
      exact ⟨Except.ok.inj (passed.symm.trans first), before, d, after, tail, others, failed⟩
  · rintro ⟨undecided, before, d, after, split, others, failed⟩
    refine ⟨c :: before, d, after, congrArg _ split, ?_, failed⟩
    exact List.forall_mem_cons.mpr ⟨passed.trans (congrArg _ undecided), others⟩

theorem failsAt_cons_of_error {c : Check R} {rest : List (Check R)} {fault other : QueryFault}
    (failed : c.passes r = .error other) :
    FailsAt logic r fault (c :: rest) ↔ other = fault := by
  constructor
  · rintro ⟨before, d, after, split, undecided, last⟩
    cases before with
    | nil =>
      obtain ⟨rfl, -⟩ := List.cons.inj split
      exact Except.error.inj (failed.symm.trans last)
    | cons b before =>
      obtain ⟨rfl, -⟩ := List.cons.inj split
      cases failed.symm.trans (undecided c List.mem_cons_self)
  · rintro rfl
    exact ⟨[], c, rest, rfl, List.forall_mem_nil _, failed⟩

theorem decide_error_iff {fault : QueryFault} {checks : List (Check R)} :
    decide logic r checks = .error fault ↔ FailsAt logic r fault checks := by
  induction checks with
  | nil =>
    constructor
    · intro accepted
      cases accepted
    · rintro ⟨before, c, after, none, -⟩
      cases before <;> cases none
  | cons c rest ih =>
    cases passed : c.passes r with
    | error other =>
      have first : decide logic r (c :: rest) = .error other := by
        rw [decide, passed]
        rfl
      rw [first, failsAt_cons_of_error passed, Except.error.injEq]
    | ok hit =>
      rw [decide_cons passed, failsAt_cons passed, ← ih]
      split
      case isTrue undecided => rw [and_iff_right undecided]
      case isFalse decisive =>
        refine ⟨fun accepted => ?_, fun h => absurd h.1 decisive⟩
        cases accepted

/-- Checks behind one that was passed without deciding settle the matter. -/
theorem joined_cons {c : Check R} {hit : Bool} (passed : c.passes r = .ok hit)
    (rest : List (Check R)) :
    joined logic r (c :: rest) = if hit = (logic == .and) then joined logic r rest else hit := by
  unfold joined
  rw [List.all_cons, List.any_cons, Check.holds_of_passes passed]
  cases logic <;> cases hit <;> rfl

theorem joined_of_decide {b : Bool} {checks : List (Check R)}
    (decided : decide logic r checks = .ok b) : joined logic r checks = b := by
  induction checks with
  | nil =>
    cases decided
    cases logic <;> rfl
  | cons c rest ih =>
    cases passed : c.passes r with
    | error fault =>
      rw [decide, passed] at decided
      cases decided
    | ok hit =>
      rw [decide_cons passed] at decided
      rw [joined_cons passed]
      split
      case isTrue undecided => exact ih ((if_pos undecided).symm.trans decided)
      case isFalse decisive => exact Except.ok.inj ((if_neg decisive).symm.trans decided)

theorem accepts_of_ne_nil (some_ : s.checks ≠ []) (r : R) :
    s.accepts r = decide s.logic r s.checks :=
  if_neg fun none => some_ (List.isEmpty_iff.mp none)

theorem accepts_of_choosy (choosy : s.isTrivial = false) (r : R) :
    s.accepts r = decide s.logic r s.checks := by
  refine accepts_of_ne_nil (fun empty => ?_) r
  unfold isTrivial at choosy
  rw [empty] at choosy
  cases logic : s.logic <;> rw [logic] at choosy <;> cases choosy

/-- What the selection decides of a record is whether its checks hold. -/
theorem selects_of_accepts (choosy : s.isTrivial = false) {b : Bool}
    (accepted : s.accepts r = .ok b) : s.selects r = b :=
  joined_of_decide ((accepts_of_choosy choosy r).symm.trans accepted)

theorem accepts_error_iff (choosy : s.isTrivial = false) {fault : QueryFault} :
    s.accepts r = .error fault ↔ s.Fails r fault := by
  rw [accepts_of_choosy choosy]
  exact decide_error_iff

theorem hits_append {i : Nat} {first second : List R} {found more : List Nat}
    (here : s.hits i first = .ok found) (there : s.hits (i + first.length) second = .ok more) :
    s.hits i (first ++ second) = .ok (found ++ more) := by
  induction first generalizing i found with
  | nil =>
    cases here
    exact there
  | cons r rest ih =>
    cases judged : s.accepts r with
    | error fault => cases (hits_cons_error judged i rest).symm.trans here
    | ok hit =>
      rw [hits_cons_ok judged, map_ok_iff] at here
      obtain ⟨later, here, rfl⟩ := here
      rw [List.length_cons, Nat.add_comm rest.length, ← Nat.add_assoc] at there
      rw [List.cons_append, hits_cons_ok judged, ih here there]
      cases hit <;> rfl

/-- What the batches yield one after another is what the records yield at once. -/
theorem hits_of_batches {size : Nat} {h : 0 < size} {offset : Nat} {records : List R}
    {found : List (List Nat)}
    (all : (batchesFrom size h offset records).map (positionsOf s) = found.map .ok) :
    s.hits offset records = .ok found.flatten := by
  fun_induction batchesFrom size h offset records generalizing found with
  | case1 offset =>
    cases found with
    | nil => rfl
    | cons => cases all
  | case2 offset a rest ih =>
    cases found with
    | nil => cases all
    | cons first found =>
      obtain ⟨here, later⟩ := List.cons.inj all
      have here : s.hits offset ((a :: rest).take size) = .ok first := here
      have later := ih later
      have there : s.hits (offset + ((a :: rest).take size).length) ((a :: rest).drop size) =
          .ok found.flatten := by
        by_cases long : size ≤ (a :: rest).length
        · rwa [List.length_take, Nat.min_eq_left long]
        · rw [List.drop_eq_nil_of_le (Nat.le_of_not_le long)] at later ⊢
          exact later
      have whole := hits_append here there
      rwa [List.take_append_drop] at whole

/-- The positions that are found lead to the records that are kept. -/
theorem filterMap_hits {keep : R → Bool}
    (kept : ∀ {r : R} {b : Bool}, s.accepts r = .ok b → keep r = b) {before rest : List R}
    {found : List Nat} (hits : s.hits before.length rest = .ok found) :
    (found.filterMap fun i => (before ++ rest)[i]?) = rest.filter keep := by
  induction rest generalizing before found with
  | nil =>
    cases hits
    rfl
  | cons r rest ih =>
    cases judged : s.accepts r with
    | error fault => cases (hits_cons_error judged before.length rest).symm.trans hits
    | ok hit =>
      rw [hits_cons_ok judged, map_ok_iff] at hits
      obtain ⟨later, hits, rfl⟩ := hits
      have whole : before ++ r :: rest = (before ++ [r]) ++ rest := by simp
      have later := @ih (before ++ [r]) later (by rwa [List.length_append])
      rw [whole, List.filter_cons, kept judged, ← later]
      cases hit with
      | false => rfl
      | true =>
        have here : ((before ++ [r]) ++ rest)[before.length]? = some r := by simp
        exact List.filterMap_cons_some here

/-- Positions are found only if every record can be judged. -/
theorem accepts_of_hits {i : Nat} {records : List R} {found : List Nat}
    (hits : s.hits i records = .ok found) : ∀ r ∈ records, (s.accepts r).isOk = true := by
  induction records generalizing i found with
  | nil => exact List.forall_mem_nil _
  | cons r rest ih =>
    cases judged : s.accepts r with
    | error fault => cases (hits_cons_error judged i rest).symm.trans hits
    | ok hit =>
      rw [hits_cons_ok judged, map_ok_iff] at hits
      obtain ⟨later, hits, -⟩ := hits
      exact List.forall_mem_cons.mpr ⟨by rw [judged]; rfl, ih hits⟩

/-- A record that cannot be judged ends the reading; all before it were judged. -/
theorem hits_error {i : Nat} {records : List R} {fault : QueryFault}
    (failed : s.hits i records = .error fault) :
    ∃ (j : Nat) (r : R) (source : QueryFault), records[j]? = some r ∧
      fault = .atItem (i + j) source ∧ s.accepts r = .error source ∧
      ∀ (j' : Nat) (r' : R), j' < j → records[j']? = some r' → (s.accepts r').isOk = true := by
  induction records generalizing i with
  | nil => cases failed
  | cons r rest ih =>
    cases judged : s.accepts r with
    | error source =>
      cases (hits_cons_error judged i rest).symm.trans failed
      exact ⟨0, r, source, rfl, rfl, judged, nofun⟩
    | ok hit =>
      have failed : s.hits (i + 1) rest = .error fault := by
        rw [hits_cons_ok judged] at failed
        cases later : s.hits (i + 1) rest with
        | error other =>
          rw [later] at failed
          exact failed
        | ok found =>
          rw [later] at failed
          cases failed
      obtain ⟨j, r', source, there, rfl, last, before⟩ := ih failed
      refine ⟨j + 1, r', source, there, by rw [Nat.add_assoc, Nat.add_comm 1], last, ?_⟩
      intro j' x less mem
      cases j' with
      | zero =>
        cases mem
        rw [judged]
        rfl
      | succ j' => exact before j' x (Nat.lt_of_succ_lt_succ less) mem

end Selection

/-- All results, or one of the failures. -/
def Fair {β : Type} (made : List (Answer β)) (a : Answer (List β)) : Prop :=
  (∃ bs, made = bs.map .ok ∧ a = .ok bs) ∨ ∃ fault, .error fault ∈ made ∧ a = .error fault

/-- Work that is done in order is fair. -/
theorem fair_mapM {α β : Type} (f : α → Answer β) (l : List α) : Fair (l.map f) (l.mapM f) := by
  cases done : l.mapM f with
  | ok bs =>
    refine .inl ⟨bs, ?_, rfl⟩
    have each := mapM_ok_forall₂ done
    clear done
    induction each with
    | nil => rfl
    | cons head _ ih => rw [List.map_cons, List.map_cons, head, ih]
  | error fault =>
    obtain ⟨a, mem, failed⟩ := mapM_error done
    exact .inr ⟨fault, failed ▸ List.mem_map_of_mem mem, rfl⟩

/-- However workers take turns, their work is fair if nobody cancels it. -/
theorem WorkerPool.Ends.fair {β : Type} {made : List (Answer β)} {maxWorkers : Nat}
    {a : Answer (List β)} (ends : Ends made maxWorkers false a)
    (honest : .error .cancelled ∉ made) : Fair made a := by
  by_cases fine : ∀ r ∈ made, r.isOk = true
  · obtain ⟨bs, rfl⟩ := ends.of_all_ok fine
    exact .inl ⟨bs, ends.ok, rfl⟩
  · push Not at fine
    obtain ⟨r, mem, bad⟩ := fine
    cases r with
    | ok b => cases bad rfl
    | error fault =>
      obtain ⟨other, mem, -, reported⟩ := ends.of_error honest mem
      exact .inr ⟨other, mem, reported⟩

namespace Selection

variable {s : Selection R} {size : Nat} {records : List R}

/-- The right answer of a filter whose records are read in batches of a size: the records that are
selected, in the order they came, or else a record that cannot be judged, the first one in its
batch. -/
structure Answers (s : Selection R) (size : Nat) (records : List R) (a : Answer (List R)) :
    Prop where
  found : (∀ r ∈ records, ∀ fault, ¬ s.Fails r fault) → a = .ok (records.filter s.selects)
  failed : (∃ r ∈ records, ∃ fault, s.Fails r fault) →
    ∃ (i : Nat) (r : R) (fault : QueryFault), a = .error (.atItem i fault) ∧ records[i]? = some r ∧
      s.Fails r fault ∧ ∀ (j : Nat) (r' : R), j < i → j / size = i / size → records[j]? = some r' →
        ∀ fault', ¬ s.Fails r' fault'

theorem isOk_iff (choosy : s.isTrivial = false) {r : R} :
    (s.accepts r).isOk = true ↔ ∀ fault, ¬ s.Fails r fault := by
  constructor
  · intro judged fault failed
    rw [(accepts_error_iff choosy).mpr failed] at judged
    cases judged
  · intro fine
    cases judged : s.accepts r with
    | ok hit => rfl
    | error fault => exact absurd ((accepts_error_iff choosy).mp judged) (fine fault)

theorem mem_of_batches {b : Nat × List R} (mem : b ∈ batches size records) :
    ∃ k, b = (k * max size 1, (records.drop (k * max size 1)).take (max size 1)) := by
  obtain ⟨k, hk⟩ := List.mem_iff_getElem?.mp mem
  exact ⟨k, getElem?_batches hk⟩

/-- A fault that a batch yields is that of a record, and no record before it in the batch fails. -/
theorem exists_of_mem_positions {fault : QueryFault}
    (mem : .error fault ∈ (batches size records).map (positionsOf s)) :
    ∃ (i : Nat) (r : R) (source : QueryFault), fault = .atItem i source ∧ records[i]? = some r ∧
      s.accepts r = .error source ∧ ∀ (j : Nat) (r' : R), j < i →
        j / max size 1 = i / max size 1 → records[j]? = some r' → (s.accepts r').isOk = true := by
  obtain ⟨b, mem, failed⟩ := List.mem_map.mp mem
  obtain ⟨k, rfl⟩ := mem_of_batches mem
  obtain ⟨j, r, source, there, rfl, judged, before⟩ := hits_error failed
  have positive : 0 < max size 1 := Nat.le_max_right size 1
  have inside : j < max size 1 := by
    have short := (List.getElem?_eq_some_iff.mp there).1
    exact Nat.lt_of_lt_of_le short (List.length_take_le _ _)
  have place (i : Nat) (less : i < max size 1) :
      ((records.drop (k * max size 1)).take (max size 1))[i]? = records[k * max size 1 + i]? := by
    rw [List.getElem?_take_of_lt less, List.getElem?_drop]
  rw [place j inside] at there
  refine ⟨_, r, source, rfl, there, judged, fun i r' less same mem => ?_⟩
  -- the other record stands between the first of the batch and the one that fails
  have batch : (k * max size 1 + j) / max size 1 = k := by
    rw [Nat.mul_comm, Nat.mul_add_div positive, Nat.div_eq_of_lt inside, Nat.add_zero]
  have from_first : k * max size 1 ≤ i := by
    rw [← batch, ← same]
    exact Nat.div_mul_le_self i _
  obtain ⟨t, rfl⟩ := Nat.exists_eq_add_of_le from_first
  have earlier : t < j := Nat.lt_of_add_lt_add_left less
  rw [← place t (earlier.trans inside)] at mem
  exact before t r' earlier mem

/-- Batches that all yield their positions yield the records that are kept. -/
theorem filterMap_positions {keep : R → Bool}
    (kept : ∀ {r : R} {b : Bool}, s.accepts r = .ok b → keep r = b) {found : List Buffer}
    (all : (batches size records).map (positionsOf s) = found.map .ok) :
    (found.flatten.filterMap fun i => records.toArray[i]?) = records.filter keep := by
  have whole : s.hits ([] : List R).length records = .ok found.flatten := hits_of_batches all
  simp only [List.getElem?_toArray]
  exact filterMap_hits kept whole

theorem answers_of_fair (choosy : s.isTrivial = false) {found : Answer (List Buffer)}
    (fair : Fair ((batches size records).map (positionsOf s)) found) :
    s.Answers (max size 1) records
      (found.map fun buffers => buffers.flatten.filterMap fun i => records.toArray[i]?) := by
  rcases fair with ⟨found, all, rfl⟩ | ⟨fault, mem, rfl⟩
  · have whole : s.hits 0 records = .ok found.flatten := hits_of_batches all
    constructor
    · intro fine
      exact congrArg Except.ok (filterMap_positions (selects_of_accepts choosy) all)
    · rintro ⟨r, mem, fault, failed⟩
      exact absurd failed ((isOk_iff choosy).mp (accepts_of_hits whole r mem) fault)
  · obtain ⟨i, r, source, rfl, there, judged, before⟩ := exists_of_mem_positions mem
    have failing := (accepts_error_iff choosy).mp judged
    constructor
    · intro fine
      exact absurd failing (fine r (List.mem_of_getElem? there) source)
    · intro _
      refine ⟨i, r, source, rfl, there, failing, fun j r' less same mem => ?_⟩
      exact (isOk_iff choosy).mp (before j r' less same mem)

end Selection

namespace Engine

variable {M : RecordModel} [DecidableEq M.Kind] {e : Engine M} {k : M.Kind} {f : Filter}
  {s : Selection (M.Item k)}

/-- A filter finds the records of which all or any of its checks hold, whatever the size of batches
and however many workers take part, in whatever order they take their steps; it can come to an end,
and it reports a record that it cannot judge if there is one. -/
theorem filter_finds (tidy : e.scratch.Tidy) (compiled : (e.selection k f).1 = .ok s)
    (choosy : s.isTrivial = false) (records : List (M.Item k)) (maxWorkers : Nat) :
    s.Answers (max e.settings.batchSize 1) records (e.filter k records f false).1 ∧
    (∃ a, e.FilterEnds k records f maxWorkers false a) ∧
    ∀ a, e.FilterEnds k records f maxWorkers false a →
      s.Answers (max e.settings.batchSize 1) records a := by
  have started : e.selection k f = (.ok s, (e.selection k f).2) := Prod.ext compiled rfl
  have ends (a : Answer (List (M.Item k))) :
      e.FilterEnds k records f maxWorkers false a ↔
        (e.selection k f).2.SelectEnds s records maxWorkers false a := by
    unfold FilterEnds
    rw [started]
  have settings : (e.selection k f).2.settings = e.settings := rfl
  have ran : e.filter k records f false = (e.selection k f).2.select s records false := by
    unfold filter
    rw [started]
  have tidy : (e.selection k f).2.scratch.Tidy := tidy
  simp only [ends, ran, ← settings]
  generalize (e.selection k f).2 = d at tidy
  have honest : .error .cancelled ∉ (batches d.settings.batchSize records).map (positionsOf s) := by
    intro mem
    obtain ⟨b, -, failed⟩ := List.mem_map.mp mem
    obtain ⟨j, r, source, -, fault, -⟩ := Selection.hits_error failed
    cases fault
  refine ⟨?_, ?_, ?_⟩
  · rw [(d.select_of_tidy tidy s records false).1, choosy]
    exact Selection.answers_of_fair choosy (fair_mapM _ _)
  · obtain ⟨found, ended⟩ :=
      Search.exists_ends s (batches d.settings.batchSize records) maxWorkers tidy
    exact ⟨_, .searched choosy ended⟩
  · intro a ended
    cases ended with
    | all trivial => cases choosy.symm.trans trivial
    | searched _ ended => exact Selection.answers_of_fair choosy ((ended.pool tidy).fair honest)

end Engine

namespace Sample

def inTwos : Engine shelf := { settings := { batchSize := 2 } }

def hundredPages : Selection (shelf.Item ()) :=
  ⟨[.test ⟨[1], .integer, false, fun b => .int b.2⟩
    ⟨.value, .compare .gte (.number (.ofInt 100)) false⟩], .and⟩

/-- Books whose titles are numbers from a thousand on, which titles that are words cannot be. -/
def years : Filter := { terms := [⟨"title", .num (.int 1000), .gte, none⟩] }

def fromThousand : Selection (shelf.Item ()) :=
  ⟨[.test ⟨[0], .text, false, fun b => .text b.1⟩
    ⟨.value, .compare .gte (.number (.ofInt 1000)) false⟩], .and⟩

end Sample

open Sample in
theorem filter_finds_stock :
    inTwos.scratch.Tidy ∧
    (inTwos.selection () byLength).1 = .ok hundredPages ∧ hundredPages.isTrivial = false ∧
    (∀ r ∈ stock, ∀ fault, ¬ hundredPages.Fails r fault) ∧
    (∀ a, inTwos.FilterEnds () stock byLength 3 false a →
      a = .ok [("Emma", 474), ("Pan", 200), ("Kim", 352)]) ∧
    (inTwos.selection () years).1 = .ok fromThousand ∧ fromThousand.isTrivial = false ∧
    fromThousand.Fails ("Emma", 474) (.notCoercible "Emma" "number") ∧
    ∀ a, inTwos.FilterEnds () stock years 3 false a →
      ∃ i r fault, a = .error (.atItem i fault) ∧ stock[i]? = some r ∧
        fromThousand.Fails r fault := by
  have judged : ∀ r ∈ stock, (hundredPages.accepts r).isOk = true := by decide +kernel
  have fine (r) (mem : r ∈ stock) := (Selection.isOk_iff rfl).mp (judged r mem)
  have found :
      stock.filter hundredPages.selects = [("Emma", 474), ("Pan", 200), ("Kim", 352)] := rfl
  have compiled : (inTwos.selection () byLength).1 = .ok hundredPages := rfl
  have compiled' : (inTwos.selection () years).1 = .ok fromThousand := rfl
  have failing : fromThousand.Fails ("Emma", 474) (.notCoercible "Emma" "number") :=
    (Selection.accepts_error_iff rfl).mp rfl
  refine ⟨ScratchPool.tidy_empty, compiled, rfl, fine, fun a ended => ?_, compiled', rfl, failing,
    fun a ended => ?_⟩
  · obtain ⟨-, -, answers⟩ := Engine.filter_finds ScratchPool.tidy_empty compiled rfl stock 3
    exact found ▸ (answers a ended).found fine
  · obtain ⟨-, -, answers⟩ := Engine.filter_finds ScratchPool.tidy_empty compiled' rfl stock 3
    obtain ⟨i, r, fault, reported, there, failed, -⟩ :=
      (answers a ended).failed ⟨_, .head _, _, failing⟩
    exact ⟨i, r, fault, reported, there, failed⟩

end FieldQuery

import FieldQuery.Proofs.Filtering

/-!
# Trivial filters

A trivial filter is answered with all the records, and none of them is read. To read them comes to
the same unless one of them cannot be judged, which happens under a disjunction alone, where a check
may fail that stands before the vacuous ones. Main statement: `trivial_filter_finds_all`.
-/
namespace FieldQuery

open Engine (positionsOf)

variable {R : Type}

theorem Check.passes_of_isAlways {c : Check R} (always : c.isAlways = true) (r : R) :
    c.passes r = .ok true := by
  cases c with
  | always => rfl
  | test => cases always

namespace Selection

variable {s : Selection R} {r : R} {fault : QueryFault}

/-- Under a disjunction a check fails ahead of the vacuous ones, and none before it holds. -/
def FailsAhead (s : Selection R) (r : R) (fault : QueryFault) : Prop :=
  s.logic = .or ∧ ∃ before c after, s.checks = before ++ c :: after ∧
    (∀ b ∈ before, b.passes r = .ok false) ∧ c.passes r = .error fault ∧
    ∃ d ∈ after, d.isAlways = true

/-- Checks that leave every record are joined to something that holds. -/
theorem joined_of_trivial (trivial : s.isTrivial = true) (some_ : s.checks ≠ []) (r : R) :
    joined s.logic r s.checks = true := by
  have holds {c : Check R} (always : c.isAlways = true) : c.holds r = true :=
    Check.holds_of_passes (Check.passes_of_isAlways always r)
  obtain ⟨checks, logic⟩ := s
  cases logic with
  | and =>
    have vacuous : checks.all (·.isAlways) = true := trivial
    refine List.all_eq_true.mpr fun c mem => ?_
    exact holds (List.all_eq_true.mp vacuous c mem)
  | or =>
    rcases (Bool.or_eq_true _ _).mp trivial with none | vacuous
    · exact absurd (List.isEmpty_iff.mp none) some_
    · obtain ⟨c, mem, always⟩ := List.any_eq_true.mp vacuous
      exact List.any_eq_true.mpr ⟨c, mem, holds always⟩

/-- A trivial selection turns no record away. -/
theorem accepted_of_trivial (trivial : s.isTrivial = true) {b : Bool}
    (judged : s.accepts r = .ok b) : b = true := by
  by_cases none : s.checks = []
  · unfold accepts at judged
    rw [none] at judged
    cases judged
    rfl
  · rw [accepts_of_ne_nil none] at judged
    exact (joined_of_decide judged).symm.trans (joined_of_trivial trivial none r)

theorem failsAhead_of_failsAt (trivial : s.isTrivial = true)
    (failed : FailsAt s.logic r fault s.checks) : s.FailsAhead r fault := by
  obtain ⟨checks, logic⟩ := s
  obtain ⟨before, c, after, rfl, undecided, failing⟩ := failed
  have tested : c.isAlways ≠ true := by
    intro always
    cases (Check.passes_of_isAlways always r).symm.trans failing
  cases logic with
  | and =>
    have vacuous : (before ++ c :: after).all (·.isAlways) = true := trivial
    exact absurd (List.all_eq_true.mp vacuous c (by simp)) tested
  | or =>
    rcases (Bool.or_eq_true _ _).mp trivial with none | vacuous
    · cases List.append_eq_nil_iff.mp (List.isEmpty_iff.mp none) with
      | intro _ none => cases none
    · obtain ⟨d, mem, always⟩ := List.any_eq_true.mp vacuous
      refine ⟨rfl, before, c, after, rfl, undecided, failing, d, ?_, always⟩
      rcases List.mem_append.mp mem with early | late
      · cases (Check.passes_of_isAlways always r).symm.trans (undecided d early)
      · rcases List.mem_cons.mp late with rfl | behind
        · exact absurd always tested
        · exact behind

theorem accepts_error_iff_failsAhead (trivial : s.isTrivial = true) :
    s.accepts r = .error fault ↔ s.FailsAhead r fault := by
  constructor
  · intro judged
    have some_ : s.checks ≠ [] := by
      intro none
      unfold accepts at judged
      rw [none] at judged
      cases judged
    rw [accepts_of_ne_nil some_] at judged
    exact failsAhead_of_failsAt trivial (decide_error_iff.mp judged)
  · rintro ⟨logic, before, c, after, checks, undecided, failing, -⟩
    have some_ : s.checks ≠ [] := by simp [checks]
    rw [accepts_of_ne_nil some_, logic]
    exact decide_error_iff.mpr ⟨before, c, after, checks, undecided, failing⟩

end Selection

namespace Engine

variable {M : RecordModel} {e : Engine M}

/-- How a selection can end if the records are read, be it trivial or not. -/
def ReadingEnds (e : Engine M) (s : Selection R) (records : List R) (maxWorkers : Nat)
    (a : Answer (List R)) : Prop :=
  ∃ found, Search.Ends s (batches e.settings.batchSize records) maxWorkers e.scratch false found ∧
    a = found.map fun buffers => buffers.flatten.filterMap fun i => records.toArray[i]?

/-- Who reads the records of a trivial selection finds all of them, or one that fails. -/
theorem ReadingEnds.cases {s : Selection R} (tidy : e.scratch.Tidy) (trivial : s.isTrivial = true)
    {records : List R} {maxWorkers : Nat} {a : Answer (List R)}
    (ends : e.ReadingEnds s records maxWorkers a) :
    ((∀ r ∈ records, ∀ fault, ¬ s.FailsAhead r fault) ∧ a = .ok records) ∨
    ∃ (i : Nat) (r : R) (fault : QueryFault), a = .error (.atItem i fault) ∧
      records[i]? = some r ∧ s.FailsAhead r fault := by
  obtain ⟨found, ends, rfl⟩ := ends
  have honest : .error .cancelled ∉
      (batches e.settings.batchSize records).map (positionsOf s) := by
    intro mem
    obtain ⟨i, r, source, fault, -⟩ := Selection.exists_of_mem_positions mem
    cases fault
  rcases (ends.pool tidy).fair honest with ⟨buffers, all, rfl⟩ | ⟨fault, mem, rfl⟩
  · refine .inl ⟨fun r mem fault failed => ?_, congrArg Except.ok ?_⟩
    · have judged := Selection.accepts_of_hits (Selection.hits_of_batches all) r mem
      rw [(Selection.accepts_error_iff_failsAhead trivial).mpr failed] at judged
      cases judged
    · have accepted {r : R} {b : Bool} (judged : s.accepts r = .ok b) : (fun _ => true) r = b :=
        (Selection.accepted_of_trivial trivial judged).symm
      exact (Selection.filterMap_positions accepted all).trans (List.filter_true records)
  · obtain ⟨i, r, source, rfl, there, judged, -⟩ := Selection.exists_of_mem_positions mem
    exact .inr ⟨i, r, source, rfl, there,
      (Selection.accepts_error_iff_failsAhead trivial).mp judged⟩

variable [DecidableEq M.Kind] {k : M.Kind} {f : Filter} {s : Selection (M.Item k)}

/-- A trivial filter finds all the records. Each of them would pass if it were read, unless a check
fails ahead of the vacuous ones of a disjunction; so to read them all, in whatever batches and by
however many workers, comes to the same if no record fails, and reports one that does if there is
one. -/
theorem trivial_filter_finds_all (tidy : e.scratch.Tidy) (compiled : (e.selection k f).1 = .ok s)
    (trivial : s.isTrivial = true) :
    (∀ r fault, s.accepts r = .error fault ↔ s.FailsAhead r fault) ∧
    (∀ r, (∀ fault, ¬ s.FailsAhead r fault) → s.accepts r = .ok true) ∧
    ∀ (records : List (M.Item k)) (maxWorkers : Nat),
      (e.filter k records f false).1 = .ok records ∧
      (∀ a, e.FilterEnds k records f maxWorkers false a ↔ a = .ok records) ∧
      (∃ a, e.ReadingEnds s records maxWorkers a) ∧
      ∀ a, e.ReadingEnds s records maxWorkers a →
        ((∀ r ∈ records, ∀ fault, ¬ s.FailsAhead r fault) → a = .ok records) ∧
        ((∃ r ∈ records, ∃ fault, s.FailsAhead r fault) →
          ∃ (i : Nat) (r : M.Item k) (fault : QueryFault), a = .error (.atItem i fault) ∧
            records[i]? = some r ∧ s.FailsAhead r fault) := by
  have failing := @Selection.accepts_error_iff_failsAhead (M.Item k) s
  have started : e.selection k f = (.ok s, (e.selection k f).2) := Prod.ext compiled rfl
  refine ⟨fun r fault => failing trivial, fun r fine => ?_, fun records maxWorkers => ?_⟩
  · cases judged : s.accepts r with
    | error fault => exact absurd ((failing trivial).mp judged) (fine fault)
    | ok b => rw [Selection.accepted_of_trivial trivial judged]
  · refine ⟨?_, fun a => ?_, ?_, fun a ends => ⟨fun fine => ?_, ?_⟩⟩
    · unfold filter
      rw [started]
      exact congrArg Prod.fst (if_pos trivial)
    · unfold FilterEnds
      rw [started]
      constructor
      · rintro (_ | _ | ⟨choosy, -⟩)
        · rfl
        · cases trivial.symm.trans choosy
      · rintro rfl
        exact .all trivial
    · obtain ⟨found, ends⟩ :=
        Search.exists_ends s (batches e.settings.batchSize records) maxWorkers tidy
      exact ⟨_, found, ends, rfl⟩
    · rcases ends.cases tidy trivial with ⟨-, all⟩ | ⟨i, r, fault, -, there, failed⟩
      · exact all
      · exact absurd failed (fine r (List.mem_of_getElem? there) fault)
    · rintro ⟨r, mem, fault, failed⟩
      rcases ends.cases tidy trivial with ⟨fine, -⟩ | reported
      · exact absurd failed (fine r mem fault)
      · exact reported

end Engine

namespace Sample

/-- Books whose titles are numbers from a thousand on, or that lack a last page number, a field no
book has. -/
def yearsOrPlain : Filter :=
  { terms := [⟨"title", .num (.int 1000), .gte, none⟩, ⟨"pages.last", .null, .isEmpty, none⟩]
    logic := .or }

def fromThousandOrPlain : Selection (shelf.Item ()) :=
  ⟨[.test ⟨[0], .text, false, fun b => .text b.1⟩
    ⟨.value, .compare .gte (.number (.ofInt 1000)) false⟩, .always], .or⟩

def orwell : List (shelf.Item ()) := [("1984", 328)]

def austen : List (shelf.Item ()) := [("Emma", 474)]

end Sample

open Sample in
theorem trivial_filter_finds_all_orwell :
    inTwos.scratch.Tidy ∧ (inTwos.selection () yearsOrPlain).1 = .ok fromThousandOrPlain ∧
    fromThousandOrPlain.isTrivial = true ∧
    (inTwos.filter () stock yearsOrPlain false).1 = .ok stock ∧
    (∀ a, inTwos.ReadingEnds fromThousandOrPlain orwell 3 a → a = .ok orwell) ∧
    ∀ a, inTwos.ReadingEnds fromThousandOrPlain stock 3 a →
      ∃ i r fault, a = .error (.atItem i fault) ∧ stock[i]? = some r ∧
        fromThousandOrPlain.FailsAhead r fault := by
  have compiled : (inTwos.selection () yearsOrPlain).1 = .ok fromThousandOrPlain := rfl
  obtain ⟨failing, -, answers⟩ :=
    Engine.trivial_filter_finds_all ScratchPool.tidy_empty compiled rfl
  have fine : ∀ r ∈ orwell, ∀ fault, ¬ fromThousandOrPlain.FailsAhead r fault := by
    intro r mem fault failed
    have judged := (failing r fault).mpr failed
    rw [List.mem_singleton.mp mem] at judged
    cases judged
  have emma := (failing ("Emma", 474) (.notCoercible "Emma" "number")).mp rfl
  refine ⟨ScratchPool.tidy_empty, compiled, rfl, (answers stock 3).1, ?_, ?_⟩
  · exact fun a ends => ((answers orwell 3).2.2.2 a ends).1 fine
  · exact fun a ends => ((answers stock 3).2.2.2 a ends).2 ⟨_, .head _, _, emma⟩

open Sample in
/-- A record that fails is found all the same, because it is not read. -/
theorem unread_record_found :
    (inTwos.selection () yearsOrPlain).1 = .ok fromThousandOrPlain ∧
    fromThousandOrPlain.isTrivial = true ∧
    ¬ (∀ r, fromThousandOrPlain.accepts r = .ok true) ∧
    (inTwos.filter () austen yearsOrPlain false).1 = .ok austen ∧
    inTwos.ReadingEnds fromThousandOrPlain austen 3
      (.error (.atItem 0 (.notCoercible "Emma" "number"))) := by
  have one (b : shelf.Item ()) : batches 2 [b] = [(0, [b])] := by simp [batches, batchesFrom]
  have failed : Hand.Alone fromThousandOrPlain (0, austen) inTwos.scratch
      (.done (.error (.atItem 0 (.notCoercible "Emma" "number"))),
        inTwos.scratch.acquire.2.release inTwos.scratch.acquire.1) false :=
    .step .start (.fail rfl)
  refine ⟨rfl, rfl, fun all => ?_, rfl, _, .single (one _) failed, rfl⟩
  cases all ("Emma", 474)

end FieldQuery

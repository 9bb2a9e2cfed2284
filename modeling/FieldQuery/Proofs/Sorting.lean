import FieldQuery.Proofs.Progress
import FieldQuery.Proofs.Remembering
import FieldQuery.Proofs.StableOrder
import FieldQuery.Record.Arranging

/-!
# Sorting by several fields

The first field that tells two records apart decides which of them comes first, and records that no
field tells apart stay in the order they had. One arrangement of the records is like that, and it is
what comes of sorting them, in batches of any size and with any number of workers. Main statement:
`sort_is_stable`.
-/
namespace FieldQuery

variable {R : Type}

/-- The key comes first in the direction: what is absent comes last, and first if the order is
turned. -/
def Direction.Puts (d : Direction) (a b : SortKey) : Prop :=
  match d with
  | .asc => a ≠ .absent ∧ (b = .absent ∨ a.compare b = .lt)
  | .desc => b ≠ .absent ∧ (a = .absent ∨ b.compare a = .lt)

namespace SortPlan

/-- The first of these fields in which two records have different keys puts the one before the
other. -/
inductive Leads : List (FieldDescriptor R × Direction) → R → R → Prop where
  | here {f : FieldDescriptor R} {d : Direction} {rest : List (FieldDescriptor R × Direction)}
      {a b : R} (first : d.Puts (.ofValue (f.get a)) (.ofValue (f.get b))) :
      Leads ((f, d) :: rest) a b
  | later {f : FieldDescriptor R} {d : Direction} {rest : List (FieldDescriptor R × Direction)}
      {a b : R} (same : SortKey.ofValue (f.get a) = .ofValue (f.get b)) (leads : Leads rest a b) :
      Leads ((f, d) :: rest) a b

/-- The positions of records in a stable order: each once, and of two records the one that leads
comes first, or the one that was first if their keys are the same. -/
structure Sorts (p : SortPlan R) (records : List R) (order : List Nat) : Prop where
  perm : order.Perm (List.range records.length)
  inOrder : order.Pairwise fun i j => ∀ a b, records[i]? = some a → records[j]? = some b →
    Leads p.keys a b ∨ p.row a = p.row b ∧ i < j

end SortPlan

/-- The values of a field over records are null or of one kind. -/
def FieldDescriptor.OneKind (f : FieldDescriptor R) (records : List R) : Prop :=
  ∃ kind, ∀ r ∈ records, f.get r = .null ∨ (f.get r).kind? = some kind

/-- A type of fields whose values are null or of the kind that it names. -/
class LawfulFieldType (α : Type) [FieldType α] : Prop where
  held (a : α) : FieldType.value a = .null ∨ (FieldType.value a).kind? = some (FieldType.kind α)

namespace LawfulFieldType

instance : LawfulFieldType Int := ⟨fun _ => .inr rfl⟩

instance : LawfulFieldType Nat := ⟨fun _ => .inr rfl⟩

instance : LawfulFieldType Number := ⟨fun _ => .inr rfl⟩

instance : LawfulFieldType Bool := ⟨fun _ => .inr rfl⟩

instance : LawfulFieldType String := ⟨fun _ => .inr rfl⟩

instance : LawfulFieldType Moment := ⟨fun _ => .inr rfl⟩

instance : LawfulFieldType Timestamp := ⟨fun _ => .inr rfl⟩

instance : LawfulFieldType Day := ⟨fun _ => .inr rfl⟩

instance : LawfulFieldType Clock := ⟨fun _ => .inr rfl⟩

instance {α : Type} [FieldType α] [LawfulFieldType α] : LawfulFieldType (Option α) where
  held
    | none => .inl rfl
    | some a => held a

end LawfulFieldType

/-- Fields of the known types have values of one kind. -/
theorem FieldDescriptor.OneKind.of_type {α : Type} [FieldType α] [LawfulFieldType α]
    {f : FieldDescriptor R} (field : R → α) (read : ∀ r, f.get r = FieldType.value (field r))
    (records : List R) : f.OneKind records := by
  refine ⟨FieldType.kind α, ?_⟩
  intro r _
  rw [read]
  exact LawfulFieldType.held (field r)

namespace SortKey

variable {a b : SortKey} {v w : FieldValue}

theorem directed_eq_lt_iff (d : Direction) : directed d a b = .lt ↔ d.Puts a b := by
  have ascending (a b : SortKey) :
      a.compare b = .lt ↔ a ≠ absent ∧ (b = absent ∨ a.compare b = .lt) := by
    constructor
    · intro less
      refine ⟨?_, .inr less⟩
      rintro rfl
      cases b <;> cases less
    · rintro ⟨present, rfl | less⟩
      · cases a with
        | absent => exact absurd rfl present
        | _ => rfl
      · exact less
  cases d with
  | asc => exact ascending a b
  | desc =>
    rw [directed, Direction.apply, ← compare_swap]
    exact ascending b a

/-- Keys that are of one kind unless they are absent tie only if they are the same. -/
theorem eq_of_compare_of_present (alike : a ≠ absent → b ≠ absent → a.Alike b)
    (tie : a.compare b = .eq) : a = b := by
  by_cases ha : a = absent
  · subst ha
    cases b <;> first | rfl | cases tie
  · by_cases hb : b = absent
    · subst hb
      cases a <;> first | rfl | cases tie
    · exact eq_of_compare (alike ha hb) tie

theorem ofValue_null (h : v = .null) : ofValue v = absent := by
  rw [h]
  rfl

/-- Which constructor the keys of values of a kind have. -/
def constructorOf : Option FieldKind → Nat
  | none | some .other => 0
  | some .integer | some .real => 1
  | some .text => 2
  | some .bool => 3
  | some .timestamp => 4
  | some .date => 5
  | some .time => 6

theorem ctorIdx_ofValue (v : FieldValue) : (ofValue v).ctorIdx = constructorOf v.kind? := by
  cases v <;> rfl

/-- Values of one kind have keys of one kind. -/
theorem alike_of_kind (same : v.kind? = w.kind?) : (ofValue v).Alike (ofValue w) := by
  unfold Alike
  rw [ctorIdx_ofValue, ctorIdx_ofValue, same]

end SortKey

namespace FieldDescriptor.OneKind

variable {f : FieldDescriptor R} {records : List R} {a b : R}

theorem alike (h : f.OneKind records) (ha : a ∈ records) (hb : b ∈ records)
    (present : SortKey.ofValue (f.get a) ≠ .absent)
    (present' : SortKey.ofValue (f.get b) ≠ .absent) :
    (SortKey.ofValue (f.get a)).Alike (.ofValue (f.get b)) := by
  obtain ⟨kind, values⟩ := h
  have first := (values a ha).resolve_left (mt SortKey.ofValue_null present)
  have second := (values b hb).resolve_left (mt SortKey.ofValue_null present')
  exact SortKey.alike_of_kind (first.trans second.symm)

theorem eq_of_directed (h : f.OneKind records) (ha : a ∈ records) (hb : b ∈ records)
    {d : Direction} (tie : SortKey.directed d (.ofValue (f.get a)) (.ofValue (f.get b)) = .eq) :
    SortKey.ofValue (f.get a) = .ofValue (f.get b) := by
  apply SortKey.eq_of_compare_of_present (h.alike ha hb)
  cases d with
  | asc => exact tie
  | desc => exact Ordering.swap_eq_eq.mp tie

end FieldDescriptor.OneKind

namespace SortPlan

variable {p : SortPlan R} {records : List R} {a b : R}

theorem compare_of_leads (leads : Leads p.keys a b) : p.compare a b = .lt := by
  obtain ⟨keys⟩ := p
  change Leads keys a b at leads
  induction leads with
  | here first =>
    rw [compare_cons, (SortKey.directed_eq_lt_iff _).mpr first]
    rfl
  | later same _ ih =>
    rw [compare_cons, same, SortKey.directed_self, ih]
    rfl

theorem compare_of_row_eq (same : p.row a = p.row b) : p.compare a b = .eq := by
  unfold compare
  rw [same]
  exact p.compare_self b

/-- What the comparison of records makes of each pair whose keys are of one kind. -/
theorem leads_or_row_eq (uniform : ∀ k ∈ p.keys, k.1.OneKind records) (ha : a ∈ records)
    (hb : b ∈ records) : (p.compare a b = .lt → Leads p.keys a b) ∧
      (p.compare a b = .eq → p.row a = p.row b) := by
  obtain ⟨keys⟩ := p
  induction keys with
  | nil => exact ⟨nofun, fun _ => rfl⟩
  | cons k rest ih =>
    obtain ⟨here, others⟩ := List.forall_mem_cons.mp uniform
    obtain ⟨leads, ties⟩ := ih others
    rw [compare_cons]
    constructor
    · intro less
      rcases Ordering.then_eq_lt.mp less with first | ⟨tie, later⟩
      · exact .here ((SortKey.directed_eq_lt_iff k.2).mp first)
      · exact .later (here.eq_of_directed ha hb tie) (leads later)
    · intro tie
      obtain ⟨first, later⟩ := Ordering.then_eq_eq.mp tie
      exact congrArg₂ List.cons (here.eq_of_directed ha hb first) (ties later)

/-- Records whose keys are of one kind in each field are put in order. -/
theorem orders (uniform : ∀ k ∈ p.keys, k.1.OneKind records) : Orders p.compare records where
  swap := p.compare_swap
  trans := by
    intro a ha b hb c hc le le'
    have orderly : p.Orderly a b c := by
      intro k mem
      have one := uniform k mem
      exact .of_alike (one.alike ha hb) (one.alike hb hc) (one.alike hc ha)
    exact orderly.isLE_trans le le'

def placed (p : SortPlan R) (records : List R) : List (R × Nat) :=
  stableSort (fun x y => p.compare x.1 y.1) records.zipIdx

theorem getElem?_of_mem_placed {x : R × Nat} (mem : x ∈ p.placed records) :
    records[x.2]? = some x.1 :=
  List.mem_zipIdx_iff_getElem?.mp ((stableSort_perm _ _).mem_iff.mp mem)

theorem filterMap_placed (p : SortPlan R) (records : List R) :
    ((p.placed records).map (·.2)).filterMap (records[·]?) = stableSort p.compare records := by
  have items : (p.placed records).map (·.1) = stableSort p.compare records := by
    rw [placed, stableSort_map p.compare Prod.fst, List.zipIdx_map_fst]
  rw [List.filterMap_map, ← items, ← List.filterMap_eq_map]
  exact List.filterMap_congr fun x mem => getElem?_of_mem_placed mem

/-- The positions of the sorted records are in a stable order. -/
theorem sorts_placed (uniform : ∀ k ∈ p.keys, k.1.OneKind records) :
    p.Sorts records ((p.placed records).map (·.2)) := by
  have orders : Orders (fun x y : R × Nat => p.compare x.1 y.1) records.zipIdx := by
    refine ⟨fun x y => p.compare_swap x.1 y.1, ?_⟩
    intro x hx y hy z hz
    have mem {x : R × Nat} (h : x ∈ records.zipIdx) : x.1 ∈ records :=
      List.mem_of_getElem? (List.mem_zipIdx_iff_getElem?.mp h)
    exact (SortPlan.orders uniform).trans _ (mem hx) _ (mem hy) _ (mem hz)
  have given : records.zipIdx.Pairwise fun x y => x.2 < y.2 := by
    have numbers := List.pairwise_lt_range (n := records.length)
    rw [List.range_eq_range', ← List.zipIdx_map_snd 0 records] at numbers
    exact List.pairwise_map.mp numbers
  constructor
  · have numbers := ((stableSort_perm (fun x y => p.compare x.1 y.1) records.zipIdx).map Prod.snd)
    rw [List.zipIdx_map_snd, ← List.range_eq_range'] at numbers
    exact numbers
  · refine List.pairwise_map.mpr ?_
    refine (stableSort_pairwise orders given).imp_of_mem ?_
    intro x y hx hy before a b ha hb
    have first : x.1 = a := Option.some.inj ((getElem?_of_mem_placed hx).symm.trans ha)
    have second : y.1 = b := Option.some.inj ((getElem?_of_mem_placed hy).symm.trans hb)
    subst first
    subst second
    obtain ⟨leads, ties⟩ := leads_or_row_eq uniform (List.mem_of_getElem? ha)
      (List.mem_of_getElem? hb)
    rcases before with less | ⟨tie, earlier⟩
    · exact .inl (leads less)
    · exact .inr ⟨ties tie, earlier⟩

/-- There is only one stable order. -/
theorem Sorts.unique {first second : List Nat} (h : p.Sorts records first)
    (k : p.Sorts records second) : first = second := by
  refine List.Perm.eq_of_pairwise ?_ h.inOrder k.inOrder (h.perm.trans k.perm.symm)
  intro i j hi hj forth back
  have inside {i : Nat} (mem : i ∈ List.range records.length) : ∃ a, records[i]? = some a :=
    ⟨_, List.getElem?_eq_getElem (List.mem_range.mp mem)⟩
  obtain ⟨a, ha⟩ := inside (h.perm.mem_iff.mp hi)
  obtain ⟨b, hb⟩ := inside (k.perm.mem_iff.mp hj)
  have turned := p.compare_swap a b
  rcases forth a b ha hb with leads | ⟨same, less⟩
  · rw [compare_of_leads leads] at turned
    rcases back b a hb ha with leads' | ⟨same, -⟩
    · rw [compare_of_leads leads'] at turned
      cases turned
    · rw [compare_of_row_eq same] at turned
      cases turned
  · rw [compare_of_row_eq same] at turned
    rcases back b a hb ha with leads' | ⟨-, less'⟩
    · rw [compare_of_leads leads'] at turned
      cases turned
    · omega

end SortPlan

/-- Sort fields that are found make a plan with a key for each of them, in the same order. -/
theorem SortPlan.exists_ofFields {lookup : FieldLookup R} {sort : List SortField}
    (found : ∀ s ∈ sort, ∃ f, lookup s.field = .ok f) (policy : UnknownFields) :
    ∃ p, SortPlan.ofFields lookup policy sort = .ok p ∧
      List.Forall₂ (fun s k => lookup s.field = .ok k.1 ∧ k.2 = s.direction) sort p.keys := by
  induction sort with
  | nil => exact ⟨⟨[]⟩, rfl, .nil⟩
  | cons s rest ih =>
    obtain ⟨⟨f, there⟩, others⟩ := List.forall_mem_cons.mp found
    obtain ⟨p, made, each⟩ := ih others
    obtain ⟨keys, read, whole⟩ := bind_ok_iff.mp made
    cases whole
    have key : s.key lookup policy = .ok (some (f, s.direction)) := by
      rw [SortField.key, there]
    refine ⟨⟨(f, s.direction) :: keys.filterMap id⟩, ?_, .cons ⟨there, rfl⟩ each⟩
    exact bind_ok_iff.mpr ⟨_, mapM_cons_ok key read, rfl⟩

theorem ScratchPool.Tidy.shared {p q : ScratchPool} (tidy : p.Tidy) (shared : p.Shared q) :
    q.Tidy := by
  induction shared with
  | start => exact tidy
  | lend _ ih => exact ih.acquire.2
  | giveBack _ b ih => exact ih.release b

variable {M : RecordModel} {e : Engine M} {p : SortPlan R} {records : List R}
  {maxWorkers : Nat}

namespace Engine

/-- The rows of all batches, joined in their order, are the rows of the records. -/
theorem flatten_rows {size : Nat} {rows : List (List (List SortKey))}
    (made : (batches size records).map p.rowsOf = rows.map .ok) :
    rows.flatten = records.map p.row := by
  have each : (batches size records).map (fun b => b.2.map p.row) = rows := by
    apply List.map_injective_iff.mpr (fun a b => Except.ok.inj)
    rw [← made, List.map_map]
    rfl
  rw [← each, ← List.flatMap_def, ← List.map_flatMap, batches_flatten]

/-- However workers take turns, and whatever others do with the scratch pool, records come out as
if they were sorted by their keys. -/
theorem ArrangeEnds.eq {a : Answer (List R)} (ends : e.ArrangeEnds p records maxWorkers false a)
    (tidy : e.scratch.Tidy) : a = .ok (stableSort p.compare records) := by
  classical
  have alone := e.arrange_eq tidy p records
  have known := (e.arrange_of_tidy tidy p records false).1
  generalize calm : false = cancelled at ends
  cases ends with
  | kept few =>
    rw [← alone, known, if_pos]
    rcases few with none | short
    · rw [none]
      rfl
    · exact Bool.or_eq_true_iff.mpr (.inr (decide_eq_true short))
  | refused keyed several ends =>
    -- reading keys never fails, and nobody cancelled
    subst calm
    obtain ⟨rows, fine⟩ := ends.of_all_ok fun r mem => by
      obtain ⟨b, -, rfl⟩ := List.mem_map.mp mem
      rfl
    cases fine
  | sorted keyed several ends shared =>
    obtain ⟨empty, -⟩ := (tidy.shared shared).acquire
    have trivial : (p.keys.isEmpty || decide (records.length < 2)) ≠ true := by
      rw [Ne, Bool.or_eq_true, List.isEmpty_iff, decide_eq_true_eq]
      exact fun h => h.elim keyed (Nat.not_lt.mpr several)
    rw [← alone, known, if_neg trivial, if_neg Bool.false_ne_true, flatten_rows ends.ok, empty]
    rfl

/-- Putting records in order comes to an end if nobody cancels it. -/
theorem exists_arrangeEnds (e : Engine M) (p : SortPlan R) (records : List R) (maxWorkers : Nat) :
    ∃ a, e.ArrangeEnds p records maxWorkers false a := by
  by_cases none : p.keys = []
  · exact ⟨_, .kept (.inl none)⟩
  · by_cases several : 2 ≤ records.length
    · obtain ⟨a, ends⟩ := WorkerPool.exists_ends
        ((batches e.settings.batchSize records).map p.rowsOf) maxWorkers
      cases a with
      | ok rows => exact ⟨_, .sorted none several ends .start⟩
      | error fault => exact ⟨_, .refused none several ends⟩
    · exact ⟨_, .kept (.inr (Nat.not_le.mp several))⟩

end Engine

/-- Sort fields that are found, each with values of one kind or null over the records, put the
records in the one stable order there is: the first field with different keys decides, what is
absent comes last, or first where the order is turned, and records with the same keys stay in the
order they had. Any number of workers comes to that, with batches of any size. -/
theorem sort_is_stable {lookup : FieldLookup R} {sort : List SortField} {records : List R}
    (found : ∀ s ∈ sort, ∃ f, lookup s.field = .ok f ∧ f.OneKind records)
    (policy : UnknownFields) :
    ∃ p, SortPlan.ofFields lookup policy sort = .ok p ∧
      List.Forall₂ (fun s k => lookup s.field = .ok k.1 ∧ k.2 = s.direction) sort p.keys ∧
      ∃ order, p.Sorts records order ∧ (∀ other, p.Sorts records other → other = order) ∧
        (order.filterMap (records[·]?)).Perm records ∧
        ∀ {M : RecordModel} (e : Engine M) (maxWorkers : Nat),
          e.scratch.Tidy →
          (e.arrange p records false).1 = .ok (order.filterMap (records[·]?)) ∧
          (∃ a, e.ArrangeEnds p records maxWorkers false a) ∧
          ∀ a, e.ArrangeEnds p records maxWorkers false a →
            a = .ok (order.filterMap (records[·]?)) := by
  obtain ⟨p, made, each⟩ := SortPlan.exists_ofFields
    (fun s mem => (found s mem).imp fun _ => And.left) policy
  have uniform : ∀ k ∈ p.keys, k.1.OneKind records := by
    intro k mem
    obtain ⟨s, hs, there, -⟩ := exists_of_mem_right each mem
    obtain ⟨f, here, one⟩ := found s hs
    rw [there] at here
    cases here
    exact one
  have sorts := SortPlan.sorts_placed uniform
  refine ⟨p, made, each, _, sorts, fun other h => h.unique sorts, ?_, ?_⟩
  · rw [p.filterMap_placed]
    exact stableSort_perm _ _
  · intro M e maxWorkers tidy
    rw [p.filterMap_placed]
    exact ⟨e.arrange_eq tidy p records, e.exists_arrangeEnds p records maxWorkers,
      fun a ends => ends.eq tidy⟩

namespace Sample

structure Guest where
  name : String
  nickname : Option String
  age : Nat
deriving DecidableEq

abbrev lodge : RecordModel where
  Kind := Unit
  Item _ := Guest
  title _ := "Guest"
  entries _ :=
    [.ofField "Name" (·.name), .ofField "Nickname" (·.nickname), .ofField "Age" (·.age)]

def party : List Guest :=
  [⟨"Ann", some "fox", 30⟩, ⟨"Ben", none, 41⟩, ⟨"Cat", some "Fox", 30⟩, ⟨"Dan", some "owl", 8⟩,
    ⟨"Eva", none, 7⟩]

def byNicknameDown : List SortField := [⟨"nickname", .desc⟩, ⟨"age", .asc⟩]

/-- Guests without a nickname first, the youngest of them before the others; then the owl, and the
two foxes as they came. -/
def partyByNickname : List Guest :=
  [⟨"Eva", none, 7⟩, ⟨"Ben", none, 41⟩, ⟨"Dan", some "owl", 8⟩, ⟨"Ann", some "fox", 30⟩,
    ⟨"Cat", some "Fox", 30⟩]

def inPairs : Engine lodge := { settings := { batchSize := 2 } }

theorem found_byNicknameDown :
    ∀ s ∈ byNicknameDown, ∃ f, lodge.locate () s.field = .ok f ∧ f.OneKind party := by
  intro s mem
  simp only [byNicknameDown, List.mem_cons, List.not_mem_nil, or_false] at mem
  rcases mem with rfl | rfl
  · exact ⟨_, rfl, .of_type Guest.nickname (fun _ => rfl) party⟩
  · exact ⟨_, rfl, .of_type Guest.age (fun _ => rfl) party⟩

end Sample

open Sample in
theorem sort_is_stable_party :
    (∀ s ∈ byNicknameDown, ∃ f, lodge.locate () s.field = .ok f ∧ f.OneKind party) ∧
    inPairs.scratch.Tidy ∧
    ∃ p, SortPlan.ofFields (lodge.locate ()) .reject byNicknameDown = .ok p ∧
      (∃ a, inPairs.ArrangeEnds p party 3 false a) ∧
      ∀ a, inPairs.ArrangeEnds p party 3 false a → a = .ok partyByNickname := by
  obtain ⟨p, made, -, order, -, -, -, answers⟩ := sort_is_stable found_byNicknameDown .reject
  obtain ⟨answer, ended, ends⟩ := answers inPairs 3 ScratchPool.tidy_empty
  have known : (SortPlan.ofFields (lodge.locate ()) .reject byNicknameDown).toOption.map
      (fun p => (inPairs.arrange p party false).1.toOption) = some (some partyByNickname) := by
    decide +kernel
  obtain ⟨q, planned, sorted⟩ := exists_of_toOption known
  cases planned.symm.trans made
  rw [answer] at sorted
  have sorted := Option.some.inj sorted
  rw [sorted] at ends
  exact ⟨found_byNicknameDown, ScratchPool.tidy_empty, p, made, ended, ends⟩

end FieldQuery

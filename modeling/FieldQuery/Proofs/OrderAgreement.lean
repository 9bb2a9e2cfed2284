import FieldQuery.Proofs.Orderings
import FieldQuery.Proofs.Planning
import FieldQuery.Proofs.Rounding
import FieldQuery.Proofs.RowOrder
import FieldQuery.Proofs.StableOrder
import FieldQuery.Proofs.TextFilters

/-!
# Rows and records in one order

Where a table holds what records hold, sorting the records comes to the order that the terms of a
plan put the rows in. The place of null is said twice, by a term of its own for rows and by the
greatest key for records; ties are broken by the primary key for rows, and for records by the order
in which they were given. Main statement: `sorting_agrees_with_order`.
-/
namespace FieldQuery

variable {rules : SqlRules}

/-- The same value of a kind in a record and in a row. Integers are those that a number holds
exactly. -/
inductive SameValue : FieldKind → FieldValue → Datum → Prop where
  | int {n : Int} (small : n.natAbs ≤ 2 ^ 53) : SameValue .integer (.int n) (.int n)
  | uint {n : Nat} (small : n ≤ 2 ^ 53) : SameValue .integer (.uint n) (.int n)
  | text (s : String) : SameValue .text (.text s) (.text s)
  | bool (b : Bool) : SameValue .bool (.bool b) (.int (if b then 1 else 0))
  | instant (m : Moment) : SameValue .timestamp (.instant m) (.instant m)

/-- What a record and a row hold alike in a column. Null stands only where the column may be without
a value. -/
inductive HeldAlike (c : ResolvedColumn) : FieldValue → Datum → Prop where
  | null (nullable : c.nullable = true) : HeldAlike c .null .null
  | value {v : FieldValue} {x : Datum} (same : SameValue c.kind v x) : HeldAlike c v x

def orderedBy (rules : SqlRules) (k : FieldKind) (x : Datum) : Datum :=
  if k = .text then rules.lower x else x

theorem orderedBy_null (lowers : rules.LowersTexts) (k : FieldKind) :
    orderedBy rules k .null = .null := by
  unfold orderedBy
  split
  · exact lowers none
  · rfl

namespace SameValue

variable {k : FieldKind} {v w : FieldValue} {x y : Datum}

theorem present (h : SameValue k v x) : x ≠ .null ∧ SortKey.ofValue v ≠ .absent := by
  cases h <;> exact ⟨nofun, nofun⟩

/-- An absent key is the greatest. -/
theorem compare_absent (h : SameValue k v x) :
    SortKey.absent.compare (.ofValue v) = .gt ∧ (SortKey.ofValue v).compare .absent = .lt := by
  cases h <;> exact ⟨rfl, rfl⟩

/-- An integer, signed or not. -/
theorem of_integer (h : SameValue .integer v x) :
    ∃ n : Int, n.natAbs ≤ 2 ^ 53 ∧ x = .int n ∧ SortKey.ofValue v = .number (.ofInt n) := by
  cases h with
  | int small => exact ⟨_, small, rfl, rfl⟩
  | @uint n small => exact ⟨n, by rwa [Int.natAbs_natCast], rfl, rfl⟩

theorem compare_integers (hv : SameValue .integer v x) (hw : SameValue .integer w y) :
    x.sortCompare y = (SortKey.ofValue v).compare (SortKey.ofValue w) := by
  obtain ⟨n, hn, rfl, first⟩ := hv.of_integer
  obtain ⟨m, hm, rfl, second⟩ := hw.of_integer
  have integers (n m : Int) : (Datum.int n).sortCompare (.int m) = Ord.compare n m := rfl
  have numbers (x y : Number) : (SortKey.number x).compare (.number y) = x.totalCompare y := rfl
  rw [first, second, integers, numbers, Number.totalCompare_ofInt hn hm]

/-- Values of one kind are ordered alike in both places. -/
theorem compare (lowers : rules.LowersTexts) (hv : SameValue k v x) (hw : SameValue k w y) :
    (orderedBy rules k x).sortCompare (orderedBy rules k y) =
      (SortKey.ofValue v).compare (SortKey.ofValue w) := by
  cases hv with
  | int small => exact compare_integers (.int small) hw
  | uint small => exact compare_integers (.uint small) hw
  | text s =>
    cases hw with
    | text t =>
      have lower (s : String) : orderedBy rules .text (.text s) = .text (Text.lowerString s) :=
        lowers (some s)
      rw [lower, lower]
      rfl
  | bool b =>
    cases hw with
    | bool b' => cases b <;> cases b' <;> rfl
  | instant m =>
    cases hw with
    | instant m' => rfl

/-- The keys of values of one kind are of one kind. -/
theorem alike (hv : SameValue k v x) (hw : SameValue k w y) :
    (SortKey.ofValue v).Alike (SortKey.ofValue w) := by
  have integers (hv : SameValue .integer v x) (hw : SameValue .integer w y) :
      (SortKey.ofValue v).Alike (SortKey.ofValue w) := by
    obtain ⟨n, -, -, first⟩ := hv.of_integer
    obtain ⟨m, -, -, second⟩ := hw.of_integer
    have numbers (x y : Number) : (SortKey.number x).Alike (.number y) := rfl
    rw [first, second]
    exact numbers _ _
  cases hv with
  | int small => exact integers (.int small) hw
  | uint small => exact integers (.uint small) hw
  | text | bool | instant =>
    cases hw
    rfl

theorem ordered_present (lowers : rules.LowersTexts) (h : SameValue k v x) :
    orderedBy rules k x ≠ .null := by
  unfold orderedBy
  split
  · rename_i texts
    subst texts
    cases h with
    | text s =>
      have lower : rules.lower (.text s) = .text (Text.lowerString s) := lowers (some s)
      rw [lower]
      nofun
  · exact h.present.1

/-- Integers in a row are told apart by their keys. -/
theorem eq_of_tie (lowers : rules.LowersTexts) {n m : Int} (hv : SameValue k v (.int n))
    (hw : SameValue k w (.int m)) (tie : (SortKey.ofValue v).compare (.ofValue w) = .eq) :
    n = m := by
  have plain : k ≠ .text := by
    rintro rfl
    cases hv
  have same := compare lowers hv hw
  rw [orderedBy, orderedBy, if_neg plain, if_neg plain, tie] at same
  have integers : Ord.compare n m = .eq := same
  exact Std.LawfulEqCmp.eq_of_compare integers

end SameValue

namespace HeldAlike

variable {c : ResolvedColumn} {v w : FieldValue}

theorem alike {x y : Datum} (hv : HeldAlike c v x) (hw : HeldAlike c w y)
    (first : SortKey.ofValue v ≠ .absent) (second : SortKey.ofValue w ≠ .absent) :
    (SortKey.ofValue v).Alike (.ofValue w) := by
  cases hv with
  | null => exact absurd rfl first
  | value same =>
    cases hw with
    | null => exact absurd rfl second
    | value other => exact same.alike other

theorem eq_of_tie (lowers : rules.LowersTexts) {n m : Int} (hv : HeldAlike c v (.int n))
    (hw : HeldAlike c w (.int m)) (tie : (SortKey.ofValue v).compare (.ofValue w) = .eq) :
    n = m := by
  cases hv with
  | value same =>
    cases hw with
    | value other => exact same.eq_of_tie lowers other tie

end HeldAlike

namespace SortItem

variable {order : Datum → Datum → Ordering}

theorem compareRows_cons (a b : TableRow) (i : SortItem) (rest : List SortItem) :
    compareRows order rules a b (i :: rest) =
      (i.direction.apply (order (i.subject.value rules a) (i.subject.value rules b))).then
        (compareRows order rules a b rest) := by
  rw [compareRows]
  cases i.direction <;> rfl

theorem compareRows_append (a b : TableRow) (first rest : List SortItem) :
    compareRows order rules a b (first ++ rest) =
      (compareRows order rules a b first).then (compareRows order rules a b rest) := by
  induction first with
  | nil => rfl
  | cons i first ih =>
    rw [List.cons_append, compareRows_cons, compareRows_cons, ih, Ordering.then_assoc]

/-- Rows by one term. -/
theorem compareRows_item (a b : TableRow) (t : OrderTerm) :
    compareRows order rules a b [t.item] =
      t.direction.apply (order (t.value rules a) (t.value rules b)) := by
  rw [compareRows_cons, t.value_item, t.value_item]
  exact Ordering.then_eq

end SortItem

/-- Whether a value is missing, as rows are ordered by it. -/
def nullRank (x : Datum) : Datum := .int (if x = .null then 1 else 0)

namespace PlannedSort

variable {order : Datum → Datum → Ordering}

def valueTerm (s : PlannedSort) : OrderTerm :=
  ⟨if s.column.kind == .text then .folded s.column.toColumnRef else .plain s.column.toColumnRef,
    s.direction⟩

theorem value_valueTerm (s : PlannedSort) (row : TableRow) :
    s.valueTerm.value rules row = orderedBy rules s.column.kind (row s.column.toColumnRef) := by
  unfold orderedBy valueTerm
  by_cases text : s.column.kind = .text
  · rw [if_pos text, if_pos (by rw [text]; rfl)]
    rfl
  · rw [if_neg text, if_neg (by simpa using text)]
    rfl

theorem terms_ne_nil (s : PlannedSort) : s.terms ≠ [] :=
  List.append_ne_nil_of_right_ne_nil _ (List.cons_ne_nil _ _)

/-- The order that the terms of a field give to two values of its column. -/
def puts (order : Datum → Datum → Ordering) (rules : SqlRules) (s : PlannedSort) (x y : Datum) :
    Ordering :=
  (if s.column.nullable then s.direction.apply (order (nullRank x) (nullRank y)) else .eq).then
    (s.direction.apply
      (order (orderedBy rules s.column.kind x) (orderedBy rules s.column.kind y)))

theorem compareRows_terms (s : PlannedSort) (a b : TableRow) :
    SortItem.compareRows order rules a b (s.terms.map (·.item)) =
      s.puts order rules (a s.column.toColumnRef) (b s.column.toColumnRef) := by
  have split : s.terms = (if s.column.nullable then
    [⟨.isNull s.column.toColumnRef, s.direction⟩] else []) ++ [s.valueTerm] := rfl
  rw [split, List.map_append, SortItem.compareRows_append, List.map_singleton,
    SortItem.compareRows_item _ _ s.valueTerm, s.value_valueTerm, s.value_valueTerm, puts]
  cases s.column.nullable with
  | false => rfl
  | true =>
    rw [if_pos rfl, if_pos rfl, List.map_singleton, SortItem.compareRows_item]
    rfl

/-- They put two values as their keys are put. Where null stands does not matter: it is met by null
only, or the term before has decided. -/
theorem puts_eq_directed (places : PlacesNull order) (lowers : rules.LowersTexts) (s : PlannedSort)
    {x y : Datum} {v w : FieldValue} (hv : HeldAlike s.column v x) (hw : HeldAlike s.column w y) :
    s.puts order rules x y = SortKey.directed s.direction (.ofValue v) (.ofValue w) := by
  have ranks : order (nullRank x) (nullRank y) = (nullRank x).sortCompare (nullRank y) :=
    places.present nofun nofun
  rw [puts, ranks]
  cases hv with
  | null nullable =>
    rw [if_pos nullable]
    cases hw with
    | null =>
      rw [orderedBy_null lowers, places.null]
      cases s.direction <;> rfl
    | value same =>
      have rank : nullRank y = .int 0 := congrArg Datum.int (if_neg same.present.1)
      rw [SortKey.directed, SortKey.ofValue, same.compare_absent.1, rank]
      cases s.direction <;> rfl
  | value same =>
    have rank : nullRank x = .int 0 := congrArg Datum.int (if_neg same.present.1)
    rw [rank, SortKey.directed]
    cases hw with
    | null nullable =>
      rw [if_pos nullable, SortKey.ofValue.eq_def .null, same.compare_absent.2]
      cases s.direction <;> rfl
    | value other =>
      have rank : nullRank y = .int 0 := congrArg Datum.int (if_neg other.present.1)
      rw [places.present (same.ordered_present lowers) (other.ordered_present lowers),
        same.compare lowers other, rank]
      cases s.column.nullable <;> cases s.direction <;> rfl

end PlannedSort

/-- A sort field as it was found in records and in a table. -/
structure SharedSort (R : Type) where
  field : FieldDescriptor R
  planned : PlannedSort

namespace SharedSort

variable {R : Type} {records : List R} {rowOf : R → TableRow} {shared : List (SharedSort R)}
  {order : Datum → Datum → Ordering}

def key (s : SharedSort R) : FieldDescriptor R × Direction := (s.field, s.planned.direction)

/-- In the column the rows hold what the records hold. -/
def Fits (records : List R) (rowOf : R → TableRow) (s : SharedSort R) : Prop :=
  ∀ r ∈ records, HeldAlike s.planned.column (s.field.get r) (rowOf r s.planned.column.toColumnRef)

/-- Sort fields that are known on both sides are planned on both sides. -/
theorem exists_of_fields {lookup : FieldLookup R} {schema : TableSchema} {sort : List SortField}
    (fields : ∀ s ∈ sort, ∃ d c, lookup s.field = .ok d ∧ schema.resolve s.field = .ok c ∧
      ∀ r ∈ records, HeldAlike c (d.get r) (rowOf r c.toColumnRef)) :
    ∃ shared : List (SharedSort R), shared.length = sort.length ∧
      (∀ s ∈ shared, s.Fits records rowOf) ∧
      (∀ policy, SortPlan.ofFields lookup policy sort = .ok ⟨shared.map key⟩) ∧
      ∀ policy, plannedSort schema.resolve policy sort = .ok (shared.map (·.planned)) := by
  have found : ∃ shared : List (SharedSort R), shared.length = sort.length ∧
      (∀ s ∈ shared, s.Fits records rowOf) ∧
      (∀ policy, sort.mapM (SortField.key lookup policy) = .ok (shared.map (some ∘ key))) ∧
      ∀ policy, plannedSort schema.resolve policy sort = .ok (shared.map (·.planned)) := by
    induction sort with
    | nil => exact ⟨[], rfl, nofun, fun _ => rfl, fun _ => rfl⟩
    | cons s rest ih =>
      obtain ⟨⟨d, c, field, column, held⟩, others⟩ := List.forall_mem_cons.mp fields
      obtain ⟨shared, length, fits, keys, sorts⟩ := ih others
      have key (policy) : s.key lookup policy = .ok (some (d, s.direction)) := by
        rw [SortField.key, field]
      have found (policy) : ColumnLookup.column schema.resolve policy s.field = .ok (some c) := by
        rw [ColumnLookup.column, column]
      refine ⟨⟨d, c, s.direction⟩ :: shared, congrArg (· + 1) length,
        List.forall_mem_cons.mpr ⟨held, fits⟩,
        fun policy => mapM_cons_ok (key policy) (keys policy), fun policy => ?_⟩
      rw [plannedSort, found, sorts]
      rfl
  obtain ⟨shared, length, fits, keys, sorts⟩ := found
  refine ⟨shared, length, fits, fun policy => ?_, sorts⟩
  rw [SortPlan.ofFields, keys, ← List.map_map]
  exact congrArg (fun keys => Except.ok (SortPlan.mk keys))
    ((List.filterMap_map ..).trans List.filterMap_some)

/-- Records that tie tie in every field. -/
theorem tie_of_mem {a b : R} (tie : SortPlan.compare ⟨shared.map key⟩ a b = .eq) {s : SharedSort R}
    (mem : s ∈ shared) :
    (SortKey.ofValue (s.field.get a)).compare (.ofValue (s.field.get b)) = .eq := by
  induction shared with
  | nil => cases mem
  | cons t rest ih =>
    have split := (SortPlan.compare_cons ..).symm.trans tie
    obtain ⟨first, others⟩ := Ordering.then_eq_eq.mp split
    rcases List.mem_cons.mp mem with rfl | mem
    · unfold SortKey.directed at first
      cases direction : s.planned.direction with
      | asc => rwa [direction] at first
      | desc =>
        rw [direction] at first
        exact Ordering.swap_eq_eq.mp first
    · exact ih others mem

variable (fits : ∀ s ∈ shared, s.Fits records rowOf)

include fits

/-- Rows are put as the records they come from. -/
theorem compareRows_eq (places : PlacesNull order) (lowers : rules.LowersTexts) {a b : R}
    (ha : a ∈ records) (hb : b ∈ records) :
    SortItem.compareRows order rules (rowOf a) (rowOf b)
        (((shared.map (·.planned)).flatMap (·.terms)).map (·.item)) =
      SortPlan.compare ⟨shared.map key⟩ a b := by
  induction shared with
  | nil => rfl
  | cons s rest ih =>
    obtain ⟨here, later⟩ := List.forall_mem_cons.mp fits
    rw [List.map_cons, List.flatMap_cons, List.map_append, SortItem.compareRows_append, ih later,
      s.planned.compareRows_terms, s.planned.puts_eq_directed places lowers (here a ha)
        (here b hb), List.map_cons]
    exact (SortPlan.compare_cons ..).symm

/-- The fields put the records in order. -/
theorem orders : Orders (SortPlan.compare ⟨shared.map key⟩) records where
  swap := SortPlan.compare_swap _
  trans a ha b hb c hc := by
    refine SortPlan.Orderly.isLE_trans fun k mem => ?_
    obtain ⟨s, known, rfl⟩ := List.mem_map.mp mem
    have alike {r t : R} (hr : r ∈ records) (ht : t ∈ records) :=
      (fits s known r hr).alike (fits s known t ht)
    exact .of_alike (alike ha hb) (alike hb hc) (alike hc ha)

end SharedSort

namespace TableSchema

variable {schema : TableSchema} {key : String} {sorts : List PlannedSort}

/-- Where fields are asked for, their terms come first and the key decides last, unless it was asked
for. -/
theorem orderTerms_of_asked (keyed : schema.primaryKey = some key) (asked : sorts ≠ []) :
    schema.orderTerms sorts = sorts.flatMap (·.terms) ++
      if sorts.any (·.isByKey schema) then [] else [⟨.plain (schema.ref key), .asc⟩] := by
  obtain ⟨s, rest, rfl⟩ := List.exists_cons_of_ne_nil asked
  have some : ((s :: rest).flatMap (·.terms)).isEmpty = false :=
    List.isEmpty_eq_false_iff.mpr (List.append_ne_nil_of_left_ne_nil s.terms_ne_nil _)
  rw [orderTerms, keyed]
  dsimp only
  rw [some]
  rfl

end TableSchema

namespace SharedSort

variable {R : Type} {records : List R} {rowOf : R → TableRow} {number : R → Int}
  {shared : List (SharedSort R)} {order : Datum → Datum → Ordering} {schema : TableSchema}
  {key : String} {sort : List SortField} {policy : UnknownFields}

/-- Rows are put as the records they come from, and where those tie by the key. -/
theorem compareRows_orderTerms (fits : ∀ s ∈ shared, s.Fits records rowOf)
    (planned : plannedSort schema.resolve policy sort = .ok (shared.map (·.planned)))
    (asked : shared ≠ []) (keyed : schema.primaryKey = some key) (places : PlacesNull order)
    (lowers : rules.LowersTexts)
    (numbered : ∀ r ∈ records, rowOf r (schema.ref key) = .int (number r)) {a b : R}
    (ha : a ∈ records) (hb : b ∈ records) :
    SortItem.compareRows order rules (rowOf a) (rowOf b)
        ((schema.orderTerms (shared.map (·.planned))).map (·.item)) =
      SortPlan.compareNumbered ⟨shared.map SharedSort.key⟩ number a b := by
  rw [schema.orderTerms_of_asked keyed (by simpa using asked), List.map_append,
    SortItem.compareRows_append, compareRows_eq fits places lowers ha hb]
  cases byKey : (shared.map (·.planned)).any (·.isByKey schema) with
  | false =>
    have last : order (rowOf a (schema.ref key)) (rowOf b (schema.ref key)) =
        compare (number a) (number b) := by
      rw [numbered a ha, numbered b hb]
      exact places.present nofun nofun
    rw [if_neg Bool.false_ne_true, List.map_singleton, SortItem.compareRows_item]
    exact congrArg (Ordering.then _) last
  | true =>
    obtain ⟨p, mem, here⟩ := List.any_eq_true.mp byKey
    obtain ⟨s, known, rfl⟩ := List.mem_map.mp mem
    have column := TableSchema.ref_of_isByKey keyed planned mem here
    rw [SortPlan.compareNumbered]
    cases tie : SortPlan.compare ⟨shared.map SharedSort.key⟩ a b with
    | lt | gt => rfl
    | eq =>
      -- a tie in the key itself leaves nothing to decide
      have self : compare (number b) (number b) = .eq := Std.ReflOrd.compare_self
      have first := fits s known a ha
      have second := fits s known b hb
      rw [column, numbered a ha] at first
      rw [column, numbered b hb] at second
      rw [first.eq_of_tie lowers second (tie_of_mem tie known), self]
      rfl

end SharedSort

/-- What a database may answer that has read the items of an order: the rows, none of them before
one that comes first. -/
structure SortItem.Arranges (order : Datum → Datum → Ordering) (rules : SqlRules)
    (items : List SortItem) (rows answer : List TableRow) : Prop where
  perm : answer.Perm rows
  ascending : answer.Pairwise fun a b => compareRows order rules a b items ≠ .gt

/-- Where rows are put as the records they come from, the sorted records are what they are arranged
into. -/
theorem arranges_iff_stableSort {R : Type} {records : List R} {number : R → Int} {p : SortPlan R}
    {rowOf : R → TableRow} {order : Datum → Datum → Ordering} {items : List SortItem}
    (orders : Orders p.compare records)
    (ascending : records.Pairwise fun a b => number a < number b)
    (same : ∀ a ∈ records, ∀ b ∈ records,
      SortItem.compareRows order rules (rowOf a) (rowOf b) items = p.compareNumbered number a b)
    (rows : List TableRow) : SortItem.Arranges order rules items (records.map rowOf) rows ↔
      rows = (stableSort p.compare records).map rowOf := by
  have perm := stableSort_perm p.compare records
  have sorted : SortItem.Arranges order rules items (records.map rowOf)
      ((stableSort p.compare records).map rowOf) := by
    refine ⟨perm.map rowOf, List.pairwise_map.mpr ?_⟩
    refine (stableSort_compareNumbered orders ascending).imp_of_mem fun ha hb less => ?_
    rw [same _ (perm.mem_iff.mp ha) _ (perm.mem_iff.mp hb), less]
    nofun
  constructor
  · intro arranged
    refine List.Perm.eq_of_pairwise ?_ arranged.ascending sorted.ascending
      (arranged.perm.trans sorted.perm.symm)
    intro x y hx hy forth back
    obtain ⟨a, ha, rfl⟩ := List.mem_map.mp (arranged.perm.mem_iff.mp hx)
    obtain ⟨b, hb, rfl⟩ := List.mem_map.mp (sorted.perm.mem_iff.mp hy)
    rw [same a ha b hb] at forth
    rw [same b hb a ha, p.compareNumbered_swap] at back
    cases put : p.compareNumbered number a b with
    | lt => exact absurd (by rw [put]; rfl) back
    | eq => rw [eq_of_compareNumbered ascending ha hb put]
    | gt => exact absurd put forth
  · rintro rfl
    exact sorted

/-- The order of a plan is that of its sort fields. -/
theorem TableSchema.order_of_complete {schema : TableSchema} {lookup : ColumnLookup}
    {settings : PlanSettings} {options : PlanOptions} {settled : Settled} {sort : List SortField}
    {target : Option String} {sorts : List PlannedSort} {plan : Plan}
    (planned : plannedSort lookup settings.unknownFields sort = .ok sorts)
    (completed : schema.complete lookup settings options settled sort target = .ok plan) :
    plan.order = schema.orderTerms sorts := by
  rw [complete_eq] at completed
  obtain ⟨c, completion, rfl⟩ := map_ok_iff.mp completed
  obtain ⟨known, found, completion⟩ := bind_ok_iff.mp completion
  cases planned.symm.trans found
  obtain ⟨column, -, completion⟩ := bind_ok_iff.mp completion
  obtain ⟨conditions, -, completion⟩ := bind_ok_iff.mp completion
  cases completion
  rfl

/-- Records that are given in ascending order of an integer key are sorted by any fields into the
one order in which a database can answer the rows that hold the same values, as it reads the terms
of a plan by these fields: null last or first by the direction, texts in any case, and rows that are
equal so far by their keys. This does not depend on where the database puts null itself. -/
theorem sorting_agrees_with_order {M : RecordModel} {R : Type} {schema : TableSchema} {key : String}
    {lookup : FieldLookup R} {sort : List SortField} {records : List R} {rowOf : R → TableRow}
    {number : R → Int} (asked : sort ≠ []) (keyed : schema.primaryKey = some key)
    (lowers : rules.LowersTexts)
    (numbered : ∀ r ∈ records, rowOf r (schema.ref key) = .int (number r))
    (ascending : records.Pairwise fun a b => number a < number b)
    (fields : ∀ s ∈ sort, ∃ d c, lookup s.field = .ok d ∧ schema.resolve s.field = .ok c ∧
      ∀ r ∈ records, HeldAlike c (d.get r) (rowOf r c.toColumnRef))
    (e : Engine M) (tidy : e.scratch.Tidy) :
    ∃ p sorts answer,
      (∀ policy, SortPlan.ofFields lookup policy sort = .ok p) ∧
      (∀ policy, plannedSort schema.resolve policy sort = .ok sorts) ∧
      (∀ settings options settled target plan,
        schema.complete schema.resolve settings options settled sort target = .ok plan →
          plan.order = schema.orderTerms sorts) ∧
      (e.arrange p records false).1 = .ok answer ∧
      ∀ (d : Dialect) (before after : List SqlValue), ∃ items,
        ((schema.orderTerms sorts).map (·.text)).mapM
          (SortItem.read d before.length (before ++ after)) = some items ∧
        ∀ order, PlacesNull order → ∀ rows,
          SortItem.Arranges order rules items (records.map rowOf) rows ↔
            rows = answer.map rowOf := by
  obtain ⟨shared, length, fits, keys, sorts⟩ := SharedSort.exists_of_fields fields
  have some : shared ≠ [] := by
    rintro rfl
    exact asked (List.length_eq_zero_iff.mp length.symm)
  refine ⟨_, _, _, keys, sorts, fun settings _ _ _ _ => TableSchema.order_of_complete (sorts _),
    e.arrange_eq tidy _ records, fun d before after => ⟨_, OrderTerm.read_texts _ before after,
      fun order places rows => ?_⟩⟩
  refine arranges_iff_stableSort (SharedSort.orders fits) ascending (fun a ha b hb => ?_) rows
  exact SharedSort.compareRows_orderTerms fits (sorts .skip) some keyed places lowers numbered ha hb

namespace Sample

structure Parcel where
  number : Int
  town : Option String
deriving DecidableEq

abbrev depot : RecordModel where
  Kind := Unit
  Item _ := Parcel
  title _ := "Parcel"
  entries _ := [.ofField "Number" (·.number), .ofField "Town" (·.town)]

def parcelTable : TableSchema :=
  ⟨"parcels", [⟨"number", .integer, false⟩, ⟨"town", .text, true⟩], [], some "number", none, none⟩

def parcels : List Parcel :=
  [⟨1, some "ulm"⟩, ⟨2, none⟩, ⟨3, some "Ulm"⟩, ⟨4, some "Bonn"⟩, ⟨5, none⟩]

def parcelRow (r : Parcel) : TableRow := fun c =>
  if c.column = "number" then .int r.number else .ofText? r.town

def byTownDown : List SortField := [⟨"town", .desc⟩]

/-- Parcels without a town first, and towns in any case. -/
def parcelsByTown : List Parcel :=
  [⟨2, none⟩, ⟨5, none⟩, ⟨1, some "ulm"⟩, ⟨3, some "Ulm"⟩, ⟨4, some "Bonn"⟩]

def nullLast (x y : Datum) : Ordering :=
  (x.compare? y).getD (compare (x = .null : Bool) (y = .null : Bool))

theorem placesNull_nullLast : PlacesNull nullLast where
  present hx hy := by simp [nullLast, Datum.sortCompare, hx, hy]
  null := rfl

theorem parcels_held (s : SortField) (mem : s ∈ byTownDown) :
    ∃ d c, depot.locate () s.field = .ok d ∧ parcelTable.resolve s.field = .ok c ∧
      ∀ r ∈ parcels, HeldAlike c (d.get r) (parcelRow r c.toColumnRef) := by
  cases List.mem_singleton.mp mem
  refine ⟨_, _, rfl, rfl, fun r _ => ?_⟩
  obtain ⟨number, town⟩ := r
  cases town with
  | none => exact .null rfl
  | some name => exact .value (.text name)

end Sample

open Sample in
theorem sorting_agrees_with_order_parcels :
    byTownDown ≠ [] ∧ parcelTable.primaryKey = some "number" ∧ foldingRules.LowersTexts ∧
    (∀ r ∈ parcels, parcelRow r (parcelTable.ref "number") = .int r.number) ∧
    parcels.Pairwise (fun a b => a.number < b.number) ∧
    (∀ s ∈ byTownDown, ∃ d c, depot.locate () s.field = .ok d ∧
      parcelTable.resolve s.field = .ok c ∧
      ∀ r ∈ parcels, HeldAlike c (d.get r) (parcelRow r c.toColumnRef)) ∧
    ({} : Engine depot).scratch.Tidy ∧
    ∃ items, ["(\"parcels\".\"town\" IS NULL) DESC", "LOWER(\"parcels\".\"town\") DESC",
        "\"parcels\".\"number\" ASC"].mapM (SortItem.read .postgres 0 []) = some items ∧
      ∀ order ∈ [Datum.sortCompare, nullLast], PlacesNull order ∧ ∀ rows,
        SortItem.Arranges order foldingRules items (parcels.map parcelRow) rows ↔
          rows = parcelsByTown.map parcelRow := by
  have numbered : ∀ r ∈ parcels, parcelRow r (parcelTable.ref "number") = .int r.number :=
    fun _ _ => rfl
  have ascending : parcels.Pairwise fun a b => a.number < b.number := by decide
  obtain ⟨p, sorts, answer, planned, sorted, -, answered, arranged⟩ :=
    sorting_agrees_with_order (e := ({} : Engine depot)) (by decide) rfl foldingRules_onTexts.lower
      numbered ascending parcels_held ScratchPool.tidy_empty
  have keys : SortPlan.ofFields (depot.locate ()) .reject byTownDown = .ok _ := rfl
  have columns : plannedSort parcelTable.resolve .reject byTownDown = .ok _ := rfl
  cases keys.symm.trans (planned .reject)
  cases columns.symm.trans (sorted .reject)
  have found : answer = parcelsByTown := by
    rw [Engine.arrange_eq _ ScratchPool.tidy_empty] at answered
    rw [← Except.ok.inj answered]
    decide +kernel
  obtain ⟨items, read, orders⟩ := arranged .postgres [] []
  rw [found] at orders
  refine ⟨by decide, rfl, foldingRules_onTexts.lower, numbered, ascending, parcels_held,
    ScratchPool.tidy_empty, items, read, fun order mem => ?_⟩
  rcases List.mem_pair.mp mem with rfl | rfl
  · exact ⟨placesNull_sortCompare, orders _ placesNull_sortCompare⟩
  · exact ⟨placesNull_nullLast, orders _ placesNull_nullLast⟩

end FieldQuery

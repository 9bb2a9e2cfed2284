import FieldQuery.Proofs.CalendarOrder
import FieldQuery.Proofs.Joins
import FieldQuery.Proofs.Paging
import FieldQuery.Statement.Meaning
import Mathlib.Data.List.Pairwise

/-!
# The order of rows

The terms of a plan's order end with the primary key, unless rows are ordered by it already. So rows
with different keys never tie, and there is but one order in which rows can come, as long as the key
is not among the columns whose texts are ordered in any case. Main statement:
`order_tells_keys_apart`.
-/
namespace FieldQuery

theorem Number.compare?_swap (x y : Number) : y.compare? x = (x.compare? y).map Ordering.swap := by
  unfold Number.compare?
  rw [Bool.or_comm]
  split
  · rfl
  · exact congrArg some Std.OrientedCmp.eq_swap

namespace Datum

theorem compare?_swap (a b : Datum) : b.compare? a = (a.compare? b).map Ordering.swap := by
  -- values of different families stand in a fixed order, and null in none
  cases a <;> cases b <;> try rfl
  case int.int n k => exact congrArg some Std.OrientedCmp.eq_swap
  case int.real n x =>
    have twice : Ordering.swap ∘ Ordering.swap = id := funext fun _ => Ordering.swap_swap
    change x.compareInt? n = ((x.compareInt? n).map Ordering.swap).map Ordering.swap
    rw [Option.map_map, twice, Option.map_id_fun, id]
  case real.real x y => exact x.compare?_swap y
  case text.text s t => exact congrArg some Std.OrientedCmp.eq_swap
  case instant.instant m n => exact congrArg some Std.OrientedCmp.eq_swap

/-- The order of two values is the opposite of their order the other way round. -/
theorem sortCompare_swap (a b : Datum) : b.sortCompare a = (a.sortCompare b).swap := by
  unfold sortCompare
  rw [compare?_swap a b]
  cases a.compare? b with
  | some o => rfl
  | none => exact Std.OrientedOrd.eq_swap

end Datum

namespace OrderTerm

variable (rules : SqlRules) (a b : TableRow)

theorem compareRows_swap (terms : List OrderTerm) :
    compareRows rules b a terms = (compareRows rules a b terms).swap := by
  induction terms with
  | nil => rfl
  | cons t rest ih =>
    rw [compareRows, compareRows, ih, Datum.sortCompare_swap (t.value rules a), Ordering.swap_then]
    cases t.direction <;> rfl

/-- Rows tie just when they tie in every term. -/
theorem compareRows_eq_iff (terms : List OrderTerm) : compareRows rules a b terms = .eq ↔
    ∀ t ∈ terms, (t.value rules a).sortCompare (t.value rules b) = .eq := by
  induction terms with
  | nil => simp [compareRows]
  | cons t rest ih =>
    rw [compareRows, Ordering.then_eq_eq, ih, List.forall_mem_cons]
    refine and_congr_left fun _ => ?_
    cases t.direction with
    | asc => exact Iff.rfl
    | desc => exact Ordering.swap_eq_eq

end OrderTerm

/-- What a database may answer to a statement with an order: the rows, none of them before one that
comes first. -/
structure Arranges (rules : SqlRules) (order : List OrderTerm) (rows answer : List TableRow) :
    Prop where
  perm : answer.Perm rows
  ascending : answer.Pairwise fun a b => OrderTerm.compareRows rules a b order ≠ .gt

/-- Rows that are told apart have one arrangement only. -/
theorem Arranges.unique {rules : SqlRules} {order : List OrderTerm}
    {rows first second : List TableRow} (h : Arranges rules order rows first)
    (k : Arranges rules order rows second)
    (apart : rows.Pairwise fun a b => OrderTerm.compareRows rules a b order ≠ .eq) :
    first = second := by
  let differ (a b : TableRow) : Prop := OrderTerm.compareRows rules a b order ≠ .eq
  have symmetric : Std.Symm differ := by
    refine ⟨fun a b differ tie => differ ?_⟩
    rwa [OrderTerm.compareRows_swap, Ordering.swap_eq_eq] at tie
  refine List.Perm.eq_of_pairwise ?_ h.ascending k.ascending (h.perm.trans k.perm.symm)
  intro a b ha hb forth back
  by_contra other
  have tells := List.Pairwise.forall (R := differ) apart (h.perm.mem_iff.mp ha)
    (k.perm.mem_iff.mp hb) other
  rw [OrderTerm.compareRows_swap] at back
  cases order : OrderTerm.compareRows rules a b order with
  | lt => exact back (by rw [order]; rfl)
  | eq => exact tells order
  | gt => exact forth order

namespace TableSchema

variable {schema : TableSchema} {policy : UnknownFields} {sort : List SortField}
  {sorts : List PlannedSort} {key : String}

/-- A column that is reached without joins is one of the table itself. -/
theorem source_of_plannedSort (planned : plannedSort schema.resolve policy sort = .ok sorts)
    {s : PlannedSort} (mem : s ∈ sorts) (joins : s.column.joins = []) :
    s.column.source = schema.table := by
  have looked : s.column ∈ (sort.map (·.field)).filterMap schema.resolve? :=
    columns_of_plannedSort planned ▸ List.mem_map_of_mem mem
  obtain ⟨path, -, found⟩ := List.mem_filterMap.mp looked
  rcases (leads_of_resolve found).2 with base | joined
  · exact base
  · rw [joins] at joined
    cases joined

/-- A sort field that orders by the key leads to it. -/
theorem ref_of_isByKey (keyed : schema.primaryKey = some key)
    (planned : plannedSort schema.resolve policy sort = .ok sorts) {s : PlannedSort}
    (mem : s ∈ sorts) (byKey : s.isByKey schema = true) :
    s.column.toColumnRef = schema.ref key := by
  obtain ⟨joins, column⟩ := (Bool.and_eq_true _ _).mp byKey
  have base := source_of_plannedSort planned mem (List.isEmpty_iff.mp joins)
  have name : key = s.column.column := Option.some.inj (keyed.symm.trans (eq_of_beq column))
  rw [ref, name, ← base]

/-- Rows are ordered by the key as it stands, be it because that was asked for, be it to decide
between rows that are equal so far. -/
theorem plain_key_mem_orderTerms (keyed : schema.primaryKey = some key)
    (planned : plannedSort schema.resolve policy sort = .ok sorts)
    (unfolded : ∀ s ∈ sorts, s.isByKey schema = true → s.column.kind ≠ .text) :
    ∃ direction, ⟨.plain (schema.ref key), direction⟩ ∈ schema.orderTerms sorts := by
  cases asked : sorts.any (·.isByKey schema) with
  | false =>
    refine ⟨.asc, List.mem_append_right _ ?_⟩
    rw [asked, keyed]
    exact List.mem_singleton_self _
  | true =>
    obtain ⟨s, mem, byKey⟩ := List.any_eq_true.mp asked
    have plain := unfolded s mem byKey
    have here := ref_of_isByKey keyed planned mem byKey
    have term : ⟨.plain (schema.ref key), s.direction⟩ ∈ sorts.flatMap (·.terms) := by
      refine List.mem_flatMap.mpr ⟨s, mem, List.mem_append_right _ ?_⟩
      rw [if_neg (by simpa using plain), here]
      exact List.mem_singleton_self _
    refine ⟨s.direction, List.mem_append_left _ ?_⟩
    have some : (sorts.flatMap (·.terms)).isEmpty = false :=
      List.isEmpty_eq_false_iff.mpr (List.ne_nil_of_mem term)
    rw [some]
    exact term

end TableSchema

/-- An offset beyond the words skips every row all the same. -/
theorem PageWindow.drop_offset {α : Type} (w : PageWindow) (items : List α)
    (short : items.length < wordLimit) : items.drop w.offset = items.drop (w.index * w.size) := by
  by_cases exact : w.index * w.size < wordLimit
  · rw [offset, saturated_of_lt exact]
  · have behind : wordLimit - 1 ≤ w.offset := by
      unfold offset saturated
      omega
    rw [List.drop_of_length_le (by omega), List.drop_of_length_le (by omega)]

/-- Rows with different primary keys never tie in the order of a plan, whatever fields are asked
for, as long as they do not order texts of the key itself in any case. So every page, each from an
answer of its own, is cut from the one arrangement of the rows. -/
theorem order_tells_keys_apart {schema : TableSchema} {policy : UnknownFields}
    {sort : List SortField} {sorts : List PlannedSort} {key : String}
    (keyed : schema.primaryKey = some key)
    (planned : plannedSort schema.resolve policy sort = .ok sorts)
    (unfolded : ∀ s ∈ sorts, s.isByKey schema = true → s.column.kind ≠ .text)
    (rules : SqlRules) :
    let order := schema.orderTerms sorts
    let differ (a b : TableRow) : Prop :=
      (a (schema.ref key)).sortCompare (b (schema.ref key)) ≠ .eq
    (∀ a b, differ a b → OrderTerm.compareRows rules a b order ≠ .eq) ∧
    ∀ (rows : List TableRow) (defaultSize : Nat) (size : Int) (answer : Int → List TableRow),
      rows.Pairwise differ → rows.length < wordLimit →
      (∀ i, Arranges rules order rows (answer i)) →
      ∃ arranged, Arranges rules order rows arranged ∧
        CutsIntoPages arranged (PageWindow.requested defaultSize size)
          ((PageWindow.ofRequest defaultSize 0 size).pageCount rows.length) fun i =>
          let w := PageWindow.ofRequest defaultSize i size
          ((answer i).drop w.offset).take w.limit := by
  intro order differ
  have tells (a b : TableRow) (apart : differ a b) :
      OrderTerm.compareRows rules a b order ≠ .eq := by
    intro tie
    obtain ⟨direction, mem⟩ := TableSchema.plain_key_mem_orderTerms keyed planned unfolded
    exact apart ((OrderTerm.compareRows_eq_iff rules a b order).mp tie _ mem)
  refine ⟨tells, ?_⟩
  intro rows defaultSize size answer apart short each
  refine ⟨answer 0, each 0, ?_⟩
  have length : (answer 0).length = rows.length := (each 0).perm.length_eq
  rw [← length] at short ⊢
  refine .of_window (.ofRequest defaultSize 0 size) (answer 0) fun i => ?_
  have same : answer i = answer 0 :=
    (each i).unique (each 0) (apart.imp fun {a b} => tells a b)
  rw [same]
  exact congrArg (List.take _) (PageWindow.drop_offset (.ofRequest defaultSize i size) _ short)

namespace Sample

def countries : TableSchema :=
  ⟨"countries", [⟨"code", .text, false⟩, ⟨"people", .integer, true⟩], [], some "code", none, none⟩

def lowering : SqlRules where
  lower
    | .text s => .text (Text.lowerString s)
    | d => d
  alike c d := c == d
  timeOfDay d := d
  instant d := d

def rowOf (code : String) (people : Int) : TableRow := fun c =>
  if c.column = "code" then .text code else .int people

def byPeople : List PlannedSort :=
  [⟨⟨⟨"countries", "people"⟩, [], .integer, true⟩, .desc⟩]

def byCode : List PlannedSort :=
  [⟨⟨⟨"countries", "code"⟩, [], .text, false⟩, .asc⟩]

end Sample

open Sample in
theorem order_tells_keys_apart_countries :
    countries.primaryKey = some "code" ∧
    plannedSort countries.resolve .reject [⟨"people", .desc⟩] = .ok byPeople ∧
    (∀ s ∈ byPeople, s.isByKey countries = true → s.column.kind ≠ .text) ∧
    OrderTerm.compareRows lowering (rowOf "DE" 84) (rowOf "de" 84)
      (countries.orderTerms byPeople) ≠ .eq := by
  have planned : plannedSort countries.resolve .reject [⟨"people", .desc⟩] = .ok byPeople := rfl
  have unfolded : ∀ s ∈ byPeople, s.isByKey countries = true → s.column.kind ≠ .text := by decide
  refine ⟨rfl, planned, unfolded, ?_⟩
  exact (order_tells_keys_apart rfl planned unfolded lowering).1 _ _ (by decide +kernel)

open Sample in
/-- Ordered by a key whose texts are ordered in any case, rows with different keys tie. -/
theorem folded_key_ties :
    ¬ ∀ (schema : TableSchema) (policy : UnknownFields) (sort : List SortField)
      (sorts : List PlannedSort) (key : String), schema.primaryKey = some key →
      plannedSort schema.resolve policy sort = .ok sorts → ∀ (rules : SqlRules) (a b : TableRow),
        (a (schema.ref key)).sortCompare (b (schema.ref key)) ≠ .eq →
          OrderTerm.compareRows rules a b (schema.orderTerms sorts) ≠ .eq := by
  intro tells
  have planned : plannedSort countries.resolve .reject [⟨"code", .asc⟩] = .ok byCode := rfl
  exact tells countries .reject _ byCode "code" rfl planned lowering (rowOf "DE" 84) (rowOf "de" 84)
    (by decide +kernel) (by decide +kernel)

end FieldQuery

import FieldQuery.Proofs.Joins
import FieldQuery.Proofs.Qualifiers
import Mathlib.Data.List.Nodup

/-!
# Sources of a plan

The items that rows are taken from go by names: the table by its own, each join by the relations on
the way to it. No two joins go by one name, in any case of letters. A join may still go by the name
of the table, and then both answer where columns of the table are meant. Main statement:
`qualifiers_find_sources`.
-/
namespace FieldQuery

open Statement Fragment

namespace TableSchema

/-- Names of relations that can be followed one after the other. -/
inductive Follows : TableSchema → List String → Prop where
  | last {t : TableSchema} {segment : String} {r : Relation}
      (found : t.findRelation segment = some r) : Follows t [r.name]
  | onward {t : TableSchema} {segment : String} {r : Relation} {names : List String}
      (found : t.findRelation segment = some r) (rest : Follows r.target names) :
      Follows t (r.name :: names)

variable {t : TableSchema}

theorem Follows.spell_cons {names : List String} (h : t.Follows names) (name : String) :
    "__".intercalate (name :: names) = name ++ "__" ++ "__".intercalate names := by
  cases h <;> exact String.intercalate_cons_cons

/-- The label of a join goes on from its source by the names of relations. -/
theorem Leads.follows {source : String} {isBase : Bool} {steps : List JoinStep}
    (h : t.Leads source isBase steps) {j : JoinStep} (mem : j ∈ steps) :
    ∃ names, t.Follows names ∧
      j.label = if isBase then "__".intercalate names
        else source ++ "__" ++ "__".intercalate names := by
  induction steps generalizing t source isBase with
  | nil => cases mem
  | cons first rest ih =>
    obtain ⟨segment, r, found, rfl, next⟩ := leads_cons.mp h
    rcases List.mem_cons.mp mem with rfl | later
    · refine ⟨[r.name], .last found, ?_⟩
      rw [String.intercalate_singleton]
      rfl
    · obtain ⟨names, follows, label⟩ := ih next later
      refine ⟨r.name :: names, .onward found follows, ?_⟩
      rw [label, follows.spell_cons]
      cases isBase <;> simp [labelFrom, String.append_assoc]

namespace Grown

variable {joins : List JoinStep}

theorem follows (h : t.Grown joins) {j : JoinStep} (mem : j ∈ joins) :
    ∃ names, t.Follows names ∧ j.label = "__".intercalate names := by
  obtain ⟨before, after, leads, -⟩ := h.way mem
  exact leads.follows (List.mem_append_right before List.mem_cons_self)

/-- Labels differ not only in the case of their letters. -/
theorem labels_apart (h : t.Grown joins) :
    (joins.map fun j => Text.asciiLower j.label.toList).Nodup := by
  induction h with
  | none => exact List.nodup_nil
  | @more joins before after j grown fresh way there ih =>
    rw [List.map_append]
    refine List.nodup_append.mpr ⟨ih, by simp, ?_⟩
    intro a ha b hb same
    obtain ⟨k, mem, rfl⟩ := List.mem_map.mp ha
    rw [List.map_singleton, List.mem_singleton] at hb
    obtain ⟨_, _, leads, -⟩ := grown.way mem
    obtain ⟨-, rfl⟩ := leads.agree_of_alike way (Text.eqIgnoreAsciiCase_iff.mpr (same.trans hb))
    exact fresh (List.mem_map_of_mem mem)

theorem parent_of_mem (h : t.Grown joins) {j : JoinStep} (mem : j ∈ joins) :
    j.parent = t.table ∨ j.parent ∈ joins.map (·.label) := by
  obtain ⟨before, after, rfl⟩ := List.append_of_mem mem
  refine (h.parent rfl).imp_right fun earlier => ?_
  rw [List.map_append]
  exact List.mem_append_left _ earlier

end Grown

end TableSchema

namespace Plan

variable {p : Plan} {name : String}

/-- Answering depends on small letters alone. -/
theorem answering_eq (p : Plan) (name : String) :
    p.answering name =
      (p.sources.map fun s => Text.asciiLower s.toList).count (Text.asciiLower name.toList) := by
  rw [List.count, List.countP_map]
  rfl

theorem answering_of_apart (apart : (p.sources.map fun s => Text.asciiLower s.toList).Nodup)
    (mem : name ∈ p.sources) : p.answering name = 1 := by
  rw [answering_eq]
  exact List.count_eq_one_of_mem apart (List.mem_map_of_mem mem)

end Plan

def RowTest.On (c : ColumnRef) : RowTest → Prop
  | predicate t => t.On c
  | column other _ => other = c

theorem RowTest.On.refers {t : RowTest} {c : ColumnRef} {d : Dialect} {good : String → Prop}
    (h : t.On c) (known : good c.source) : Reads d (Refers good) (t.fragment d) := by
  cases t with
  | predicate t => exact SqlTest.On.refers h known
  | column other t =>
    cases h
    exact t.refers known

section Settled

open TableSchema

theorem on_columns_of_terms {base : Option Fragment} {d : Dialect} {logic : Logic}
    {terms : List PlannedTerm} {t : RowTest}
    (mem : t ∈ (Settled.ofTerms base d logic terms).tests) :
    ∃ c ∈ (Settled.ofTerms base d logic terms).columns, t.On c.toColumnRef := by
  obtain ⟨⟨c, q⟩, kept, rfl⟩ := List.mem_map.mp mem
  unfold restricting at kept
  split at kept
  · cases kept
  · exact ⟨c, List.mem_map_of_mem kept, q.on_test c.toColumnRef⟩

theorem on_columns_of_tests {tests : List (Option (ResolvedColumn × ColumnTest))} {t : RowTest}
    (mem : t ∈ (Settled.ofTests tests).tests) :
    ∃ c ∈ (Settled.ofTests tests).columns, t.On c.toColumnRef := by
  obtain ⟨⟨c, q⟩, kept, rfl⟩ := List.mem_map.mp mem
  exact ⟨c, List.mem_map_of_mem kept, rfl⟩

end Settled

section Completion

variable {schema : TableSchema} {settings : PlanSettings} {options : PlanOptions}
  {settled : TableSchema.Settled} {good : String → Prop}

theorem source_of_orderTerms {sorts : List PlannedSort} (table : good schema.table)
    (columns : ∀ s ∈ sorts, good s.column.source) :
    ∀ t ∈ schema.orderTerms sorts, good t.key.column.source := by
  have asked : ∀ t ∈ sorts.flatMap (·.terms), good t.key.column.source := by
    intro t mem
    obtain ⟨s, there, mem⟩ := List.mem_flatMap.mp mem
    have known := columns s there
    rcases List.mem_append.mp mem with null | value
    · split at null
      · rw [List.mem_singleton.mp null]
        exact known
      · cases null
    · rw [List.mem_singleton.mp value]
      dsimp only
      split <;> exact known
  intro t mem
  rcases List.mem_append.mp mem with wanted | tie
  · split at wanted
    · split at wanted
      · rw [List.mem_singleton.mp wanted]
        exact table
      · cases wanted
    · exact asked t wanted
  · split at tie
    · cases tie
    · split at tie
      · rw [List.mem_singleton.mp tie]
        exact table
      · cases tie

theorem keeps_conjuncts {d : Dialect} {logic : Logic} {tests : List RowTest}
    {conditions : List Fragment} (table : good schema.table)
    (each : ∀ t ∈ tests, Reads d (Refers good) (t.fragment d))
    (raws : ∀ f ∈ conditions, Reads d (Refers good) f) :
    ∀ c ∈ schema.conjuncts options logic tests conditions, c.Keeps d good := by
  intro c mem
  rcases List.mem_append.mp mem with mem | raw
  · rcases List.mem_append.mp mem with group | mark
    · split at group
      · cases group
      · rw [List.mem_singleton.mp group]
        exact each
    · split at mark
      · rw [List.mem_singleton.mp mark]
        exact table
      · cases mark
  · obtain ⟨f, there, rfl⟩ := List.mem_map.mp raw
    exact raws f there

theorem Completion.keeps {c : Completion} (table : good schema.table)
    (columns : ∀ x ∈ settled.columns ++ (c.sorts.map (·.column) ++ c.target.toList), good x.source)
    (tests : ∀ t ∈ settled.tests, ∃ x ∈ settled.columns, t.On x.toColumnRef)
    (joins : ∀ j ∈ (c.plan schema settings options settled).joins, good j.parent ∧ good j.label)
    (raws : ∀ f ∈ (c.plan schema settings options settled).raws,
      f.Reads settings.dialect (Refers good)) :
    (c.plan schema settings options settled).Keeps good where
  base := by
    intro f mem
    exact raws f (List.mem_append_left _ (Option.mem_toList.mpr mem))
  table := table
  joins := joins
  conjuncts := by
    refine keeps_conjuncts table ?_ ?_
    · intro t mem
      obtain ⟨x, there, on⟩ := tests t mem
      exact on.refers (columns x (List.mem_append_left _ there))
    · intro f mem
      have conjunct : .raw f ∈ (c.plan schema settings options settled).conjuncts :=
        List.mem_append_right _ (List.mem_map_of_mem mem)
      exact raws f (List.mem_append_right _ (List.mem_filterMap.mpr ⟨.raw f, conjunct, rfl⟩))
  order := by
    refine source_of_orderTerms table ?_
    intro s mem
    refine columns s.column (List.mem_append_right _ ?_)
    exact List.mem_append_left _ (List.mem_map_of_mem mem)
  target := by
    intro x mem
    obtain ⟨column, there, rfl⟩ := Option.map_eq_some_iff.mp mem
    exact columns column
      (List.mem_append_right _ (List.mem_append_right _ (Option.mem_toList.mpr there)))

end Completion

section Sources

variable {schema : TableSchema} {policy : UnknownFields} {inquiries : List Inquiry} {p : Plan}

/-- The joins of a plan are grown, and its columns belong to the table or to one of them. -/
theorem grown_of_plans (plans : schema.Plans policy inquiries p) :
    schema.Grown p.joins ∧
      ∀ c ∈ (inquiries.filterMap (·.column?)).filterMap schema.resolve?,
        c.source = schema.table ∨ c.source ∈ p.joins.map (·.label) := by
  have ways : ∀ c ∈ (inquiries.filterMap (·.column?)).filterMap schema.resolve?,
      schema.Leads schema.table true c.joins ∧
        (c.source = schema.table ∨ c.source ∈ c.joins.map (·.label)) := by
    intro c mem
    obtain ⟨path, -, found⟩ := List.mem_filterMap.mp mem
    exact TableSchema.leads_of_resolve found
  rw [joins_of_plans plans]
  obtain ⟨grown, -, chains⟩ := TableSchema.Grown.none.addColumns fun c mem => (ways c mem).1
  refine ⟨grown, ?_⟩
  intro c mem
  exact (ways c mem).2.imp_right fun joined => ((chains c mem).map _).subset joined

/-- What a plan needs to be read with good qualifiers: good names of the table, of the joins and in
what the caller wrote. -/
theorem keeps_of_plans {good : String → Prop} (plans : schema.Plans policy inquiries p)
    (table : good schema.table) (labels : ∀ j ∈ p.joins, good j.label)
    (raws : ∀ f ∈ p.raws, f.Reads p.dialect (Refers good)) : p.Keeps good := by
  obtain ⟨grown, sources⟩ := grown_of_plans plans
  have named {name : String} (h : name = schema.table ∨ name ∈ p.joins.map (·.label)) :
      good name := by
    rcases h with rfl | mem
    · exact table
    · obtain ⟨j, there, rfl⟩ := List.mem_map.mp mem
      exact labels j there
  have joins : ∀ j ∈ p.joins, good j.parent ∧ good j.label := fun j mem =>
    ⟨named (grown.parent_of_mem mem), labels j mem⟩
  have columns : ∀ c ∈ (inquiries.filterMap (·.column?)).filterMap schema.resolve?,
      good c.source := fun c mem => named (sources c mem)
  cases plans with
  | filter unknown planned =>
    subst unknown
    obtain ⟨base, terms, c, -, settled, completed, rfl⟩ := TableSchema.plan_ok_iff.mp planned
    rw [Filter.inquiries, List.filterMap_append, List.filterMap_append, ← columns_of_terms settled,
      ← columns_of_completion completed] at columns
    exact Completion.keeps table columns (fun t => on_columns_of_terms) joins raws
  | columns unknown planned =>
    subst unknown
    obtain ⟨tests, c, settled, completed, rfl⟩ := TableSchema.planColumns_ok_iff.mp planned
    have own (filters : List ColumnFilter) :
        (filters.map fun f => Inquiry.column f.field).filterMap (·.column?) =
          filters.map (·.field) := by
      simp [List.filterMap_map, Inquiry.column?]
    rw [columnInquiries, List.filterMap_append, List.filterMap_append, own,
      ← columns_of_tests settled, ← columns_of_completion completed] at columns
    exact Completion.keeps table columns (fun t => on_columns_of_tests) joins raws

theorem table_of_plans (plans : schema.Plans policy inquiries p) : p.table = schema.table := by
  cases plans with
  | filter _ planned =>
    obtain ⟨_, _, _, -, -, -, rfl⟩ := TableSchema.plan_ok_iff.mp planned
    rfl
  | columns _ planned =>
    obtain ⟨_, _, -, -, rfl⟩ := TableSchema.planColumns_ok_iff.mp planned
    rfl

/-- Joins of a plan go by the names of the relations that lead to them. Unless one of them spells
the name of the table, every qualifier in what the plan writes finds just one item. Otherwise two
items answer to the name of the table. What the caller wrote is the caller's. -/
theorem qualifiers_find_sources (plans : schema.Plans policy inquiries p) :
    (∀ j ∈ p.joins, ∃ names, schema.Follows names ∧ j.label = "__".intercalate names) ∧
    ((∀ j ∈ p.joins, Text.eqIgnoreAsciiCase j.label p.table = false) →
      (∀ f ∈ p.raws, f.Reads p.dialect (Refers (p.answering · = 1))) →
      ∀ text, p.Writes text → ∃ ls, lexemes text.toList = some ls ∧
        ∀ name ∈ qualifiers ls, p.answering name = 1) ∧
    ((∃ j ∈ p.joins, Text.eqIgnoreAsciiCase j.label p.table = true) → p.answering p.table = 2) := by
  obtain ⟨grown, -⟩ := grown_of_plans plans
  refine ⟨fun j => grown.follows, ?_, ?_⟩
  · intro clear raws text writes
    have apart : (p.sources.map fun s => Text.asciiLower s.toList).Nodup := by
      rw [Plan.sources, List.map_cons, List.map_map]
      refine List.nodup_cons.mpr ⟨?_, grown.labels_apart⟩
      intro taken
      obtain ⟨j, mem, same⟩ := List.mem_map.mp taken
      exact absurd (Text.eqIgnoreAsciiCase_iff.mpr same) (ne_true_of_eq_false (clear j mem))
    have once : ∀ name ∈ p.sources, p.answering name = 1 := fun name mem =>
      Plan.answering_of_apart apart mem
    have table : p.answering schema.table = 1 := table_of_plans plans ▸ once _ List.mem_cons_self
    have labels : ∀ j ∈ p.joins, p.answering j.label = 1 := fun j mem =>
      once _ (List.mem_cons_of_mem _ (List.mem_map_of_mem mem))
    exact (keeps_of_plans plans table labels raws).reads writes
  · rintro ⟨j, mem, same⟩
    have once : ((p.joins.map (·.label)).map fun s => Text.asciiLower s.toList).count
        (Text.asciiLower p.table.toList) = 1 := by
      rw [List.map_map, ← Text.eqIgnoreAsciiCase_iff.mp same]
      exact List.count_eq_one_of_mem grown.labels_apart
        (List.mem_map_of_mem (f := fun j : JoinStep => Text.asciiLower j.label.toList) mem)
    rw [Plan.answering_eq, Plan.sources, List.map_cons, List.count_cons_self, once]

end Sources

open Sample in
theorem qualifiers_find_sources_readers :
    ∃ p, readers.plan readers.resolve {} byTown {} (some "library.name") = .ok p ∧
      p.sources = ["readers", "Library", "Library__Town"] ∧
      (∀ j ∈ p.joins, ∃ names, readers.Follows names ∧ j.label = "__".intercalate names) ∧
      ∀ text, p.Writes text → ∃ ls, lexemes text.toList = some ls ∧
        ∀ name ∈ qualifiers ls, p.answering name = 1 := by
  have made : ((readers.plan readers.resolve {} byTown {} (some "library.name")).toOption.map
      fun p => (p.sources, p.raws)) = some (["readers", "Library", "Library__Town"], []) := by
    decide +kernel
  obtain ⟨p, planned, parts⟩ := exists_of_toOption made
  obtain ⟨sources, raws⟩ := Prod.mk.inj parts
  have plans : readers.Plans .skip (byTown.inquiries readers.resolve (some "library.name")) p :=
    .filter rfl planned
  obtain ⟨follows, once, -⟩ := qualifiers_find_sources plans
  refine ⟨p, planned, sources, follows, once ?_ (raws ▸ nofun)⟩
  intro j mem
  obtain ⟨table, labels⟩ := List.cons.inj sources
  have label : j.label ∈ ["Library", "Library__Town"] := labels ▸ List.mem_map_of_mem mem
  have clear : ∀ label ∈ ["Library", "Library__Town"],
      Text.eqIgnoreAsciiCase label "readers" = false := by decide
  rw [table]
  exact clear j.label label

namespace Sample

/-- People who wrote something, told by a key that is named like the table itself. -/
def author : TableSchema :=
  let people : TableSchema := ⟨"people", [⟨"id", .integer, false⟩, ⟨"name", .text, false⟩], [],
    some "id", none, none⟩
  ⟨"author", [⟨"id", .integer, false⟩, ⟨"name", .text, false⟩, ⟨"author_id", .integer, false⟩],
    [⟨"Author", "author_id", "id", people⟩], some "id", none, none⟩

def byName : Filter := { terms := [⟨"author.name", .str "Ada", .equal, some .text⟩] }

end Sample

open Sample in
/-- A join that goes by the name of the table, and a statement that asks for a column by it. -/
theorem join_answers_for_table :
    ∃ p, author.plan author.resolve {} byName {} none = .ok p ∧
      (∃ j ∈ p.joins, Text.eqIgnoreAsciiCase j.label p.table = true) ∧
      ∃ ls, lexemes p.countText.toList = some ls ∧ "author" ∈ qualifiers ls ∧
        p.answering "author" = 2 := by
  have made : ((author.plan author.resolve {} byName {} none).toOption.map fun p =>
      (p.joins.any fun j => Text.eqIgnoreAsciiCase j.label p.table,
        (lexemes p.countText.toList).map qualifiers, p.answering "author")) =
      some (true, some ["author", "Author", "Author"], 2) := by decide +kernel
  obtain ⟨p, planned, parts⟩ := exists_of_toOption made
  obtain ⟨clash, read⟩ := Prod.mk.inj parts
  obtain ⟨names, twice⟩ := Prod.mk.inj read
  obtain ⟨ls, lexed, qualified⟩ := Option.map_eq_some_iff.mp names
  refine ⟨p, planned, by simpa using clash, ls, lexed, ?_, twice⟩
  rw [qualified]
  exact List.mem_cons_self

end FieldQuery

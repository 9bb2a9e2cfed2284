import FieldQuery.Proofs.Agreement
import FieldQuery.Proofs.Relations
import FieldQuery.Proofs.Remembering
import FieldQuery.Statement.Planner

/-!
# Joins of a plan

A planner leaves out a join whose label is taken. Labels tell relations apart, so what stands there
is the very join that was left out. Main statement: `joins_lose_nothing`.
-/
namespace FieldQuery

namespace TableSchema

variable {t : TableSchema}

/-- The first join of a way starts from its source, and each other one from the join before it. -/
theorem Leads.parent {source : String} {isBase : Bool} {a a' : List JoinStep} {x : JoinStep}
    (h : t.Leads source isBase (a ++ x :: a')) :
    x.parent = source ∨ x.parent ∈ a.map (·.label) := by
  induction a generalizing t source isBase with
  | nil =>
    obtain ⟨segment, r, -, rfl, -⟩ := leads_cons.mp h
    exact .inl rfl
  | cons first rest ih =>
    obtain ⟨segment, r, -, rfl, next⟩ := leads_cons.mp h
    rcases ih next with parent | parent
    · exact .inr (List.mem_map.mpr ⟨_, List.mem_cons_self, parent.symm⟩)
    · exact .inr (List.mem_cons_of_mem _ parent)

theorem leads_of_follow {source last : String} {isBase : Bool} {segments : List String}
    {steps : List JoinStep} {target : TableSchema}
    (h : t.follow source isBase segments = some (steps, last, target)) :
    t.Leads source isBase steps ∧ (last = source ∨ last ∈ steps.map (·.label)) := by
  refine ⟨⟨segments, last, target, h⟩, ?_⟩
  induction segments generalizing t source isBase steps with
  | nil =>
    cases h
    exact .inl rfl
  | cons segment rest ih =>
    obtain ⟨r, more, -, next, rfl⟩ := follow_cons.mp h
    rcases ih next with same | later
    · exact .inr (List.mem_map.mpr ⟨_, List.mem_cons_self, same.symm⟩)
    · exact .inr (List.mem_cons_of_mem _ later)

/-- A column is reached by a way, and belongs to the table or to a join on it. -/
theorem leads_of_resolve {path : String} {c : ResolvedColumn} (h : t.resolve? path = some c) :
    t.Leads t.table true c.joins ∧
      (c.source = t.table ∨ c.source ∈ c.joins.map (·.label)) := by
  obtain ⟨names, terminal, joins, source, target, column, -, -, way, -, rfl⟩ :=
    resolve?_eq_some.mp h
  exact leads_of_follow way

/-- Joins as a planner takes them in: none has the label of another, and before each of them stands
the whole way to it. -/
inductive Grown (t : TableSchema) : List JoinStep → Prop where
  | none : Grown t []
  | more {joins before after : List JoinStep} {j : JoinStep} (grown : Grown t joins)
      (fresh : j.label ∉ joins.map (·.label))
      (way : t.Leads t.table true (before ++ j :: after)) (there : before.Sublist joins) :
      Grown t (joins ++ [j])

namespace Grown

variable {joins : List JoinStep}

theorem labels_nodup (h : t.Grown joins) : (joins.map (·.label)).Nodup := by
  induction h with
  | none => exact List.nodup_nil
  | more _ fresh _ _ ih =>
    rw [List.map_append]
    refine List.nodup_append.mpr ⟨ih, by simp, ?_⟩
    intro a ha b hb same
    rw [List.map_singleton, List.mem_singleton] at hb
    exact fresh (hb ▸ same ▸ ha)

theorem parent (h : t.Grown joins) {before after : List JoinStep} {j : JoinStep}
    (split : joins = before ++ j :: after) :
    j.parent = t.table ∨ j.parent ∈ before.map (·.label) := by
  induction h generalizing after with
  | none => cases before <;> cases split
  | more _ _ way there ih =>
    rcases List.eq_nil_or_concat after with rfl | ⟨front, last, rfl⟩
    · obtain ⟨rfl, same⟩ := List.append_inj' split rfl
      cases same
      rcases way.parent with base | earlier
      · exact .inl base
      · exact .inr ((there.map _).subset earlier)
    · rw [List.concat_eq_append, ← List.cons_append, ← List.append_assoc] at split
      exact ih (List.append_inj' split rfl).1

/-- The way to a join stands there as far as the join itself. -/
theorem way (h : t.Grown joins) {j : JoinStep} (mem : j ∈ joins) :
    ∃ before after, t.Leads t.table true (before ++ j :: after) ∧
      (before ++ [j]).Sublist joins := by
  induction h with
  | none => cases mem
  | more _ _ way there ih =>
    rcases List.mem_append.mp mem with earlier | last
    · obtain ⟨before, after, leads, sub⟩ := ih earlier
      exact ⟨before, after, leads, sub.trans (List.sublist_append_left _ _)⟩
    · obtain rfl := List.mem_singleton.mp last
      exact ⟨_, _, way, there.append (List.Sublist.refl _)⟩

/-- Taking in the rest of a way whose beginning is there. -/
theorem addJoins {done rest : List JoinStep} (h : t.Grown joins)
    (way : t.Leads t.table true (done ++ rest)) (there : done.Sublist joins) :
    t.Grown (addJoins joins rest) ∧ joins.Sublist (FieldQuery.addJoins joins rest) ∧
      (done ++ rest).Sublist (FieldQuery.addJoins joins rest) := by
  induction rest generalizing joins done with
  | nil =>
    rw [List.append_nil]
    exact ⟨h, List.Sublist.refl _, there⟩
  | cons j rest ih =>
    have onward : done ++ j :: rest = (done ++ [j]) ++ rest := by simp
    unfold FieldQuery.addJoins
    split
    · rename_i taken
      obtain ⟨k, mem, label⟩ := List.any_eq_true.mp taken
      -- the join that has the label is reached by the same way, so it is the same join
      obtain ⟨before, after, leads, sub⟩ := h.way mem
      obtain ⟨rfl, rfl⟩ := leads.agree way (of_decide_eq_true label)
      rw [onward] at way ⊢
      exact ih h way sub
    · rename_i free
      have fresh : j.label ∉ joins.map (·.label) := fun mem => by
        obtain ⟨k, mem, label⟩ := List.mem_map.mp mem
        exact free (List.any_eq_true.mpr ⟨k, mem, decide_eq_true label⟩)
      have grown : t.Grown (joins ++ [j]) := .more h fresh way there
      rw [onward] at way ⊢
      obtain ⟨further, sub, whole⟩ := ih grown way (there.append (List.Sublist.refl _))
      exact ⟨further, (List.sublist_append_left _ _).trans sub, whole⟩

end Grown

/-- Taking in the joins of several columns. -/
theorem Grown.addColumns {joins : List JoinStep} {columns : List ResolvedColumn}
    (h : t.Grown joins) (found : ∀ c ∈ columns, t.Leads t.table true c.joins) :
    t.Grown (columns.foldl (fun joins c => FieldQuery.addJoins joins c.joins) joins) ∧
      joins.Sublist (columns.foldl (fun joins c => FieldQuery.addJoins joins c.joins) joins) ∧
      ∀ c ∈ columns,
        c.joins.Sublist
          (columns.foldl (fun joins c => FieldQuery.addJoins joins c.joins) joins) := by
  induction columns generalizing joins with
  | nil => exact ⟨h, List.Sublist.refl _, nofun⟩
  | cons c rest ih =>
    have way : t.Leads t.table true ([] ++ c.joins) := found c List.mem_cons_self
    obtain ⟨here, kept, chain⟩ := h.addJoins way (List.nil_sublist _)
    obtain ⟨grown, sub, chains⟩ := ih here fun d mem => found d (List.mem_cons_of_mem c mem)
    refine ⟨grown, kept.trans sub, ?_⟩
    intro d mem
    rcases List.mem_cons.mp mem with rfl | later
    · exact chain.trans sub
    · exact chains d later

end TableSchema

/-- What a list of joins is to hold for the columns of a table: every label once, every join after
the one it starts from, and for each column its source and the whole way to it. -/
structure JoinsServe (table : String) (joins : List JoinStep) (columns : List ResolvedColumn) :
    Prop where
  labels : (joins.map (·.label)).Nodup
  parents : ∀ before j after, joins = before ++ j :: after →
    j.parent = table ∨ j.parent ∈ before.map (·.label)
  sources : ∀ c ∈ columns, c.source = table ∨ c.source ∈ joins.map (·.label)
  chains : ∀ c ∈ columns, c.joins.Sublist joins

namespace Planner

variable {M : RecordModel} [DecidableEq M.Kind] {pl : Planner M} {schema : TableSchema}
  {policy : UnknownFields}

/-- A planner whose cache tells of the table what the table says itself. -/
def Knows (pl : Planner M) (schema : TableSchema) : Prop := pl.lookup schema = schema.resolve

/-- Within one table, paths are told apart by the key. -/
theorem knows_learned (h : pl.Knows schema) (path : String) :
    (pl.learned schema path).Knows schema := by
  funext other
  refine (ResolutionCache.answer_learn ?_).trans (congrFun h other)
  intro key
  exact ⟨rfl, congrArg (·.path) key⟩

/-- A cache that was used for one table only. -/
theorem knows_learnAll (schema : TableSchema) (paths : List String) :
    Planner.Knows (M := M) ⟨({} : ResolutionCache M).learnAll (.table schema) paths, []⟩
      schema := by
  funext other
  refine (ResolutionCache.answer_learnAll paths ?_).trans rfl
  intro path _ key
  exact ⟨rfl, congrArg (·.path) key⟩

/-- One column: it is the one that the table says, and its joins are taken in. -/
theorem column_eq (h : pl.Knows schema) (path : String) :
    pl.column schema policy path =
      (ColumnLookup.column schema.resolve policy path,
        { pl.learned schema path with
          joins := addJoins pl.joins ((schema.resolve? path).elim [] (·.joins)) }) := by
  unfold column
  rw [h]
  unfold TableSchema.resolve
  cases schema.resolve? path <;> rfl

/-- Inquiries are answered as the table itself would, and the joins are those of the columns. -/
theorem run_eq (h : pl.Knows schema) (policy : UnknownFields) (inquiries : List Inquiry) :
    (run schema policy inquiries pl).1 =
      (inquiries.filterMap (·.column?)).map (ColumnLookup.column schema.resolve policy) ∧
    (run schema policy inquiries pl).2.joins =
      ((inquiries.filterMap (·.column?)).filterMap schema.resolve?).foldl
        (fun joins c => addJoins joins c.joins) pl.joins := by
  induction inquiries generalizing pl with
  | nil => exact ⟨rfl, rfl⟩
  | cons inquiry rest ih =>
    cases inquiry with
    | missing path => exact ih (knows_learned h path)
    | column path =>
      have knows : (pl.column schema policy path).2.Knows schema := by
        rw [column_eq h]
        exact knows_learned h path
      obtain ⟨answers, joins⟩ := ih knows
      constructor
      · change (pl.column schema policy path).1 ::
          (run schema policy rest (pl.column schema policy path).2).1 = _
        rw [answers, column_eq h]
        rfl
      · refine joins.trans ?_
        rw [column_eq h]
        change _ = (List.filterMap schema.resolve? (path :: _)).foldl _ _
        rw [List.filterMap_cons]
        cases schema.resolve? path <;> rfl

end Planner

section Plans

variable {schema : TableSchema} {policy : UnknownFields} {options : PlanOptions}
  {target : Option String}

theorem resolve?_of_column {path : String} {c : Option ResolvedColumn}
    (h : ColumnLookup.column schema.resolve policy path = .ok c) : schema.resolve? path = c := by
  unfold ColumnLookup.column TableSchema.resolve at h
  cases found : schema.resolve? path with
  | some d =>
    rw [found] at h
    cases h
    rfl
  | none =>
    rw [found] at h
    dsimp only at h
    split at h
    · cases h
      rfl
    · cases h

/-- A path without a column brings no joins, whether or not its column is asked for. -/
theorem columns_of_planned {t : Term} {pt : PlannedTerm}
    (h : t.planned schema.resolve policy = .ok pt) :
    (pt.kept?.map (·.1)).toList =
      ((t.inquiries schema.resolve).filterMap (·.column?)).filterMap schema.resolve? := by
  cases found : schema.resolve? t.field with
  | some c =>
    have answer : schema.resolve t.field = .ok c := by simp [TableSchema.resolve, found]
    rw [Term.planned_of_ok answer] at h
    obtain ⟨p, -, rfl⟩ := map_ok_iff.mp h
    unfold Term.inquiries
    split <;>
      simp [ColumnLookup.isMissing, answer, Inquiry.column?, found, PlannedTerm.kept?]
  | none =>
    have answer : schema.resolve t.field = .error (.unknownField t.field schema.table) := by
      simp [TableSchema.resolve, found]
    have nothing : pt.kept? = none := by
      rw [Term.planned_of_error answer] at h
      split at h
      · cases h
        rfl
      · obtain ⟨_, -, rfl⟩ := map_ok_iff.mp h
        rfl
    rw [nothing]
    unfold Term.inquiries
    split <;>
      simp [ColumnLookup.isMissing, answer, Inquiry.column?, found, QueryFault.isUnknownField]

theorem columns_of_terms {terms : List Term} {planned : List PlannedTerm}
    (h : terms.mapM (Term.planned schema.resolve policy) = .ok planned) :
    (planned.filterMap (·.kept?)).map (·.1) =
      ((terms.flatMap (·.inquiries schema.resolve)).filterMap (·.column?)).filterMap
        schema.resolve? := by
  have each := mapM_ok_forall₂ h
  clear h
  induction each with
  | nil => rfl
  | @cons t pt terms planned head _ ih =>
    have first := columns_of_planned head
    rw [List.flatMap_cons, List.filterMap_append, List.filterMap_append, ← first, ← ih]
    cases kept : pt.kept? <;> simp [kept]

theorem columns_of_tests {filters : List ColumnFilter}
    {tests : List (Option (ResolvedColumn × ColumnTest))}
    (h : filters.mapM (TableSchema.plannedTest schema.resolve policy) = .ok tests) :
    (tests.filterMap id).map (·.1) = (filters.map (·.field)).filterMap schema.resolve? := by
  have each := mapM_ok_forall₂ h
  clear h
  induction each with
  | nil => rfl
  | @cons f test filters tests head _ ih =>
    obtain ⟨column, found, h⟩ := bind_ok_iff.mp head
    rw [List.map_cons, List.filterMap_cons (f := schema.resolve?), resolve?_of_column found,
      ← ih]
    cases column with
    | none =>
      cases h
      rfl
    | some c =>
      obtain ⟨ready, -, h⟩ := bind_ok_iff.mp h
      cases h
      rfl

theorem columns_of_plannedSort {sort : List SortField} {sorts : List PlannedSort}
    (h : plannedSort schema.resolve policy sort = .ok sorts) :
    sorts.map (·.column) = (sort.map (·.field)).filterMap schema.resolve? := by
  induction sort generalizing sorts with
  | nil =>
    cases h
    rfl
  | cons s rest ih =>
    obtain ⟨column, found, h⟩ := bind_ok_iff.mp h
    obtain ⟨others, tail, h⟩ := bind_ok_iff.mp h
    rw [List.map_cons, List.filterMap_cons, resolve?_of_column found, ← ih tail]
    cases column <;> cases h <;> rfl

theorem column_of_targetOf {c : Option ResolvedColumn}
    (h : Completion.targetOf schema.resolve policy target = .ok c) :
    c.toList = target.toList.filterMap schema.resolve? := by
  cases target with
  | none =>
    cases h
    rfl
  | some path =>
    rw [← resolve?_of_column h]
    simp [List.filterMap_cons]
    cases schema.resolve? path <;> rfl

inductive TableSchema.Plans (schema : TableSchema) (policy : UnknownFields) :
    List Inquiry → Plan → Prop where
  | filter {settings : PlanSettings} {f : Filter} {options : PlanOptions} {target : Option String}
      {p : Plan} (unknown : settings.unknownFields = policy)
      (planned : schema.plan schema.resolve settings f options target = .ok p) :
      schema.Plans policy (f.inquiries schema.resolve target) p
  | columns {settings : PlanSettings} {filters : List ColumnFilter} {sort : List SortField}
      {target : Option String} {p : Plan} (unknown : settings.unknownFields = policy)
      (planned : schema.planColumns schema.resolve settings filters sort target = .ok p) :
      schema.Plans policy (columnInquiries filters sort target) p

theorem columns_of_completion {sort : List SortField} {c : Completion}
    (h : Completion.ofRequest schema.resolve policy options sort target = .ok c) :
    c.sorts.map (·.column) ++ c.target.toList =
      ((furtherInquiries sort target).filterMap (·.column?)).filterMap schema.resolve? := by
  obtain ⟨sorts, sorting, h⟩ := bind_ok_iff.mp h
  obtain ⟨column, aggregating, h⟩ := bind_ok_iff.mp h
  obtain ⟨conditions, -, h⟩ := bind_ok_iff.mp h
  cases h
  change sorts.map (·.column) ++ column.toList = _
  rw [columns_of_plannedSort sorting, column_of_targetOf aggregating, furtherInquiries]
  simp [List.filterMap_append, List.filterMap_map, Inquiry.column?]

/-- The joins of a plan are those of the columns that are looked up for it. -/
theorem joins_of_plans {inquiries : List Inquiry} {p : Plan}
    (h : schema.Plans policy inquiries p) :
    p.joins = joinsOf ((inquiries.filterMap (·.column?)).filterMap schema.resolve?) := by
  cases h with
  | filter unknown planned =>
    subst unknown
    obtain ⟨base, terms, c, -, settled, completed, rfl⟩ := TableSchema.plan_ok_iff.mp planned
    have first := columns_of_terms settled
    have further := columns_of_completion completed
    change joinsOf ((terms.filterMap (·.kept?)).map (·.1) ++ _ ++ _) = _
    rw [List.append_assoc, first, further, Filter.inquiries, List.filterMap_append,
      List.filterMap_append]
  | columns unknown planned =>
    subst unknown
    obtain ⟨tests, c, settled, completed, rfl⟩ := TableSchema.planColumns_ok_iff.mp planned
    have first := columns_of_tests settled
    have further := columns_of_completion completed
    change joinsOf ((tests.filterMap id).map (·.1) ++ _ ++ _) = _
    rw [List.append_assoc, first, further, columnInquiries, List.filterMap_append,
      List.filterMap_append]
    simp [List.filterMap_map, Inquiry.column?]

end Plans

variable {M : RecordModel} [DecidableEq M.Kind]

/-- Inquiries in any order, put to a cache that was used for one table only, are answered as the
table itself would. The joins then hold all that the columns need, and they are the joins of any
plan that is made of these inquiries. -/
theorem joins_lose_nothing (schema : TableSchema) (policy : UnknownFields) (earlier : List String)
    (inquiries : List Inquiry) :
    let start : Planner M := { cache := ({} : ResolutionCache M).learnAll (.table schema) earlier }
    let paths := inquiries.filterMap (·.column?)
    let (columns, planner) := start.run schema policy inquiries
    columns = paths.map (ColumnLookup.column schema.resolve policy) ∧
      JoinsServe schema.table planner.joins (paths.filterMap schema.resolve?) ∧
      ∀ p, schema.Plans policy inquiries p → p.joins = planner.joins := by
  intro start paths
  have knows : start.Knows schema := Planner.knows_learnAll schema earlier
  obtain ⟨columns, joins⟩ := Planner.run_eq knows policy inquiries
  have ways : ∀ c ∈ paths.filterMap schema.resolve?, schema.Leads schema.table true c.joins ∧
      (c.source = schema.table ∨ c.source ∈ c.joins.map (·.label)) := by
    intro c mem
    obtain ⟨path, -, found⟩ := List.mem_filterMap.mp mem
    exact TableSchema.leads_of_resolve found
  obtain ⟨grown, -, chains⟩ := TableSchema.Grown.none.addColumns fun c mem => (ways c mem).1
  refine ⟨columns, ?_, ?_⟩
  · rw [joins]
    refine ⟨grown.labels_nodup, fun before j after split => grown.parent split, ?_, chains⟩
    intro c mem
    rcases (ways c mem).2 with base | joined
    · exact .inl base
    · exact .inr (((chains c mem).map _).subset joined)
  · intro p plans
    rw [joins]
    exact joins_of_plans plans

namespace Sample

def readers : TableSchema :=
  let towns : TableSchema := ⟨"towns", [⟨"name", .text, false⟩], [], some "id", none, none⟩
  let libraries : TableSchema :=
    ⟨"libraries", [⟨"name", .text, false⟩], [⟨"Town", "town_id", "id", towns⟩], some "id", none,
      none⟩
  ⟨"readers", [⟨"name", .text, false⟩], [⟨"Library", "library_id", "id", libraries⟩], some "id",
    none, none⟩

/-- Asks for a town before its library, and for a field that is not there. -/
def byTown : Filter := { sort := [⟨"library.town.name", .asc⟩, ⟨"library.street", .asc⟩] }

end Sample

open Sample in
theorem joins_lose_nothing_readers :
    ∃ p, readers.plan readers.resolve {} byTown {} (some "library.name") = .ok p ∧
      readers.Plans .skip (byTown.inquiries readers.resolve (some "library.name")) p ∧
      p.joins.map (·.label) = ["Library", "Library__Town"] ∧
      ∃ c, readers.resolve? "library.town.name" = some c ∧ c.joins.Sublist p.joins := by
  have made : ((readers.plan readers.resolve {} byTown {} (some "library.name")).toOption.map
      fun p => p.joins.map (·.label)) = some ["Library", "Library__Town"] := by decide +kernel
  have found : (readers.resolve? "library.town.name").isSome = true := by decide +kernel
  obtain ⟨c, found⟩ := Option.isSome_iff_exists.mp found
  cases planned : readers.plan readers.resolve {} byTown {} (some "library.name") with
  | error fault =>
    rw [planned] at made
    cases made
  | ok p =>
    rw [planned] at made
    have plans : readers.Plans .skip (byTown.inquiries readers.resolve (some "library.name")) p :=
      .filter rfl planned
    obtain ⟨-, serve, same⟩ := joins_lose_nothing (M := shelf) readers .skip []
      (byTown.inquiries readers.resolve (some "library.name"))
    refine ⟨p, rfl, plans, Option.some.inj made, c, found, ?_⟩
    rw [same p plans]
    exact serve.chains c (List.mem_filterMap.mpr ⟨_, by decide +kernel, found⟩)

end FieldQuery

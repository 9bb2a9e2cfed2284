import FieldQuery.Proofs.Answers
import FieldQuery.Statement.Planning

/-!
# Parts of a plan

Planning settles the base, then the terms, then everything else. What comes after the terms does not
depend on them, so a plan is put together from a settled group of tests and a completion that is
worked out apart. Main statements: `plan_ok_iff` and `planColumns_ok_iff`.
-/
namespace FieldQuery

/-- What a request asks for beyond its terms. -/
structure Completion where
  sorts : List PlannedSort
  target : Option ResolvedColumn
  conditions : List Fragment

namespace Completion

/-- The column of an aggregate, if one is asked for and may not be left out. -/
def targetOf (lookup : ColumnLookup) (policy : UnknownFields) :
    Option String → Answer (Option ResolvedColumn)
  | none => .ok none
  | some path => lookup.column policy path

def ofRequest (lookup : ColumnLookup) (policy : UnknownFields) (options : PlanOptions)
    (sort : List SortField) (target : Option String) : Answer Completion := do
  let sorts ← plannedSort lookup policy sort
  let target ← targetOf lookup policy target
  let conditions ← options.conditions.mapM RawQuery.fragment
  .ok ⟨sorts, target, conditions⟩

def plan (c : Completion) (schema : TableSchema) (settings : PlanSettings) (options : PlanOptions)
    (settled : TableSchema.Settled) : Plan where
  table := schema.table
  dialect := settings.dialect
  base := settled.base
  joins := joinsOf (settled.columns ++ c.sorts.map (·.column) ++ c.target.toList)
  hidesDeleted := !options.unscoped
  conjuncts := schema.conjuncts options settled.logic settled.tests c.conditions
  order := schema.orderTerms c.sorts
  target := c.target.map (·.toColumnRef)

end Completion

variable {schema : TableSchema} {lookup : ColumnLookup} {settings : PlanSettings}
  {options : PlanOptions} {target : Option String}

theorem TableSchema.complete_eq (settled : TableSchema.Settled) (sort : List SortField) :
    schema.complete lookup settings options settled sort target =
      (Completion.ofRequest lookup settings.unknownFields options sort target).map
        (·.plan schema settings options settled) := by
  unfold TableSchema.complete Completion.ofRequest
  cases plannedSort lookup settings.unknownFields sort with
  | error fault => rfl
  | ok sorts =>
    cases target with
    | none => cases options.conditions.mapM RawQuery.fragment <;> rfl
    | some path =>
      change (lookup.column settings.unknownFields path >>= _) = Except.map _ (_ >>= _)
      change _ = Except.map _ (lookup.column settings.unknownFields path >>= _)
      cases lookup.column settings.unknownFields path with
      | error fault => rfl
      | ok column => cases options.conditions.mapM RawQuery.fragment <;> rfl

section Terms

variable {policy : UnknownFields} {t : Term}

theorem Term.planned_of_ok {c : ResolvedColumn} (found : lookup t.field = .ok c) :
    t.planned lookup policy = t.predicate.map (.kept c) := by
  have there : lookup.isMissing t.field = false := by simp [ColumnLookup.isMissing, found]
  have column : lookup.column policy t.field = .ok (some c) := by
    simp [ColumnLookup.column, found]
  unfold Term.planned
  rw [there, column, Bool.and_false]
  cases t.predicate <;> rfl

/-- Where a field is not found, the value of the term plays no part. -/
theorem Term.planned_of_error {fault : QueryFault} (lost : lookup t.field = .error fault) :
    t.planned lookup policy =
      if t.mode = .isEmpty ∧ fault.isUnknownField = true then .ok .vacuous
      else (lookup.column policy t.field).map fun _ => .leftOut := by
  have missing : lookup.isMissing t.field = fault.isUnknownField := by
    simp [ColumnLookup.isMissing, lost]
  have column : lookup.column policy t.field =
      if fault.isUnknownField && policy == .skip then .ok none else .error fault := by
    simp [ColumnLookup.column, lost]
  unfold Term.planned
  rw [missing, column]
  by_cases vacuous : t.mode = .isEmpty ∧ fault.isUnknownField = true
  · rw [if_pos vacuous, if_pos (by simpa using vacuous)]
  · rw [if_neg vacuous, if_neg (by simpa using vacuous)]
    split <;> rfl

end Terms

/-- Faults of a request that have nothing to do with the values of its terms. -/
inductive RequestFault (lookup : ColumnLookup) (policy : UnknownFields) (options : PlanOptions)
    (paths : List String) : QueryFault → Prop where
  | raw {q : RawQuery} {fault : QueryFault} (mem : q ∈ options.base.toList ++ options.conditions)
      (refused : q.fragment = .error fault) : RequestFault lookup policy options paths fault
  | path {path : String} {fault : QueryFault} (mem : path ∈ paths)
      (refused : lookup.column policy path = .error fault) :
      RequestFault lookup policy options paths fault

theorem RequestFault.mono {policy : UnknownFields} {paths more : List String} {fault : QueryFault}
    (h : RequestFault lookup policy options paths fault) (sub : ∀ path ∈ paths, path ∈ more) :
    RequestFault lookup policy options more fault := by
  cases h with
  | raw mem refused => exact .raw mem refused
  | path mem refused => exact .path (sub _ mem) refused

theorem plannedSort_error {policy : UnknownFields} {sort : List SortField} {fault : QueryFault}
    (h : plannedSort lookup policy sort = .error fault) :
    ∃ s ∈ sort, lookup.column policy s.field = .error fault := by
  induction sort with
  | nil => cases h
  | cons s rest ih =>
    rcases bind_error_iff.mp h with now | ⟨column, -, h⟩
    · exact ⟨s, List.mem_cons_self, now⟩
    · rcases bind_error_iff.mp h with later | ⟨sorts, -, h⟩
      · obtain ⟨s, mem, refused⟩ := ih later
        exact ⟨s, List.mem_cons_of_mem _ mem, refused⟩
      · cases column <;> cases h

theorem base_error {fault : QueryFault}
    (h : options.base.mapM RawQuery.fragment = .error fault) :
    ∃ q ∈ options.base.toList ++ options.conditions, q.fragment = .error fault := by
  cases hb : options.base with
  | none =>
    rw [hb] at h
    cases h
  | some q =>
    rw [hb] at h
    have mapped : some <$> q.fragment = .error fault := h
    cases hq : q.fragment with
    | error other =>
      rw [hq] at mapped
      cases mapped
      exact ⟨q, List.mem_cons_self, hq⟩
    | ok f =>
      rw [hq] at mapped
      cases mapped

theorem Completion.ofRequest_error {policy : UnknownFields} {sort : List SortField}
    {fault : QueryFault}
    (h : Completion.ofRequest lookup policy options sort target = .error fault) :
    RequestFault lookup policy options (sort.map (·.field) ++ target.toList) fault := by
  rcases bind_error_iff.mp h with sorting | ⟨sorts, -, h⟩
  · obtain ⟨s, mem, refused⟩ := plannedSort_error sorting
    exact .path (List.mem_append_left _ (List.mem_map_of_mem mem)) refused
  rcases bind_error_iff.mp h with aggregating | ⟨column, -, h⟩
  · cases target with
    | none => cases aggregating
    | some path =>
      exact .path (List.mem_append_right _ (List.mem_singleton_self path)) aggregating
  rcases bind_error_iff.mp h with limiting | ⟨conditions, -, h⟩
  · obtain ⟨q, mem, refused⟩ := mapM_error limiting
    exact .raw (List.mem_append_right _ mem) refused
  · cases h

def TableSchema.Settled.ofTerms (base : Option Fragment) (dialect : Dialect) (logic : Logic)
    (terms : List PlannedTerm) : TableSchema.Settled :=
  ⟨base, (terms.filterMap (·.kept?)).map (·.1), logic,
    (restricting logic terms).map fun (c, p) => .predicate (p.test dialect c.qualified)⟩

def TableSchema.Settled.ofTests (tests : List (Option (ResolvedColumn × ColumnTest))) :
    TableSchema.Settled :=
  ⟨none, (tests.filterMap id).map (·.1), .and,
    (tests.filterMap id).map fun (c, t) => .column c.toColumnRef t⟩

theorem TableSchema.plan_eq (f : Filter) :
    schema.plan lookup settings f options target = (do
      let base ← options.base.mapM RawQuery.fragment
      let terms ← f.terms.mapM (Term.planned lookup settings.unknownFields)
      (Completion.ofRequest lookup settings.unknownFields options f.sort target).map
        (·.plan schema settings options (.ofTerms base settings.dialect f.logic terms))) := by
  unfold TableSchema.plan
  simp only [complete_eq]
  rfl

theorem TableSchema.planColumns_eq (filters : List ColumnFilter) (sort : List SortField) :
    schema.planColumns lookup settings filters sort target = (do
      let tests ← filters.mapM (plannedTest lookup settings.unknownFields)
      (Completion.ofRequest lookup settings.unknownFields {} sort target).map
        (·.plan schema settings {} (.ofTests tests))) := by
  unfold TableSchema.planColumns
  simp only [complete_eq]
  rfl

theorem TableSchema.plan_ok_iff {f : Filter} {p : Plan} :
    schema.plan lookup settings f options target = .ok p ↔ ∃ base terms c,
      options.base.mapM RawQuery.fragment = .ok base ∧
      f.terms.mapM (Term.planned lookup settings.unknownFields) = .ok terms ∧
      Completion.ofRequest lookup settings.unknownFields options f.sort target = .ok c ∧
      p = c.plan schema settings options (.ofTerms base settings.dialect f.logic terms) := by
  rw [plan_eq]
  constructor
  · intro h
    obtain ⟨base, hb, h⟩ := bind_ok_iff.mp h
    obtain ⟨terms, ht, h⟩ := bind_ok_iff.mp h
    obtain ⟨c, hc, h⟩ := map_ok_iff.mp h
    exact ⟨base, terms, c, hb, ht, hc, h.symm⟩
  · rintro ⟨base, terms, c, hb, ht, hc, rfl⟩
    rw [hb, ht, hc]
    rfl

theorem TableSchema.planColumns_ok_iff {filters : List ColumnFilter} {sort : List SortField}
    {p : Plan} :
    schema.planColumns lookup settings filters sort target = .ok p ↔ ∃ tests c,
      filters.mapM (plannedTest lookup settings.unknownFields) = .ok tests ∧
      Completion.ofRequest lookup settings.unknownFields {} sort target = .ok c ∧
      p = c.plan schema settings {} (.ofTests tests) := by
  rw [planColumns_eq]
  constructor
  · intro h
    obtain ⟨tests, ht, h⟩ := bind_ok_iff.mp h
    obtain ⟨c, hc, h⟩ := map_ok_iff.mp h
    exact ⟨tests, c, ht, hc, h.symm⟩
  · rintro ⟨tests, c, ht, hc, rfl⟩
    rw [ht, hc]
    rfl

/-- A small table, for instances of statements on plans. -/
def Sample.books : TableSchema :=
  ⟨"books", [⟨"title", .text, false⟩, ⟨"pages", .integer, false⟩], [], some "id", none, none⟩

end FieldQuery

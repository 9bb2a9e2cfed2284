import FieldQuery.Proofs.Planning
import FieldQuery.Record.Selection

/-!
# Rows and records

One filter can be put to a table and to records in memory. Where the same paths lead somewhere in
both, the plan and the selection come to the same: they fail at the same term, or leave everything
in, or keep the same predicates. Main statement: `plan_agrees_with_selection`.
-/
namespace FieldQuery

/-- Faults of one kind. Where a path leads nowhere, the sources it was sought in may differ. -/
inductive QueryFault.Alike : QueryFault → QueryFault → Prop where
  | unknownField (path scope other : String) :
      Alike (.unknownField path scope) (.unknownField path other)
  | same (fault : QueryFault) : Alike fault fault

variable {R : Type}

/-- A term that restricts rows and records. -/
structure KeptTerm (R : Type) where
  column : ResolvedColumn
  field : FieldDescriptor R
  predicate : Predicate

/-- What a term comes to, for a table and a record type at once. -/
inductive Standing (R : Type) where
  | vacuous
  | leftOut
  | kept (t : KeptTerm R)

namespace Standing

def planned : Standing R → PlannedTerm
  | vacuous => .vacuous
  | leftOut => .leftOut
  | kept t => .kept t.column t.predicate

def check : Standing R → Option (Check R)
  | vacuous => some .always
  | leftOut => none
  | kept t => some (.test t.field t.predicate)

def kept? : Standing R → Option (KeptTerm R)
  | vacuous | leftOut => none
  | kept t => some t

/-- Whether terms leave everything in: none restricts, or a disjunction has one that always
holds. -/
def LeaveAll (logic : Logic) (standings : List (Standing R)) : Prop :=
  standings.filterMap kept? = [] ∨ logic = .or ∧ vacuous ∈ standings

end Standing

def Check.test? : Check R → Option (FieldDescriptor R × Predicate)
  | .always => none
  | .test field predicate => some (field, predicate)

/-- A path that leads to nothing in a source. -/
def LeadsNowhere {α : Type} (lookup : String → Answer α) (path : String) : Prop :=
  ∃ scope, lookup path = .error (.unknownField path scope)

inductive Stands (columns : ColumnLookup) (fields : FieldLookup R) (policy : UnknownFields) :
    Term → Standing R → Prop where
  | vacuous {t : Term} (asks : t.mode = .isEmpty) (noColumn : LeadsNowhere columns t.field)
      (noField : LeadsNowhere fields t.field) : Stands columns fields policy t .vacuous
  | leftOut {t : Term} (asks : t.mode ≠ .isEmpty) (skips : policy = .skip)
      (noColumn : LeadsNowhere columns t.field) (noField : LeadsNowhere fields t.field) :
      Stands columns fields policy t .leftOut
  | kept {t : Term} {k : KeptTerm R} (column : columns t.field = .ok k.column)
      (field : fields t.field = .ok k.field) (predicate : t.predicate = .ok k.predicate) :
      Stands columns fields policy t (.kept k)

theorem TableSchema.resolve_cases (schema : TableSchema) (path : String) :
    (∃ c, schema.resolve path = .ok c) ∨ LeadsNowhere schema.resolve path := by
  unfold LeadsNowhere TableSchema.resolve
  cases schema.resolve? path with
  | some c => exact .inl ⟨c, rfl⟩
  | none => exact .inr ⟨schema.table, rfl⟩

theorem RecordModel.locate_cases (M : RecordModel) (k : M.Kind) (path : String) :
    (∃ d, M.locate k path = .ok d) ∨ LeadsNowhere (M.locate k) path := by
  unfold LeadsNowhere RecordModel.locate
  cases M.find ((Text.pieces '.' path.toList).map String.ofList) k with
  | some d => exact .inl ⟨d, rfl⟩
  | none => exact .inr ⟨M.title k, rfl⟩

section Terms

variable {columns : ColumnLookup} {fields : FieldLookup R} {policy : UnknownFields} {t : Term}

theorem Term.planned_of_nowhere (lost : LeadsNowhere columns t.field) :
    t.planned columns policy =
      if t.mode = .isEmpty then .ok .vacuous
      else if policy = .skip then .ok .leftOut else columns t.field |>.map fun _ => .leftOut := by
  obtain ⟨scope, h⟩ := lost
  rw [planned_of_error h, ColumnLookup.column, h]
  by_cases asks : t.mode = .isEmpty
  · rw [if_pos ⟨asks, rfl⟩, if_pos asks]
  · rw [if_neg fun both => asks both.1, if_neg asks]
    cases policy <;> rfl

theorem Term.check_of_ok {d : FieldDescriptor R} (found : fields t.field = .ok d) :
    t.check fields policy = t.predicate.map fun p => some (.test d p) := by
  unfold Term.check
  rw [found]
  cases t.predicate <;> rfl

theorem Term.check_of_nowhere (lost : LeadsNowhere fields t.field) :
    t.check fields policy =
      if t.mode = .isEmpty then .ok (some .always)
      else if policy = .skip then .ok none else fields t.field |>.map fun _ => none := by
  obtain ⟨scope, h⟩ := lost
  unfold Term.check
  rw [h]
  by_cases asks : t.mode = .isEmpty
  · simp [asks, QueryFault.isUnknownField]
  · cases policy <;> simp [asks, QueryFault.isUnknownField, Except.map]

/-- A term that leads to the same on both sides comes to the same, or fails alike. -/
theorem Term.stands_or_fails (policy : UnknownFields)
    (both : (∃ c d, columns t.field = .ok c ∧ fields t.field = .ok d) ∨
      LeadsNowhere columns t.field ∧ LeadsNowhere fields t.field) :
    (∃ s, Stands columns fields policy t s ∧ t.planned columns policy = .ok s.planned ∧
      t.check fields policy = .ok s.check) ∨
    (∃ first second, QueryFault.Alike first second ∧ t.planned columns policy = .error first ∧
      t.check fields policy = .error second) := by
  rcases both with ⟨c, d, hc, hd⟩ | ⟨noColumn, noField⟩
  · rw [planned_of_ok hc, check_of_ok hd]
    cases hp : t.predicate with
    | ok p => exact .inl ⟨.kept ⟨c, d, p⟩, .kept hc hd hp, rfl, rfl⟩
    | error fault => exact .inr ⟨fault, fault, .same fault, rfl, rfl⟩
  · rw [planned_of_nowhere noColumn, check_of_nowhere noField]
    by_cases asks : t.mode = .isEmpty
    · rw [if_pos asks, if_pos asks]
      exact .inl ⟨.vacuous, .vacuous asks noColumn noField, rfl, rfl⟩
    · rw [if_neg asks, if_neg asks]
      by_cases skips : policy = .skip
      · rw [if_pos skips, if_pos skips]
        exact .inl ⟨.leftOut, .leftOut asks skips noColumn noField, rfl, rfl⟩
      · rw [if_neg skips, if_neg skips]
        obtain ⟨scope, hc⟩ := noColumn
        obtain ⟨other, hd⟩ := noField
        rw [hc, hd]
        exact .inr ⟨_, _, .unknownField t.field scope other, rfl, rfl⟩

end Terms

namespace Standing

theorem kept?_planned (s : Standing R) :
    s.planned.kept? = s.kept?.map fun t => (t.column, t.predicate) := by
  cases s <;> rfl

theorem test?_check (s : Standing R) :
    s.check.bind Check.test? = s.kept?.map fun t => (t.field, t.predicate) := by
  cases s <;> rfl

theorem filterMap_kept?_planned (standings : List (Standing R)) :
    (standings.map planned).filterMap (·.kept?) =
      (standings.filterMap kept?).map fun t => (t.column, t.predicate) := by
  rw [List.filterMap_map, List.map_filterMap]
  exact congrArg (List.filterMap · standings) (funext kept?_planned)

theorem filterMap_test?_check (standings : List (Standing R)) :
    ((standings.map check).filterMap id).filterMap Check.test? =
      (standings.filterMap kept?).map fun t => (t.field, t.predicate) := by
  rw [List.filterMap_filterMap, List.filterMap_map, List.map_filterMap]
  exact congrArg (List.filterMap · standings) (funext test?_check)

theorem mem_checks_iff (standings : List (Standing R)) (c : Check R) :
    c ∈ (standings.map check).filterMap id ↔ ∃ s ∈ standings, s.check = some c := by
  simp

theorem any_isVacuous_planned (standings : List (Standing R)) :
    (standings.map planned).any (·.isVacuous) = true ↔ vacuous ∈ standings := by
  rw [List.any_map, List.any_eq_true]
  constructor
  · rintro ⟨s, hs, h⟩
    cases s with
    | vacuous => exact hs
    | leftOut => exact absurd h (by simp [planned, PlannedTerm.isVacuous])
    | kept t => exact absurd h (by simp [planned, PlannedTerm.isVacuous])
  · exact fun h => ⟨vacuous, h, rfl⟩

theorem any_isAlways_check (standings : List (Standing R)) :
    ((standings.map check).filterMap id).any (·.isAlways) = true ↔ vacuous ∈ standings := by
  rw [List.any_eq_true]
  constructor
  · rintro ⟨c, hc, h⟩
    obtain ⟨s, hs, eq⟩ := (mem_checks_iff standings c).mp hc
    cases s with
    | vacuous => exact hs
    | leftOut => cases eq
    | kept t =>
      cases eq
      cases h
  · exact fun h => ⟨.always, (mem_checks_iff standings _).mpr ⟨vacuous, h, rfl⟩, rfl⟩

theorem all_isAlways_check (standings : List (Standing R)) :
    ((standings.map check).filterMap id).all (·.isAlways) = true ↔
      standings.filterMap kept? = [] := by
  rw [List.all_eq_true, List.filterMap_eq_nil_iff]
  constructor
  · intro h s hs
    cases s with
    | vacuous => rfl
    | leftOut => rfl
    | kept t => cases h _ ((mem_checks_iff standings _).mpr ⟨_, hs, rfl⟩)
  · intro h c hc
    obtain ⟨s, hs, eq⟩ := (mem_checks_iff standings c).mp hc
    cases s with
    | vacuous =>
      cases eq
      rfl
    | leftOut => cases eq
    | kept t => cases h _ hs

theorem checks_eq_nil_iff (standings : List (Standing R)) :
    (standings.map check).filterMap id = [] ↔
      standings.filterMap kept? = [] ∧ vacuous ∉ standings := by
  rw [List.filterMap_map, List.filterMap_eq_nil_iff, List.filterMap_eq_nil_iff]
  constructor
  · intro h
    refine ⟨fun s hs => ?_, fun hv => by cases h _ hv⟩
    cases s with
    | vacuous => rfl
    | leftOut => rfl
    | kept t => cases h _ hs
  · rintro ⟨none, clear⟩ s hs
    cases s with
    | vacuous => exact absurd hs clear
    | leftOut => rfl
    | kept t => cases none _ hs

/-- If everything is left in, no term restricts rows. -/
theorem restricting_of_leaveAll {logic : Logic} {standings : List (Standing R)}
    (h : LeaveAll logic standings) : restricting logic (standings.map planned) = [] := by
  unfold restricting
  split
  · rfl
  · rename_i clear
    rw [filterMap_kept?_planned]
    rcases h with none | ⟨rfl, hv⟩
    · rw [none]
      rfl
    · rw [(any_isVacuous_planned standings).mpr hv] at clear
      exact absurd rfl clear

/-- Otherwise the kept terms do. -/
theorem restricting_of_not_leaveAll {logic : Logic} {standings : List (Standing R)}
    (h : ¬ LeaveAll logic standings) :
    restricting logic (standings.map planned) =
      (standings.filterMap kept?).map fun t => (t.column, t.predicate) := by
  unfold restricting
  split
  · rename_i cleared
    rw [Bool.and_eq_true, beq_iff_eq] at cleared
    exact absurd (.inr ⟨cleared.1, (any_isVacuous_planned standings).mp cleared.2⟩) h
  · exact filterMap_kept?_planned standings

/-- A selection of these terms lets every record pass exactly if everything is left in. -/
theorem isTrivial_check (logic : Logic) (standings : List (Standing R)) :
    (Selection.mk ((standings.map check).filterMap id) logic).isTrivial = true ↔
      LeaveAll logic standings := by
  unfold Selection.isTrivial LeaveAll
  cases logic with
  | and => simp only [all_isAlways_check, reduceCtorEq, false_and, or_false]
  | or =>
    simp only [Bool.or_eq_true, List.isEmpty_iff, any_isAlways_check, checks_eq_nil_iff, true_and]
    by_cases hv : vacuous ∈ standings
    · simp only [hv, or_true]
    · simp only [hv, not_false_eq_true, and_true]

end Standing

/-- A selection runs through the kept terms alone: under a conjunction what always holds changes
nothing. -/
theorem Standing.decide_check {logic : Logic} {standings : List (Standing R)}
    (h : logic = .and ∨ vacuous ∉ standings) (r : R) :
    Selection.decide logic r ((standings.map check).filterMap id) =
      Selection.decide logic r ((standings.filterMap kept?).map fun t =>
        .test t.field t.predicate) := by
  induction standings with
  | nil => rfl
  | cons s rest ih =>
    have tail := ih (h.imp_right fun clear hv => clear (List.mem_cons_of_mem s hv))
    cases s with
    | vacuous =>
      rcases h with rfl | clear
      · exact tail
      · exact absurd List.mem_cons_self clear
    | leftOut => exact tail
    | kept t =>
      change Selection.decide logic r
          (.test t.field t.predicate :: (rest.map check).filterMap id) =
        Selection.decide logic r (.test t.field t.predicate ::
          (rest.filterMap kept?).map fun t => .test t.field t.predicate)
      rw [Selection.decide, Selection.decide, tail]

/-- A plan and a selection that leave everything in, or keep the same predicates in the same order
under the same logic. -/
structure SameReduction (dialect : Dialect) (logic : Logic) (standings : List (Standing R))
    (p : Plan) (s : Selection R) : Prop where
  sameLogic : s.logic = logic
  all : Standing.LeaveAll logic standings → p.conjuncts = [] ∧ s.isTrivial = true
  kept : ¬ Standing.LeaveAll logic standings → s.isTrivial = false ∧
    p.conjuncts = [.group logic ((standings.filterMap Standing.kept?).map fun t =>
      .predicate (t.predicate.test dialect t.column.qualified))] ∧
    s.checks.filterMap Check.test? =
      (standings.filterMap Standing.kept?).map (fun t => (t.field, t.predicate)) ∧
    ∀ r, s.accepts r = Selection.decide logic r
      ((standings.filterMap Standing.kept?).map fun t => .test t.field t.predicate)

/-- How the plan and the selection of a filter go together: they fail at the same term with faults
of one kind, or every term comes to the same on both sides and so does the whole. -/
inductive GoTogether (columns : ColumnLookup) (fields : FieldLookup R) (settings : PlanSettings)
    (f : Filter) : Answer Plan → Answer (Selection R) → Prop where
  | failing {first second : QueryFault}
      (place : FailTogether (Term.planned columns settings.unknownFields)
        (Term.check fields settings.unknownFields) QueryFault.Alike f.terms first second) :
      GoTogether columns fields settings f (.error first) (.error second)
  | working {standings : List (Standing R)} {p : Plan} {s : Selection R}
      (stands : List.Forall₂ (Stands columns fields settings.unknownFields) f.terms standings)
      (same : SameReduction settings.dialect f.logic standings p s) :
      GoTogether columns fields settings f (.ok p) (.ok s)

/-- Without sort fields, target and raw queries, only terms can fail, and no conjunct but the group
of the filter is there. -/
theorem TableSchema.plan_unscoped (schema : TableSchema) (lookup : ColumnLookup)
    (settings : PlanSettings) {f : Filter} (unsorted : f.sort = []) :
    (∀ fault, f.terms.mapM (Term.planned lookup settings.unknownFields) = .error fault →
      schema.plan lookup settings f { unscoped := true } none = .error fault) ∧
    (∀ terms, f.terms.mapM (Term.planned lookup settings.unknownFields) = .ok terms →
      ∃ p, schema.plan lookup settings f { unscoped := true } none = .ok p ∧
        p.conjuncts = schema.conjuncts { unscoped := true } f.logic
          ((restricting f.logic terms).map fun (c, p) =>
            .predicate (p.test settings.dialect c.qualified)) []) := by
  constructor
  · intro fault h
    unfold TableSchema.plan
    rw [h]
    rfl
  · intro terms h
    unfold TableSchema.plan
    rw [h, unsorted]
    exact ⟨_, rfl, rfl⟩

theorem Selection.ofFilter_ok {lookup : FieldLookup R} {policy : UnknownFields} {f : Filter}
    {checks : List (Option (Check R))} (h : f.terms.mapM (Term.check lookup policy) = .ok checks) :
    Selection.ofFilter lookup policy f = .ok ⟨checks.filterMap id, f.logic⟩ := by
  unfold Selection.ofFilter
  rw [h]
  rfl

theorem Selection.ofFilter_error {lookup : FieldLookup R} {policy : UnknownFields} {f : Filter}
    {fault : QueryFault} (h : f.terms.mapM (Term.check lookup policy) = .error fault) :
    Selection.ofFilter lookup policy f = .error fault := by
  unfold Selection.ofFilter
  rw [h]
  rfl

theorem TableSchema.conjuncts_unscoped (schema : TableSchema) (logic : Logic)
    (tests : List RowTest) :
    schema.conjuncts { unscoped := true } logic tests [] =
      if tests.isEmpty then [] else [.group logic tests] := by
  unfold TableSchema.conjuncts
  split <;> simp

theorem SameReduction.of_standings {settings : PlanSettings} {schema : TableSchema} {f : Filter}
    {standings : List (Standing R)} {p : Plan}
    (conjuncts : p.conjuncts = schema.conjuncts { unscoped := true } f.logic
      ((restricting f.logic (standings.map Standing.planned)).map fun (c, p) =>
        .predicate (p.test settings.dialect c.qualified)) []) :
    SameReduction settings.dialect f.logic standings p
      ⟨(standings.map Standing.check).filterMap id, f.logic⟩ := by
  rw [schema.conjuncts_unscoped] at conjuncts
  refine ⟨rfl, ?_, ?_⟩
  · intro all
    rw [conjuncts, Standing.restricting_of_leaveAll all]
    exact ⟨rfl, (Standing.isTrivial_check f.logic standings).mpr all⟩
  · intro some
    have there : standings.filterMap Standing.kept? ≠ [] := fun none => some (.inl none)
    have clear : f.logic = .and ∨ .vacuous ∉ standings := by
      cases hl : f.logic with
      | and => exact .inl rfl
      | or => exact .inr fun hv => some (.inr ⟨hl, hv⟩)
    refine ⟨?_, ?_, Standing.filterMap_test?_check standings, ?_⟩
    · exact Bool.eq_false_iff.mpr fun h => some ((Standing.isTrivial_check _ _).mp h)
    · rw [conjuncts, Standing.restricting_of_not_leaveAll some, if_neg (by simpa using there),
        List.map_map]
      rfl
    · intro r
      have checks : (standings.map Standing.check).filterMap id ≠ [] := fun none =>
        there ((Standing.checks_eq_nil_iff standings).mp none).1
      unfold Selection.accepts
      rw [if_neg (by simpa using checks)]
      exact Standing.decide_check clear r

/-- A filter restricts rows and records alike, if the same of its paths lead somewhere. -/
theorem plan_agrees_with_selection (schema : TableSchema) (M : RecordModel) (k : M.Kind)
    (settings : PlanSettings) (f : Filter) (unsorted : f.sort = [])
    (samePaths : ∀ t ∈ f.terms, (schema.resolve t.field).isOk = (M.locate k t.field).isOk) :
    GoTogether schema.resolve (M.locate k) settings f
      (schema.plan schema.resolve settings f { unscoped := true } none)
      (Selection.ofFilter (M.locate k) settings.unknownFields f) := by
  have each : ∀ t ∈ f.terms,
      (∃ s, Stands schema.resolve (M.locate k) settings.unknownFields t s ∧
        t.planned schema.resolve settings.unknownFields = .ok s.planned ∧
        t.check (M.locate k) settings.unknownFields = .ok s.check) ∨
      (∃ first second, QueryFault.Alike first second ∧
        t.planned schema.resolve settings.unknownFields = .error first ∧
        t.check (M.locate k) settings.unknownFields = .error second) := by
    intro t ht
    refine Term.stands_or_fails settings.unknownFields ?_
    have same := samePaths t ht
    rcases schema.resolve_cases t.field with ⟨c, hc⟩ | ⟨scope, hc⟩ <;>
      rcases M.locate_cases k t.field with ⟨d, hd⟩ | ⟨other, hd⟩
    · exact .inl ⟨c, d, hc, hd⟩
    · rw [hc, hd] at same
      cases same
    · rw [hc, hd] at same
      cases same
    · exact .inr ⟨⟨scope, hc⟩, other, hd⟩
  obtain ⟨fails, works⟩ := schema.plan_unscoped schema.resolve settings unsorted
  rcases mapM_together each with ⟨standings, stands, rows, records⟩ |
    ⟨first, second, place, rows, records⟩
  · obtain ⟨p, hp, conjuncts⟩ := works _ rows
    rw [hp, Selection.ofFilter_ok records]
    exact .working stands (.of_standings conjuncts)
  · rw [fails first rows, Selection.ofFilter_error records]
    exact .failing place

namespace Sample

def shelf : RecordModel where
  Kind := Unit
  Item _ := String × Int
  title _ := "Book"
  entries _ := [.field "title" none .text false fun b => .text b.1,
    .field "pages" none .integer false fun b => .int b.2]

instance : DecidableEq shelf.Kind := inferInstanceAs (DecidableEq Unit)

/-- Two terms that are kept, one that always holds and one that is left out. -/
def longBooks : Filter :=
  { terms := [⟨"pages", .num (.int 100), .gte, none⟩, ⟨"pages.last", .null, .isEmpty, none⟩,
      ⟨"title.short", .str "b", .equal, some .text⟩, ⟨"title", .str "a", .contains, some .text⟩] }

end Sample

open Sample in
theorem plan_agrees_with_selection_longBooks :
    longBooks.sort = [] ∧
    (∀ t ∈ longBooks.terms, (books.resolve t.field).isOk = (shelf.locate () t.field).isOk) ∧
    GoTogether books.resolve (shelf.locate ()) {} longBooks
      (books.plan books.resolve {} longBooks { unscoped := true } none)
      (Selection.ofFilter (shelf.locate ()) .skip longBooks) :=
  ⟨rfl, by decide, plan_agrees_with_selection books shelf () {} longBooks rfl (by decide)⟩

end FieldQuery

import FieldQuery.Proofs.Bindings

/-!
# Placeholders and values

All statements of a plan share one list of values. Each of them is woven of quiet texts and of the
same parts in the same order: the base, the tests of the filter and the conditions of the caller.
Hence a placeholder stands in the part that binds its value. Main statement: `placeholders_line_up`.
-/
namespace FieldQuery

open Fragment

variable {d : Dialect}

namespace Conjunct

def parts (d : Dialect) : Conjunct → List Fragment
  | group _ tests => tests.map (·.fragment d)
  | notDeleted _ => []
  | raw f => [f]

theorem woven (c : Conjunct) (counts : ∀ f ∈ c.parts d, Counts d f) :
    Woven d (c.fragment d) (c.parts d) := by
  cases c with
  | notDeleted mark => exact .text (mark.quiet_qualified.append (by decide)) .nil
  | raw f => exact (Woven.single (counts f List.mem_cons_self)).enclosed
  | group logic tests =>
    have each : ∀ t ∈ tests, Woven d (t.fragment d) [t.fragment d] := fun t ht =>
      .single (counts _ (List.mem_map_of_mem ht))
    rw [parts, List.map_eq_flatMap]
    cases tests with
    | nil =>
      cases logic with
      | and => exact .nil
      | or => exact Woven.nil.enclosed
    | cons t rest =>
      cases rest with
      | nil => cases logic <;> exact each t List.mem_cons_self
      | cons u rest =>
        cases logic with
        | and => exact .join (by decide) (by decide) fun t ht => (each t ht).enclosed
        | or => exact (Woven.join (by decide) (by decide) each).enclosed

end Conjunct

theorem woven_joins (hidesDeleted : Bool) (joins : List JoinStep) :
    Woven d (joins.map fun j => .text (j.text hidesDeleted)) [] := by
  induction joins with
  | nil => exact .nil
  | cons j rest ih => exact .text (j.quiet_text hidesDeleted) ih

theorem fenced_joins (hidesDeleted : Bool) (joins : List JoinStep) :
    Fenced d (joins.map fun j => .text (j.text hidesDeleted)) := by
  cases joins with
  | nil => exact fenced_nil
  | cons j rest =>
    have first : Fence " LEFT JOIN " := by decide
    exact fenced_text ((((((first.append _).append _).append _).append _).append _).append _)

namespace Plan

variable (p : Plan)

def parts : List Fragment := p.base.toList ++ p.conjuncts.flatMap (·.parts p.dialect)

theorem woven_source (counts : ∀ f ∈ p.base.toList, Counts d f) :
    Woven d p.sourceFragment p.base.toList := by
  unfold sourceFragment
  have joins := woven_joins (d := d) p.hidesDeleted p.joins
  cases hb : p.base with
  | none =>
    have table : Quiet ("FROM " ++ Statement.quoteIdent p.table) :=
      (show Quiet "FROM " by decide).append (quiet_quoteIdent _)
    exact .text table joins
  | some f =>
    rw [hb] at counts
    have base := Woven.single (counts f List.mem_cons_self)
    have label : Quiet (" AS " ++ Statement.quoteIdent p.table) :=
      (show Quiet " AS " by decide).append (quiet_quoteIdent _)
    have opened := Woven.text (show Quiet "FROM " by decide) base.enclosed
    have named := opened.closed label ((show Fence " AS " by decide).append _)
    exact named.append (fenced_joins _ _) joins

theorem woven_where (counts : ∀ f ∈ p.conjuncts.flatMap (·.parts p.dialect), Counts p.dialect f) :
    Woven p.dialect p.whereFragment (p.conjuncts.flatMap (·.parts p.dialect)) := by
  have each : ∀ c ∈ p.conjuncts, Woven p.dialect (c.fragment p.dialect) (c.parts p.dialect) :=
    fun c hc => c.woven fun f hf => counts f (List.mem_flatMap_of_mem hc hf)
  unfold whereFragment
  cases hc : p.conjuncts with
  | nil => exact .nil
  | cons c rest =>
    rw [hc] at each
    exact .text (by decide) (.join (by decide) (by decide) each)

theorem fenced_where : Fenced d p.whereFragment := by
  unfold whereFragment
  split
  · exact fenced_nil
  · exact fenced_text (by decide)

theorem woven_rows (counts : ∀ f ∈ p.parts, Counts p.dialect f) :
    Woven p.dialect p.rowsFragment p.parts :=
  (p.woven_source fun f hf => counts f (List.mem_append_left _ hf)).append p.fenced_where
    (p.woven_where fun f hf => counts f (List.mem_append_right _ hf))

/-- What follows the rows of a selection. -/
theorem fenced_tail (window : Option PageWindow) (lock : Bool) :
    Fenced d [.text (p.orderText ++ windowText window ++ p.lockText lock)] := by
  have order : startsWithDigit p.orderText.toList = false := by
    unfold orderText
    split
    · decide
    · exact (show Fence " ORDER BY " by decide).startsWithDigit_append _
  have limit : startsWithDigit (windowText window).toList = false := by
    cases window with
    | none => decide
    | some w =>
      have first : Fence " LIMIT " := by decide
      exact ((first.append _).append _).startsWithDigit_append _
  have locking : startsWithDigit (p.lockText lock).toList = false := by
    unfold lockText
    split
    · exact (show Fence " FOR UPDATE OF " by decide).startsWithDigit_append _
    · decide
  intro bound
  rw [write_text, String.toList_append, String.toList_append]
  exact startsWithDigit_append (startsWithDigit_append order limit) locking

inductive Writes (p : Plan) : String → Prop where
  | select (window : Option PageWindow) (lock : Bool) : Writes p (p.selectText window lock)
  | count : Writes p p.countText
  | existence : Writes p p.existsText
  | aggregate {a : Aggregate} {text : String} (asked : p.aggregateText a = some text) :
      Writes p text

/-- Every statement is woven of the parts of the plan. -/
theorem Writes.woven {p : Plan} {text : String} (h : p.Writes text)
    (counts : ∀ f ∈ p.parts, Counts p.dialect f) :
    ∃ f, text = p.write f ∧ Woven p.dialect f p.parts := by
  have rows := p.woven_rows counts
  cases h with
  | select window lock =>
    have head : Quiet ("SELECT " ++ Statement.quoteIdent p.table ++ ".* ") :=
      ((show Quiet "SELECT " by decide).append (quiet_quoteIdent _)).append (by decide)
    have tail : Quiet (p.orderText ++ windowText window ++ p.lockText lock) :=
      (p.quiet_orderText.append (quiet_windowText window)).append (p.quiet_lockText lock)
    have woven := (Woven.text head rows).append (p.fenced_tail window lock) (.text tail .nil)
    rw [List.append_nil] at woven
    exact ⟨p.selectFragment window lock, rfl, woven⟩
  | count => exact ⟨p.countFragment, rfl, .text (by decide) rows⟩
  | existence =>
    have woven := (Woven.text (show Quiet "SELECT EXISTS(SELECT 1 " by decide) rows).closed
      (show Quiet ")" by decide) (by decide)
    exact ⟨p.existsFragment, rfl, woven⟩
  | aggregate asked =>
    rename_i a
    obtain ⟨f, hf, rfl⟩ := Option.map_eq_some_iff.mp asked
    obtain ⟨c, -, rfl⟩ := Option.map_eq_some_iff.mp hf
    have name : Quiet a.name := by cases a <;> decide
    have call : Quiet ("SELECT " ++ a.name ++ "(" ++ c.qualified ++ ") ") :=
      ((((show Quiet "SELECT " by decide).append name).append (by decide)).append
        c.quiet_qualified).append (by decide)
    exact ⟨_, rfl, .text call rows⟩

end Plan

inductive Binder where
  | raw (q : RawQuery)
  | term (column : ResolvedColumn) (p : Predicate)
  | test (column : ResolvedColumn) (t : ColumnTest)

namespace Binder

def fragment (d : Dialect) : Binder → Fragment
  | raw q => q.pieces.1
  | term c p => p.fragment d c.qualified
  | test c t => t.fragment c.qualified

/-- The values to bind, as the caller or the operands of the predicate give them. -/
def bindings (d : Dialect) : Binder → List SqlValue
  | raw q => q.params
  | term _ p => p.condition.bindings d
  | test _ t => t.bindings

/-- The fragment holds one placeholder for each value that is bound for it. -/
structure Fits (d : Dialect) (b : Binder) : Prop where
  counts : Counts d (b.fragment d)
  values : (b.fragment d).values = b.bindings d

theorem fits_term (c : ResolvedColumn) (p : Predicate) : Fits d (term c p) where
  counts := p.counts_fragment _ c.quiet_qualified
  values := p.values_fragment _

theorem fits_test (c : ResolvedColumn) (t : ColumnTest) : Fits d (test c t) where
  counts := t.counts_fragment c.quiet_qualified
  values := t.values_fragment _

theorem fits_raw {q : RawQuery} {f : Fragment} (ok : q.fragment = .ok f) (plain : q.Plain)
    (apart : d = .postgres → q.Apart) : Fits d (raw q) := by
  have same : (raw q).fragment d = f := congrArg Prod.fst (RawQuery.pieces_of_fragment ok)
  constructor
  · rw [same]
    exact RawQuery.counts_of_fragment ok plain apart
  · rw [same]
    exact RawQuery.values_of_fragment ok

theorem values_fragments {bs : List Binder} (fits : ∀ b ∈ bs, b.Fits d) :
    (bs.map (·.fragment d)).flatMap values = bs.flatMap (·.bindings d) := by
  induction bs with
  | nil => rfl
  | cons b rest ih =>
    have now := (fits b List.mem_cons_self).values
    have later := ih fun x hx => fits x (List.mem_cons_of_mem b hx)
    rw [List.map_cons, List.flatMap_cons, List.flatMap_cons, now, later]

/-- In a text the values of `before` are asked for first, then the values of a binder, all of them
where its fragment is written, and then those of `after`. -/
def StandsIn (d : Dialect) (text : List Char) (before : List Binder) (b : Binder)
    (after : List Binder) : Prop :=
  ∃ left right,
    let bound := (before.flatMap (·.bindings d)).length
    let own := (b.bindings d).length
    text = left ++ (((b.fragment d).write d bound).toList ++ right) ∧
    Holds d left (placesAfter d 0 bound) ∧
    Holds d ((b.fragment d).write d bound).toList (placesAfter d bound own) ∧
    Holds d right (placesAfter d (bound + own) (after.flatMap (·.bindings d)).length)

theorem standsIn_of_woven {f : Fragment} {before after : List Binder} {b : Binder}
    (woven : Woven d f ((before ++ b :: after).map (·.fragment d)))
    (fits : ∀ x ∈ before ++ b :: after, x.Fits d) :
    b.StandsIn d (f.write d 0).toList before after := by
  rw [List.map_append, List.map_cons] at woven
  obtain ⟨left, right, rfl, -, hl, hr⟩ := woven.split
  have own : b.Fits d := fits b (List.mem_append_right _ List.mem_cons_self)
  have first : left.values = before.flatMap (·.bindings d) := by
    rw [hl.values_eq]
    exact values_fragments fun x hx => fits x (List.mem_append_left _ hx)
  have last : right.values = after.flatMap (·.bindings d) := by
    rw [hr.values_eq]
    exact values_fragments fun x hx =>
      fits x (List.mem_append_right _ (List.mem_cons_of_mem b hx))
  have leading := hl.counts 0
  have holding := own.counts left.values.length
  have trailing := hr.counts (left.values.length + (b.bindings d).length)
  rw [first] at leading holding trailing
  rw [own.values] at holding
  rw [last] at trailing
  refine ⟨(left.write d 0).toList, _, ?_, leading, holding, trailing⟩
  rw [write_append, write_append, String.toList_append, String.toList_append, own.values, first,
    Nat.zero_add]

end Binder

/-- Placeholders and values of a plan are in step: its values are those of its binders, every
statement asks for just these, and does so for each where the fragment of its binder stands. -/
structure Plan.LinesUp (p : Plan) (binders : List Binder) : Prop where
  params : p.params = binders.flatMap (·.bindings p.dialect)
  texts : ∀ text, p.Writes text →
    placeholders p.dialect .outside text.toList = placesAfter p.dialect 0 p.params.length
  places : ∀ text, p.Writes text → ∀ before b after, binders = before ++ b :: after →
    b.StandsIn p.dialect text.toList before after

theorem Plan.LinesUp.of_parts {p : Plan} {binders : List Binder}
    (same : p.parts = binders.map (·.fragment p.dialect))
    (fits : ∀ b ∈ binders, b.Fits p.dialect) : p.LinesUp binders := by
  have counts : ∀ f ∈ p.parts, Counts p.dialect f := by
    intro f hf
    rw [same] at hf
    obtain ⟨b, hb, rfl⟩ := List.mem_map.mp hf
    exact (fits b hb).counts
  have params : p.params = binders.flatMap (·.bindings p.dialect) := by
    rw [← Binder.values_fragments fits, ← same]
    exact (p.woven_rows counts).values_eq
  refine ⟨params, ?_, ?_⟩
  · intro text h
    obtain ⟨f, rfl, woven⟩ := h.woven counts
    have values : f.values = p.params :=
      woven.values_eq.trans (p.woven_rows counts).values_eq.symm
    rw [← values]
    exact (woven.counts 0).placeholders_eq
  · intro text h before b after cut
    obtain ⟨f, rfl, woven⟩ := h.woven counts
    subst cut
    rw [same] at woven
    exact Binder.standsIn_of_woven woven fits

theorem TableSchema.conjuncts_parts (schema : TableSchema) (options : PlanOptions) (logic : Logic)
    (tests : List RowTest) (conditions : List Fragment) :
    (schema.conjuncts options logic tests conditions).flatMap (·.parts d) =
      tests.map (·.fragment d) ++ conditions := by
  have group : (if tests.isEmpty then [] else [Conjunct.group logic tests]).flatMap (·.parts d) =
      tests.map (·.fragment d) := by
    cases tests with
    | nil => rfl
    | cons t rest => exact List.append_nil _
  have raws : (conditions.map Conjunct.raw).flatMap (·.parts d) = conditions := by
    induction conditions with
    | nil => rfl
    | cons f rest ih => exact congrArg (f :: ·) ih
  unfold TableSchema.conjuncts
  rw [List.flatMap_append, List.flatMap_append, group, raws]
  split
  · exact congrArg (· ++ conditions) (List.append_nil _)
  · exact congrArg (· ++ conditions) (List.append_nil _)

theorem map_fragment_raw {qs : List RawQuery} {fs : List Fragment}
    (h : List.Forall₂ (fun q f => q.fragment = .ok f) qs fs) :
    fs = (qs.map Binder.raw).map (·.fragment d) := by
  induction h with
  | nil => rfl
  | cons ok _ ih =>
    rw [List.map_cons, List.map_cons, ← ih]
    exact congrArg (· :: _) (congrArg Prod.fst (RawQuery.pieces_of_fragment ok)).symm

theorem map_fragment_term (kept : List (ResolvedColumn × Predicate)) :
    (kept.map fun (c, p) => RowTest.predicate (p.test d c.qualified)).map (·.fragment d) =
      (kept.map fun (c, p) => Binder.term c p).map (·.fragment d) := by
  rw [List.map_map, List.map_map]
  rfl

theorem map_fragment_test (kept : List (ResolvedColumn × ColumnTest)) :
    (kept.map fun (c, t) => RowTest.column c.toColumnRef t).map (·.fragment d) =
      (kept.map fun (c, t) => Binder.test c t).map (·.fragment d) := by
  rw [List.map_map, List.map_map]
  rfl

theorem fits_of_fragments {qs : List RawQuery} {fs : List Fragment}
    (h : List.Forall₂ (fun q f => q.fragment = .ok f) qs fs)
    (fine : ∀ q ∈ qs, q.Plain ∧ (d = .postgres → q.Apart)) :
    ∀ b ∈ qs.map Binder.raw, b.Fits d := by
  induction h with
  | nil =>
    intro b hb
    cases hb
  | cons ok _ ih =>
    intro b hb
    rcases List.mem_cons.mp hb with rfl | hb
    · have first := fine _ List.mem_cons_self
      exact Binder.fits_raw ok first.1 first.2
    · exact ih (fun q hq => fine q (List.mem_cons_of_mem _ hq)) b hb

theorem base_fragments {options : PlanOptions} {base : Option Fragment}
    (h : options.base.mapM RawQuery.fragment = .ok base) :
    List.Forall₂ (fun q f => q.fragment = .ok f) options.base.toList base.toList := by
  cases hb : options.base with
  | none =>
    rw [hb] at h
    cases h
    exact .nil
  | some q =>
    rw [hb] at h
    have mapped : some <$> q.fragment = .ok base := h
    obtain ⟨f, hf, rfl⟩ := map_ok_iff.mp mapped
    exact .cons hf .nil

theorem Completion.conditions_fragments {lookup : ColumnLookup} {policy : UnknownFields}
    {options : PlanOptions} {sort : List SortField} {target : Option String} {c : Completion}
    (h : Completion.ofRequest lookup policy options sort target = .ok c) :
    List.Forall₂ (fun q f => q.fragment = .ok f) options.conditions c.conditions := by
  obtain ⟨sorts, -, h⟩ := bind_ok_iff.mp h
  obtain ⟨column, -, h⟩ := bind_ok_iff.mp h
  obtain ⟨conditions, limiting, h⟩ := bind_ok_iff.mp h
  cases h
  exact mapM_ok_forall₂ limiting

theorem Completion.plan_parts (c : Completion) (schema : TableSchema) (settings : PlanSettings)
    (options : PlanOptions) (settled : TableSchema.Settled) :
    (c.plan schema settings options settled).parts = settled.base.toList ++
      (settled.tests.map (·.fragment settings.dialect) ++ c.conditions) :=
  congrArg (settled.base.toList ++ ·)
    (schema.conjuncts_parts options settled.logic settled.tests c.conditions)

/-- What binds values in the plan of a filter, in order: the base, the terms, the conditions. -/
def PlanOptions.binders (options : PlanOptions) (terms : List (ResolvedColumn × Predicate)) :
    List Binder :=
  options.base.toList.map .raw ++ terms.map (fun (c, p) => .term c p) ++
    options.conditions.map .raw

/-- If a plan is made, each of its statements asks for its values in their order and where they
belong. Raw queries have to be plain, and in PostgreSQL none of their placeholders may run into a
digit. -/
theorem placeholders_line_up (schema : TableSchema) (lookup : ColumnLookup)
    (settings : PlanSettings) (target : Option String) :
    (∀ (f : Filter) (options : PlanOptions) (p : Plan),
      (∀ q ∈ options.base.toList ++ options.conditions,
        q.Plain ∧ (settings.dialect = .postgres → q.Apart)) →
      schema.plan lookup settings f options target = .ok p →
      p.dialect = settings.dialect ∧
      ∃ terms, f.terms.mapM (Term.planned lookup settings.unknownFields) = .ok terms ∧
        p.LinesUp (options.binders (restricting f.logic terms))) ∧
    (∀ (filters : List ColumnFilter) (sort : List SortField) (p : Plan),
      schema.planColumns lookup settings filters sort target = .ok p →
      p.dialect = settings.dialect ∧
      ∃ tests, filters.mapM (TableSchema.plannedTest lookup settings.unknownFields) = .ok tests ∧
        p.LinesUp ((tests.filterMap id).map fun (c, t) => .test c t)) := by
  constructor
  · intro f options p fine h
    obtain ⟨base, terms, c, hb, ht, hc, rfl⟩ := TableSchema.plan_ok_iff.mp h
    have bases := base_fragments hb
    have conditions := Completion.conditions_fragments hc
    refine ⟨rfl, terms, ht, .of_parts ?_ ?_⟩
    · refine (c.plan_parts schema settings options _).trans ?_
      change base.toList ++ (List.map _ (List.map _ _) ++ _) =
        (options.binders (restricting f.logic terms)).map (·.fragment settings.dialect)
      rw [map_fragment_raw (d := settings.dialect) bases, map_fragment_term,
        map_fragment_raw (d := settings.dialect) conditions, ← List.append_assoc,
        PlanOptions.binders, List.map_append, List.map_append]
    · intro b hb
      rcases List.mem_append.mp hb with hb | hb
      · rcases List.mem_append.mp hb with hb | hb
        · exact fits_of_fragments bases (fun q hq => fine q (List.mem_append_left _ hq)) b hb
        · obtain ⟨⟨column, predicate⟩, -, rfl⟩ := List.mem_map.mp hb
          exact Binder.fits_term column predicate
      · exact fits_of_fragments conditions (fun q hq => fine q (List.mem_append_right _ hq)) b hb
  · intro filters sort p h
    obtain ⟨tests, c, ht, hc, rfl⟩ := TableSchema.planColumns_ok_iff.mp h
    have conditions := Completion.conditions_fragments hc
    have none : c.conditions = [] := List.forall₂_nil_left_iff.mp conditions
    refine ⟨rfl, tests, ht, .of_parts ?_ ?_⟩
    · refine (c.plan_parts schema settings {} _).trans ?_
      rw [none, List.append_nil]
      exact map_fragment_test _
    · intro b hb
      obtain ⟨⟨column, test⟩, -, rfl⟩ := List.mem_map.mp hb
      exact Binder.fits_test column test

namespace Sample

/-- A shelf of books in place of the table, and a bound on them. -/
def shelved : PlanOptions :=
  { base := some ⟨"SELECT * FROM stock WHERE shelf = ? AND note <> 'lost?'", [.text "A"]⟩
    conditions := [⟨"pages < ?", [.int 900]⟩] }

def thick : Filter := { terms := [⟨"pages", .num (.int 100), .gte, none⟩] }

/-- A condition whose placeholder runs into a digit. -/
def numbered : PlanOptions := { conditions := [⟨"pages = ?1", [.int 5]⟩] }

end Sample

open Sample in
theorem placeholders_line_up_shelved :
    (∀ q ∈ shelved.base.toList ++ shelved.conditions,
      q.Plain ∧ (Dialect.postgres = .postgres → q.Apart)) ∧
    ∃ p, books.plan books.resolve { dialect := .postgres } thick shelved none = .ok p ∧
      placeholders .postgres .outside p.countText.toList = [.number 1, .number 2, .number 3] := by
  have fine : ∀ q ∈ shelved.base.toList ++ shelved.conditions,
      q.Plain ∧ (Dialect.postgres = .postgres → q.Apart) := by
    intro q hq
    rcases List.mem_cons.mp hq with rfl | hq
    · exact ⟨⟨by decide, by decide, by decide⟩, fun _ => by decide⟩
    · rcases List.mem_cons.mp hq with rfl | hq
      · exact ⟨⟨by decide, by decide, by decide⟩, fun _ => by decide⟩
      · cases hq
  have made : ∃ p, books.plan books.resolve { dialect := .postgres } thick shelved none = .ok p ∧
      p.params.length = 3 := ⟨_, rfl, rfl⟩
  obtain ⟨p, hp, three⟩ := made
  have filters := (placeholders_line_up books books.resolve { dialect := .postgres } none).1
  obtain ⟨dialect, terms, _, lines⟩ := filters thick shelved p fine hp
  have texts := lines.texts p.countText .count
  rw [dialect, three] at texts
  exact ⟨fine, p, hp, texts⟩

/-- A placeholder of PostgreSQL that runs into a digit is read as another one, so that the statement
does not ask for the value of the plan. -/
theorem placeholders_of_numbered :
    (∀ q ∈ Sample.numbered.base.toList ++ Sample.numbered.conditions, q.Plain) ∧
    ∃ p, Sample.books.plan Sample.books.resolve { dialect := .postgres } {} Sample.numbered none =
        .ok p ∧
      p.params = [.int 5] ∧ placeholders .postgres .outside p.countText.toList = [.number 11] ∧
      ∀ binders, ¬ p.LinesUp binders := by
  have plain : ∀ q ∈ Sample.numbered.base.toList ++ Sample.numbered.conditions, q.Plain := by
    intro q hq
    rcases List.mem_cons.mp hq with rfl | hq
    · exact ⟨by decide, by decide, by decide⟩
    · cases hq
  have made : ∃ p, Sample.books.plan Sample.books.resolve { dialect := .postgres } {}
      Sample.numbered none = .ok p ∧ p.dialect = .postgres ∧ p.params = [.int 5] ∧
      placeholders .postgres .outside p.countText.toList = [.number 11] :=
    ⟨_, rfl, rfl, rfl, by decide⟩
  obtain ⟨p, hp, dialect, params, eleven⟩ := made
  refine ⟨plain, p, hp, params, eleven, ?_⟩
  intro binders lines
  have one := lines.texts p.countText .count
  rw [dialect, params, eleven] at one
  cases one

end FieldQuery

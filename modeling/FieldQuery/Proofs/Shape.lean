import FieldQuery.Proofs.Planning

/-!
# The text of statements

Values are bound to placeholders and never stand in the text of a statement. Two runs show it: if
the predicates of two filters differ only in what their operands hold, their plans are written
alike. Main statement: `texts_of_alike_filters`.
-/
namespace FieldQuery

/-- Operands of one type, whatever they hold. -/
inductive Operand.Alike : Operand → Operand → Prop where
  | number (x y : Number) : Alike (.number x) (.number y)
  | text (s t : String) : Alike (.text s) (.text t)
  | bool (b c : Bool) : Alike (.bool b) (.bool c)
  | instant (m n : Moment) : Alike (.instant m) (.instant n)
  | clock (s t : Clock) : Alike (.clock s) (.clock t)

inductive Condition.Alike : Condition → Condition → Prop where
  | compare (op : Comparison) (foldCase : Bool) {o o' : Operand} (operand : o.Alike o') :
      Alike (.compare op o foldCase) (.compare op o' foldCase)
  | between (foldCase : Bool) {l l' h h' : Operand} (low : l.Alike l') (high : h.Alike h') :
      Alike (.between l h foldCase) (.between l' h' foldCase)
  | outside (foldCase : Bool) {l l' h h' : Operand} (low : l.Alike l') (high : h.Alike h') :
      Alike (.outside l h foldCase) (.outside l' h' foldCase)
  | like (placement : Placement) (negated : Bool) (n n' : String) :
      Alike (.like placement n negated) (.like placement n' negated)
  | empty (negated blankText : Bool) : Alike (.empty negated blankText) (.empty negated blankText)

structure Predicate.Alike (p q : Predicate) : Prop where
  projection : p.projection = q.projection
  condition : p.condition.Alike q.condition

/-- Terms on one field in one mode, whose predicates are alike wherever the field is found. -/
structure Term.Alike (lookup : ColumnLookup) (t u : Term) : Prop where
  field : t.field = u.field
  mode : t.mode = u.mode
  predicate : ∀ c, lookup t.field = .ok c →
    ∃ p q, t.predicate = .ok p ∧ u.predicate = .ok q ∧ p.Alike q

def Piece.text? : Piece → Option String
  | text s => some s
  | place _ => none

def Fragment.Alike (f g : Fragment) : Prop := f.map Piece.text? = g.map Piece.text?

namespace Fragment

theorem Alike.rfl {f : Fragment} : f.Alike f := Eq.refl _

theorem Alike.append {f f' g g' : Fragment} (h : f.Alike f') (k : g.Alike g') :
    Fragment.Alike (f ++ g) (f' ++ g') := by
  unfold Alike at *
  rw [List.map_append, List.map_append, h, k]

theorem Alike.place (v w : SqlValue) : Fragment.Alike [.place v] [.place w] := Eq.refl _

theorem Alike.text (s : String) {f g : Fragment} (h : f.Alike g) :
    Fragment.Alike (.text s :: f) (.text s :: g) := congrArg (some s :: ·) h

theorem Alike.enclosed {f g : Fragment} (h : f.Alike g) : f.enclosed.Alike g.enclosed :=
  (Alike.rfl.append h).append .rfl

theorem Alike.join (sep : String) {fs gs : List Fragment} (h : List.Forall₂ Alike fs gs) :
    (Fragment.join sep fs).Alike (Fragment.join sep gs) := by
  induction h with
  | nil => exact .rfl
  | cons head tail ih =>
    cases tail with
    | nil => exact head
    | cons => exact (head.append .rfl).append ih

/-- What is written does not depend on the values. -/
theorem Alike.write {f g : Fragment} (h : f.Alike g) (d : Dialect) (n : Nat) :
    f.write d n = g.write d n := by
  induction f generalizing g n with
  | nil =>
    cases g with
    | nil => exact Eq.refl _
    | cons q g => cases h
  | cons p f ih =>
    cases g with
    | nil => cases h
    | cons q g =>
      obtain ⟨head, tail⟩ := List.cons.inj h
      cases p <;> cases q <;> cases head
      · rw [Fragment.write, Fragment.write, ih tail n]
      · rw [Fragment.write, Fragment.write, ih tail (n + 1)]

theorem Alike.length_values {f g : Fragment} (h : f.Alike g) :
    f.values.length = g.values.length := by
  induction f generalizing g with
  | nil =>
    cases g with
    | nil => exact Eq.refl _
    | cons q g => cases h
  | cons p f ih =>
    cases g with
    | nil => cases h
    | cons q g =>
      obtain ⟨head, tail⟩ := List.cons.inj h
      cases p <;> cases q <;> cases head
      · rw [values, values, ih tail]
      · rw [values, values, List.length_cons, List.length_cons, ih tail]

end Fragment

theorem SqlExpr.alike_bound (d : Dialect) (foldCase : Bool) (v w : SqlValue) :
    (((bound v).folded foldCase).fragment d).Alike (((bound w).folded foldCase).fragment d) := by
  cases foldCase with
  | false => exact .place v w
  | true => exact .text "LOWER(" (.append (.place v w) .rfl)

theorem Condition.Alike.comparesInstants {c c' : Condition} (h : c.Alike c') :
    c.comparesInstants = c'.comparesInstants := by
  cases h with
  | compare op foldCase operand => cases operand <;> rfl
  | between foldCase low high => cases low <;> rfl
  | outside foldCase low high => cases low <;> rfl
  | like placement negated n n' => rfl
  | empty negated blankText => rfl

theorem Predicate.Alike.expr {p q : Predicate} (h : p.Alike q) (column : String) :
    p.expr column = q.expr column := by
  unfold Predicate.expr
  rw [h.projection, h.condition.comparesInstants]

theorem Predicate.Alike.fragment {p q : Predicate} (h : p.Alike q) (d : Dialect)
    (column : String) : ((p.test d column).fragment d).Alike ((q.test d column).fragment d) := by
  have same := h.expr column
  obtain ⟨projection, c⟩ := p
  obtain ⟨projection', c'⟩ := q
  have condition : c.Alike c' := h.condition
  unfold Predicate.test
  rw [same]
  cases condition with
  | compare op foldCase operand => exact .append .rfl (SqlExpr.alike_bound d foldCase _ _)
  | between foldCase low high =>
    exact .append (.append (.append .rfl (SqlExpr.alike_bound d foldCase _ _)) .rfl)
      (SqlExpr.alike_bound d foldCase _ _)
  | outside foldCase low high =>
    refine .append (.append (.append ?_ .rfl) (SqlExpr.alike_bound d foldCase _ _)) .rfl
    exact .append (.append (.append .rfl (SqlExpr.alike_bound d foldCase _ _)) .rfl) .rfl
  | like placement negated n n' =>
    exact .append .rfl (.text _ (.append (.place _ _) .rfl))
  | empty negated blankText => exact .rfl

structure Plan.Alike (p q : Plan) : Prop where
  table : p.table = q.table
  dialect : p.dialect = q.dialect
  source : p.sourceFragment = q.sourceFragment
  order : p.order = q.order
  target : p.target = q.target
  conjuncts : List.Forall₂ Fragment.Alike (p.conjuncts.map (·.fragment p.dialect))
    (q.conjuncts.map (·.fragment q.dialect))

namespace Plan.Alike

variable {p q : Plan}

theorem rowsFragment (h : p.Alike q) : p.rowsFragment.Alike q.rowsFragment := by
  unfold Plan.rowsFragment
  refine .append ?_ ?_
  · rw [h.source]
    exact .rfl
  · have length : p.conjuncts.length = q.conjuncts.length := by
      simpa using h.conjuncts.length_eq
    unfold Plan.whereFragment
    by_cases none : p.conjuncts = []
    · rw [none, List.length_nil] at length
      rw [none, List.length_eq_zero_iff.mp length.symm]
      exact .rfl
    · have some : q.conjuncts ≠ [] := by
        intro none'
        rw [none', List.length_nil] at length
        exact none (List.length_eq_zero_iff.mp length)
      rw [if_neg (by simpa using none), if_neg (by simpa using some)]
      exact .append .rfl (.join " AND " h.conjuncts)

theorem write (h : p.Alike q) {f g : Fragment} (alike : f.Alike g) : p.write f = q.write g := by
  unfold Plan.write
  rw [h.dialect]
  exact alike.write q.dialect 0

theorem selectText (h : p.Alike q) (w : Option PageWindow) (lock : Bool) :
    p.selectText w lock = q.selectText w lock := by
  refine h.write ?_
  unfold Plan.selectFragment Plan.orderText Plan.lockText
  rw [h.table, h.order, h.dialect]
  exact .append (.append .rfl h.rowsFragment) .rfl

theorem countText (h : p.Alike q) : p.countText = q.countText :=
  h.write (.append .rfl h.rowsFragment)

theorem existsText (h : p.Alike q) : p.existsText = q.existsText :=
  h.write (.append (.append .rfl h.rowsFragment) .rfl)

theorem aggregateText (h : p.Alike q) (a : Aggregate) : p.aggregateText a = q.aggregateText a := by
  unfold Plan.aggregateText Plan.aggregateFragment
  rw [h.target]
  cases q.target with
  | none => rfl
  | some c => exact congrArg some (h.write (.append .rfl h.rowsFragment))

theorem length_params (h : p.Alike q) : p.params.length = q.params.length :=
  h.rowsFragment.length_values

end Plan.Alike

/-- Terms that come to the same, but for the values in their predicates. -/
inductive PlannedTerm.Alike : PlannedTerm → PlannedTerm → Prop where
  | vacuous : Alike .vacuous .vacuous
  | leftOut : Alike .leftOut .leftOut
  | kept (c : ResolvedColumn) {p q : Predicate} (predicate : p.Alike q) :
      Alike (.kept c p) (.kept c q)

section Terms

variable {lookup : ColumnLookup} {policy : UnknownFields}

/-- Alike terms come to the same, or fail for their path. -/
theorem Term.Alike.planned {t u : Term} (h : t.Alike lookup u) (policy : UnknownFields) :
    (∃ x : PlannedTerm × PlannedTerm, x.1.Alike x.2 ∧ t.planned lookup policy = .ok x.1 ∧
      u.planned lookup policy = .ok x.2) ∨
    (∃ first second, (first = second ∧ lookup.column policy t.field = .error first) ∧
      t.planned lookup policy = .error first ∧ u.planned lookup policy = .error second) := by
  cases found : lookup t.field with
  | ok c =>
    obtain ⟨p, q, hp, hq, alike⟩ := h.predicate c found
    refine .inl ⟨(.kept c p, .kept c q), .kept c alike, ?_, ?_⟩
    · rw [planned_of_ok found, hp]
      rfl
    · rw [planned_of_ok (h.field ▸ found), hq]
      rfl
  | error fault =>
    rw [planned_of_error found, planned_of_error (h.field ▸ found), ← h.mode, ← h.field]
    by_cases vacuous : t.mode = .isEmpty ∧ fault.isUnknownField = true
    · rw [if_pos vacuous]
      exact .inl ⟨(.vacuous, .vacuous), .vacuous, rfl, rfl⟩
    · rw [if_neg vacuous]
      cases hc : lookup.column policy t.field with
      | ok column => exact .inl ⟨(.leftOut, .leftOut), .leftOut, rfl, rfl⟩
      | error other => exact .inr ⟨other, other, ⟨rfl, rfl⟩, rfl, rfl⟩

theorem exists_pairs {α β : Type} {R : α → β → Prop} {l : List α} {m : List β}
    (h : List.Forall₂ R l m) :
    ∃ pairs : List (α × β), l = pairs.map (·.1) ∧ m = pairs.map (·.2) ∧ ∀ x ∈ pairs, R x.1 x.2 := by
  induction h with
  | nil => exact ⟨[], rfl, rfl, nofun⟩
  | cons head _ ih =>
    obtain ⟨pairs, rfl, rfl, all⟩ := ih
    refine ⟨(_, _) :: pairs, rfl, rfl, fun x hx => ?_⟩
    rcases List.mem_cons.mp hx with rfl | hx
    · exact head
    · exact all x hx

theorem forall₂_of_pairs {α β γ : Type} {R : β → γ → Prop} {l : List α} {xs : List (β × γ)}
    (h : List.Forall₂ (fun _ x => R x.1 x.2) l xs) :
    List.Forall₂ R (xs.map (·.1)) (xs.map (·.2)) := by
  induction h with
  | nil => exact .nil
  | cons head _ ih => exact .cons head ih

/-- Lists of alike terms come to the same, or fail for one of their paths. -/
theorem mapM_planned_alike {ts us : List Term} (h : List.Forall₂ (Term.Alike lookup) ts us)
    (policy : UnknownFields) :
    (∃ xs ys, List.Forall₂ PlannedTerm.Alike xs ys ∧
      ts.mapM (Term.planned lookup policy) = .ok xs ∧
      us.mapM (Term.planned lookup policy) = .ok ys) ∨
    (∃ fault, (∃ path ∈ ts.map (·.field), lookup.column policy path = .error fault) ∧
      ts.mapM (Term.planned lookup policy) = .error fault ∧
      us.mapM (Term.planned lookup policy) = .error fault) := by
  obtain ⟨pairs, rfl, rfl, alike⟩ := exists_pairs h
  have each : ∀ x ∈ pairs,
      (∃ y : PlannedTerm × PlannedTerm, y.1.Alike y.2 ∧ x.1.planned lookup policy = .ok y.1 ∧
        x.2.planned lookup policy = .ok y.2) ∨
      (∃ first second, (first = second ∧ ∃ path ∈ (pairs.map (·.1)).map (·.field),
        lookup.column policy path = .error first) ∧
        x.1.planned lookup policy = .error first ∧ x.2.planned lookup policy = .error second) := by
    intro x hx
    rcases (alike x hx).planned policy with fine | ⟨first, second, ⟨same, refused⟩, hf, hs⟩
    · exact .inl fine
    · refine .inr ⟨first, second, ⟨same, x.1.field, ?_, refused⟩, hf, hs⟩
      exact List.mem_map_of_mem (List.mem_map_of_mem hx)
  rw [List.mapM_map, List.mapM_map]
  rcases mapM_together each with ⟨xs, all, left, right⟩ | ⟨first, second, failing, left, right⟩
  · exact .inl ⟨_, _, forall₂_of_pairs all, left, right⟩
  · obtain ⟨rfl, path⟩ := failing.alike
    exact .inr ⟨first, path, left, right⟩

end Terms

def KeptAlike (a b : ResolvedColumn × Predicate) : Prop := a.1 = b.1 ∧ a.2.Alike b.2

section Planned

variable {xs ys : List PlannedTerm}

theorem filterMap_kept?_alike (h : List.Forall₂ PlannedTerm.Alike xs ys) :
    List.Forall₂ KeptAlike (xs.filterMap (·.kept?)) (ys.filterMap (·.kept?)) := by
  refine List.rel_filterMap (fun x y alike => ?_) h
  cases alike with
  | vacuous => exact .none
  | leftOut => exact .none
  | kept c predicate => exact .some ⟨rfl, predicate⟩

theorem any_isVacuous_alike (h : List.Forall₂ PlannedTerm.Alike xs ys) :
    xs.any (·.isVacuous) = ys.any (·.isVacuous) := by
  induction h with
  | nil => rfl
  | cons head _ ih =>
    rw [List.any_cons, List.any_cons, ih]
    cases head <;> rfl

theorem restricting_alike (logic : Logic) (h : List.Forall₂ PlannedTerm.Alike xs ys) :
    List.Forall₂ KeptAlike (restricting logic xs) (restricting logic ys) := by
  unfold restricting
  rw [any_isVacuous_alike h]
  split
  · exact .nil
  · exact filterMap_kept?_alike h

theorem columns_alike (h : List.Forall₂ PlannedTerm.Alike xs ys) :
    (xs.filterMap (·.kept?)).map (·.1) = (ys.filterMap (·.kept?)).map (·.1) := by
  have kept := filterMap_kept?_alike h
  generalize xs.filterMap (·.kept?) = as at kept
  generalize ys.filterMap (·.kept?) = bs at kept
  induction kept with
  | nil => rfl
  | cons head _ ih => rw [List.map_cons, List.map_cons, head.1, ih]

end Planned

def RowTest.Alike (d : Dialect) (t u : RowTest) : Prop := (t.fragment d).Alike (u.fragment d)

theorem Conjunct.group_alike (d : Dialect) (logic : Logic) {ts us : List RowTest}
    (h : List.Forall₂ (RowTest.Alike d) ts us) :
    ((Conjunct.group logic ts).fragment d).Alike ((Conjunct.group logic us).fragment d) := by
  cases h with
  | nil => exact .rfl
  | cons head tail =>
    cases tail with
    | nil => exact head
    | cons second rest =>
      have all := List.Forall₂.cons head (.cons second rest)
      cases logic with
      | and =>
        refine .join " AND " (List.rel_map (fun _ _ alike => ?_) all)
        exact Fragment.Alike.enclosed alike
      | or =>
        refine Fragment.Alike.enclosed (.join " OR " (List.rel_map (fun _ _ alike => ?_) all))
        exact alike

theorem TableSchema.conjuncts_alike (schema : TableSchema) (options : PlanOptions) (d : Dialect)
    (logic : Logic) (conditions : List Fragment) {ts us : List RowTest}
    (h : List.Forall₂ (RowTest.Alike d) ts us) :
    List.Forall₂ Fragment.Alike
      ((schema.conjuncts options logic ts conditions).map (·.fragment d))
      ((schema.conjuncts options logic us conditions).map (·.fragment d)) := by
  have same (l : List Fragment) : List.Forall₂ Fragment.Alike l l :=
    List.forall₂_same.mpr fun _ _ => .rfl
  unfold TableSchema.conjuncts
  simp only [List.map_append]
  refine List.rel_append (List.rel_append ?_ (same _)) (same _)
  cases h with
  | nil => exact .nil
  | cons head tail => exact .cons (Conjunct.group_alike d logic (.cons head tail)) .nil

/-- Alike terms make alike plans. -/
theorem Completion.plan_alike (c : Completion) (schema : TableSchema) (settings : PlanSettings)
    (options : PlanOptions) (base : Option Fragment) (logic : Logic) {xs ys : List PlannedTerm}
    (h : List.Forall₂ PlannedTerm.Alike xs ys) :
    (c.plan schema settings options (.ofTerms base settings.dialect logic xs)).Alike
      (c.plan schema settings options (.ofTerms base settings.dialect logic ys)) where
  table := rfl
  dialect := rfl
  source := by
    unfold Completion.plan Plan.sourceFragment TableSchema.Settled.ofTerms
    rw [columns_alike h]
  order := rfl
  target := rfl
  conjuncts := by
    refine schema.conjuncts_alike options settings.dialect logic c.conditions ?_
    refine List.rel_map ?_ (restricting_alike logic h)
    rintro ⟨c, p⟩ ⟨_, q⟩ ⟨rfl, predicate⟩
    exact predicate.fragment settings.dialect _

/-- Two filters that differ only in what the operands of their predicates hold are planned alike:
either a raw query or a path stands in the way of both, or every statement of one plan has the text
of the other's and as many values. -/
theorem texts_of_alike_filters (schema : TableSchema) (lookup : ColumnLookup)
    (settings : PlanSettings) (options : PlanOptions) (target : Option String) (f g : Filter)
    (logic : f.logic = g.logic) (sort : f.sort = g.sort)
    (terms : List.Forall₂ (Term.Alike lookup) f.terms g.terms) :
    (∃ fault, RequestFault lookup settings.unknownFields options
        (f.terms.map (·.field) ++ (f.sort.map (·.field) ++ target.toList)) fault ∧
      schema.plan lookup settings f options target = .error fault ∧
      schema.plan lookup settings g options target = .error fault) ∨
    (∃ p q, schema.plan lookup settings f options target = .ok p ∧
      schema.plan lookup settings g options target = .ok q ∧
      (∀ w lock, p.selectText w lock = q.selectText w lock) ∧
      p.countText = q.countText ∧ p.existsText = q.existsText ∧
      (∀ a, p.aggregateText a = q.aggregateText a) ∧ p.params.length = q.params.length) := by
  rw [schema.plan_eq f, schema.plan_eq g, ← logic, ← sort]
  cases raw : options.base.mapM RawQuery.fragment with
  | error fault =>
    obtain ⟨q, mem, refused⟩ := base_error raw
    exact .inl ⟨fault, .raw mem refused, rfl, rfl⟩
  | ok base =>
    rcases mapM_planned_alike terms settings.unknownFields with
      ⟨xs, ys, alike, left, right⟩ | ⟨fault, ⟨path, mem, refused⟩, left, right⟩
    · rw [left, right]
      cases rest : Completion.ofRequest lookup settings.unknownFields options f.sort target with
      | error fault =>
        have cause := Completion.ofRequest_error rest
        exact .inl ⟨fault, cause.mono fun _ => List.mem_append_right _, rfl, rfl⟩
      | ok c =>
        have plans := c.plan_alike schema settings options base f.logic alike
        exact .inr ⟨_, _, rfl, rfl, plans.selectText, plans.countText, plans.existsText,
          plans.aggregateText, plans.length_params⟩
    · rw [left, right]
      exact .inl ⟨fault, .path (List.mem_append_left _ mem) refused, rfl, rfl⟩

namespace Sample

/-- A search for a word among books of some length. -/
def search (word : String) (pages : Int) : Filter :=
  { terms := [⟨"title", .str word, .contains, some .text⟩, ⟨"pages", .num (.int pages), .gte, none⟩]
    logic := .or }

theorem search_alike (word other : String) (pages more : Int) :
    List.Forall₂ (Term.Alike books.resolve) (search word pages).terms (search other more).terms :=
  .cons ⟨rfl, rfl, fun _ _ => ⟨_, _, rfl, rfl, rfl, .like .anywhere false _ _⟩⟩
    (.cons ⟨rfl, rfl, fun _ _ => ⟨_, _, rfl, rfl, rfl, .compare .gte false (.number _ _)⟩⟩ .nil)

end Sample

open Sample in
theorem texts_of_alike_filters_search :
    (search "ink" 100).logic = (search "' OR 1 = 1 --" 0).logic ∧
    (search "ink" 100).sort = (search "' OR 1 = 1 --" 0).sort ∧
    List.Forall₂ (Term.Alike books.resolve) (search "ink" 100).terms
      (search "' OR 1 = 1 --" 0).terms ∧
    ∃ p q, books.plan books.resolve {} (search "ink" 100) {} none = .ok p ∧
      books.plan books.resolve {} (search "' OR 1 = 1 --" 0) {} none = .ok q ∧
      p.countText = q.countText := by
  refine ⟨rfl, rfl, search_alike _ _ _ _, ?_⟩
  rcases texts_of_alike_filters books books.resolve {} {} none (search "ink" 100)
    (search "' OR 1 = 1 --" 0) rfl rfl (search_alike _ _ _ _) with
    ⟨fault, cause, -⟩ | ⟨p, q, hp, hq, -, count, -⟩
  · cases cause with
    | raw mem => cases mem
    | path mem refused =>
      rcases List.mem_cons.mp mem with rfl | mem
      · cases refused
      · rcases List.mem_cons.mp mem with rfl | mem
        · cases refused
        · cases mem
  · exact ⟨p, q, hp, hq, count⟩

end FieldQuery

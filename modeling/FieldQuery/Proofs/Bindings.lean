import FieldQuery.Proofs.Placeholders

/-!
# What binds values

Values reach a statement through the tests of terms, through tests on columns and through raw
queries. Each of them counts: it holds a placeholder for each of the values that it binds. A raw
query does so if its text is plain, and in PostgreSQL only if none of its placeholders runs into a
digit, for the number of a placeholder is written right before what follows it.
-/
namespace FieldQuery

variable {d : Dialect}

open Fragment

def SqlExpr.Quiet : SqlExpr → Prop
  | column text | timeOfDay text | instant text => FieldQuery.Quiet text
  | lower e => e.Quiet
  | bound _ => True

theorem SqlExpr.Quiet.counts {e : SqlExpr} (h : e.Quiet) : Counts d (e.fragment d) := by
  induction e with
  | column text => exact counts_nil.cons_text h
  | timeOfDay text =>
    cases d with
    | sqlite =>
      exact counts_nil.cons_text (((show FieldQuery.Quiet "time(" by decide).append h).append
        (by decide))
    | postgres =>
      exact counts_nil.cons_text (((show FieldQuery.Quiet "to_char(" by decide).append h).append
        (by decide))
  | instant text =>
    cases d with
    | sqlite =>
      have call : FieldQuery.Quiet "strftime('%Y-%m-%d %H:%M:%f', " := by decide
      exact counts_nil.cons_text ((call.append h).append (by decide))
    | postgres => exact counts_nil.cons_text h
  | lower e ih =>
    exact ((ih h).cons_text (show FieldQuery.Quiet "LOWER(" by decide)).closed (by decide)
      (by decide)
  | bound v => exact counts_place v

theorem SqlExpr.Quiet.folded {e : SqlExpr} (h : e.Quiet) (foldCase : Bool) :
    (e.folded foldCase).Quiet := by
  cases foldCase with
  | false => exact h
  | true => exact h

def SqlTest.Quiet : SqlTest → Prop
  | compare _ left right => left.Quiet ∧ right.Quiet
  | between e low high | outside e low high => e.Quiet ∧ low.Quiet ∧ high.Quiet
  | like e _ _ | isNull e | isNotNull e | isBlank e | isNotBlank e => e.Quiet

theorem SqlTest.Quiet.counts {t : SqlTest} (h : t.Quiet) : Counts d (t.fragment d) := by
  cases t with
  | compare op left right =>
    have sign : FieldQuery.Quiet (" " ++ op.sign ++ " ") := by cases op <;> decide
    exact h.1.counts.around h.2.counts sign (by cases op <;> decide)
  | between e low high =>
    obtain ⟨he, hlow, hhigh⟩ := h
    exact (he.counts.around hlow.counts (by decide) (by decide)).around hhigh.counts (by decide)
      (by decide)
  | outside e low high =>
    obtain ⟨he, hlow, hhigh⟩ := h
    have opened : Counts d ([.text "("] ++ e.fragment d) := he.counts.cons_text (by decide)
    have below := opened.around (s := " < ") hlow.counts (by decide) (by decide)
    have again := below.around (s := " OR ") he.counts (by decide) (by decide)
    have above := again.around (s := " > ") hhigh.counts (by decide) (by decide)
    exact above.closed (by decide) (by decide)
  | like e pattern negated =>
    have he : e.Quiet := h
    have opened : Counts d ([.text "LOWER("] ++ e.fragment d) := he.counts.cons_text (by decide)
    have escaped : Counts d ([.place pattern] ++ [.text " ESCAPE '\\'"]) :=
      (counts_place pattern).closed (by decide) (by decide)
    cases negated with
    | false =>
      exact opened.append (fenced_text (by decide)) (escaped.cons_text (s := ") LIKE ") (by decide))
    | true =>
      exact opened.append (fenced_text (by decide))
        (escaped.cons_text (s := ") NOT LIKE ") (by decide))
  | isNull e =>
    have he : e.Quiet := h
    exact he.counts.closed (by decide) (by decide)
  | isNotNull e =>
    have he : e.Quiet := h
    exact he.counts.closed (by decide) (by decide)
  | isBlank e =>
    have he : e.Quiet := h
    have opened : Counts d ([.text "("] ++ e.fragment d) := he.counts.cons_text (by decide)
    have both := opened.around (s := " IS NULL OR ") he.counts (by decide) (by decide)
    exact both.closed (by decide) (by decide)
  | isNotBlank e =>
    have he : e.Quiet := h
    have opened : Counts d ([.text "("] ++ e.fragment d) := he.counts.cons_text (by decide)
    have both := opened.around (s := " IS NOT NULL AND ") he.counts (by decide) (by decide)
    exact both.closed (by decide) (by decide)

namespace Predicate

variable (p : Predicate) (column : String)

theorem quiet_expr (h : Quiet column) : (p.expr column).Quiet := by
  unfold expr
  cases p.projection with
  | timeOfDay => exact h
  | value =>
    cases p.condition.comparesInstants with
    | false => exact h
    | true => exact h

theorem quiet_test (h : Quiet column) : (p.test d column).Quiet := by
  have he := p.quiet_expr column h
  have bound (v : SqlValue) (foldCase : Bool) : ((SqlExpr.bound v).folded foldCase).Quiet :=
    SqlExpr.Quiet.folded (e := .bound v) trivial foldCase
  unfold test
  cases p.condition with
  | compare op o foldCase => exact ⟨he.folded foldCase, bound _ foldCase⟩
  | between low high foldCase =>
    exact ⟨he.folded foldCase, bound _ foldCase, bound _ foldCase⟩
  | outside low high foldCase =>
    exact ⟨he.folded foldCase, bound _ foldCase, bound _ foldCase⟩
  | like placement needle negated => exact he
  | empty negated blankText =>
    cases blankText <;> cases negated <;> exact he

theorem counts_fragment (h : Quiet column) : Counts d (p.fragment d column) :=
  (p.quiet_test column h).counts

theorem values_expr : ((p.expr column).fragment d).values = [] := by
  unfold expr
  cases p.projection with
  | timeOfDay => cases d <;> rfl
  | value =>
    cases p.condition.comparesInstants with
    | false => rfl
    | true => cases d <;> rfl

end Predicate

theorem SqlExpr.values_folded (e : SqlExpr) (foldCase : Bool) :
    ((e.folded foldCase).fragment d).values = (e.fragment d).values := by
  cases foldCase with
  | false => rfl
  | true => simp [folded, SqlExpr.fragment, values]

/-- The values that a condition binds, in the order of its operands. -/
def Condition.bindings (d : Dialect) : Condition → List SqlValue
  | compare _ o _ => [.ofOperand d o]
  | between low high _ | outside low high _ => [.ofOperand d low, .ofOperand d high]
  | like placement needle _ => [.text (placement.pattern needle)]
  | empty _ _ => []

theorem Condition.bindings_ofRange {mode : Mode} {low high : Operand} {foldCase : Bool}
    {c : Condition} (built : ofRange mode low high foldCase = some c) :
    c.bindings d = [.ofOperand d low, .ofOperand d high] := by
  cases mode with
  | range | inside | outside =>
    cases built
    rfl
  | _ => cases built

theorem Predicate.values_fragment (p : Predicate) (column : String) :
    (p.fragment d column).values = p.condition.bindings d := by
  have none := p.values_expr (d := d) column
  have operand (v : SqlValue) (foldCase : Bool) :
      (((SqlExpr.bound v).folded foldCase).fragment d).values = [v] := by
    rw [SqlExpr.values_folded]
    rfl
  unfold Predicate.fragment test Condition.bindings
  cases p.condition with
  | compare op o foldCase =>
    simp [SqlTest.fragment, values, SqlExpr.values_folded, none, operand]
  | between low high foldCase =>
    simp [SqlTest.fragment, values, SqlExpr.values_folded, none, operand]
  | outside low high foldCase =>
    simp [SqlTest.fragment, values, SqlExpr.values_folded, none, operand]
  | like placement needle negated => simp [SqlTest.fragment, values, none]
  | empty negated blankText =>
    cases blankText <;> cases negated <;> simp [SqlTest.fragment, values, none]

namespace ColumnTest

def bindings : ColumnTest → List SqlValue
  | null _ | constant _ => []
  | member values _ => values
  | compare _ value => [value]

theorem values_fragment (t : ColumnTest) (column : String) :
    (t.fragment column).values = t.bindings := by
  cases t with
  | null negated => rfl
  | constant outcome => rfl
  | compare op value => rfl
  | member vs negated =>
    simp [ColumnTest.fragment, values, bindings, List.flatMap_map]

theorem counts_fragment (t : ColumnTest) {column : String} (h : Quiet column) :
    Counts d (t.fragment column) := by
  cases t with
  | null negated =>
    refine counts_nil.cons_text (h.append ?_)
    cases negated <;> decide
  | constant outcome =>
    cases outcome with
    | false => exact counts_nil.cons_text (by decide)
    | true => exact counts_nil.cons_text (by decide)
  | member vs negated =>
    have word : Quiet (if negated then " NOT IN (" else " IN (") := by cases negated <;> decide
    have members : Counts d (Fragment.join ", " (vs.map fun v => [.place v])) :=
      (Woven.join (by decide) (by decide) fun v _ => .single (counts_place v)).counts
    exact (members.cons_text (h.append word)).closed (by decide) (by decide)
  | compare op value =>
    have sign : Quiet op.sign := by cases op <;> decide
    have blank : Quiet " " := by decide
    exact (counts_place value).cons_text (((h.append blank).append sign).append blank)

end ColumnTest

/-- Whether names hold neither `?` nor single quotes. -/
def namesBare : QuoteState → List Char → Bool
  | _, [] => true
  | s, c :: rest => !(s == .name && (c == '?' || c == '\'')) && namesBare (s.after c) rest

/-- Whether no `?` outside of quotes runs into a digit. -/
def marksApart : QuoteState → List Char → Bool
  | _, [] => true
  | s, c :: rest =>
    !(s == .outside && c == '?' && startsWithDigit rest) && marksApart (s.after c) rest

/-- A text, read from a state on, whose quotes are balanced, whose names hold neither `?` nor single
quotes, and which has no numbered placeholders of its own. -/
structure PlainFrom (s : QuoteState) (text : List Char) : Prop where
  balanced : s.afterAll text = .outside
  names : namesBare s text = true
  unnumbered : placeholders .postgres s text = []

namespace PlainFrom

variable {s : QuoteState} {c : Char} {rest : List Char}

theorem tail (h : PlainFrom s (c :: rest)) : PlainFrom (s.after c) rest where
  balanced := h.balanced
  names := (Bool.and_eq_true_iff.mp h.names).2
  unnumbered := (List.append_eq_nil_iff.mp h.unnumbered).2

theorem not_name (h : PlainFrom s (c :: rest)) (special : c = '?' ∨ c = '\'') : s ≠ .name := by
  rintro rfl
  have bare := (Bool.and_eq_true_iff.mp h.names).1
  rcases special with rfl | rfl
  · cases bare
  · cases bare

/-- A dollar sign outside of quotes is not followed by a number. -/
theorem not_startsWithDigit (h : PlainFrom .outside ('$' :: rest)) :
    startsWithDigit rest = false := by
  have first := (List.append_eq_nil_iff.mp h.unnumbered).1
  rw [if_pos rfl] at first
  by_contra starts
  have number : ∃ ph, placeholderAt .postgres '$' rest = some ph :=
    ⟨_, if_pos ⟨rfl, eq_true_of_ne_false starts⟩⟩
  obtain ⟨ph, here⟩ := number
  rw [here] at first
  cases first

end PlainFrom

namespace RawQuery

/-- A raw query whose placeholders are found where a database looks for them. -/
def Plain (q : RawQuery) : Prop := PlainFrom .outside q.sql.toList

/-- A raw query none of whose placeholders runs into a digit. -/
def Apart (q : RawQuery) : Prop := marksApart .outside q.sql.toList = true

instance (q : RawQuery) : Decidable q.Apart := inferInstanceAs (Decidable (_ = _))

/-- How a text is cut at its placeholders if there are as many values. -/
inductive Cut : Bool → List Char → List SqlValue → Fragment → Prop where
  | nil (b : Bool) : Cut b [] [] []
  | quote {b : Bool} {rest : List Char} {params : List SqlValue} {f : Fragment}
      (later : Cut (!b) rest params f) : Cut b ('\'' :: rest) params (.text "'" :: f)
  | mark {rest : List Char} {params : List SqlValue} {f : Fragment} (v : SqlValue)
      (later : Cut false rest params f) : Cut false ('?' :: rest) (v :: params) (.place v :: f)
  | other {b : Bool} {c : Char} {rest : List Char} {params : List SqlValue} {f : Fragment}
      (noQuote : c ≠ '\'') (noMark : c = '?' → b = true) (later : Cut b rest params f) :
      Cut b (c :: rest) params (.text (String.singleton c) :: f)

theorem cut_other {b : Bool} {c : Char} {rest : List Char} {params : List SqlValue}
    (noQuote : c ≠ '\'') (noMark : c = '?' → b = true) :
    cut b (c :: rest) params =
      (.text (String.singleton c) :: (cut b rest params).1, (cut b rest params).2) := by
  have unplaced : (c = '?' && !b) = false := by
    by_cases h : c = '?'
    · rw [noMark h, Bool.not_true, Bool.and_false]
    · rw [decide_eq_false h, Bool.false_and]
  exact (if_neg noQuote).trans (if_neg (ne_true_of_eq_false unplaced))

theorem Cut.of_cut {b : Bool} {text : List Char} {params : List SqlValue}
    (h : (cut b text params).2 = none) : Cut b text params (cut b text params).1 := by
  induction text generalizing b params with
  | nil =>
    cases params with
    | nil => exact .nil b
    | cons v params => cases h
  | cons c rest ih =>
    by_cases quote : c = '\''
    · subst quote
      exact .quote (ih h)
    · by_cases mark : c = '?' ∧ b = false
      · obtain ⟨rfl, rfl⟩ := mark
        cases params with
        | nil => cases h
        | cons v params => exact .mark v (ih h)
      · have noMark : c = '?' → b = true := fun hc => eq_true_of_ne_false fun hb => mark ⟨hc, hb⟩
        rw [cut_other quote noMark] at h ⊢
        exact .other quote noMark (ih h)

namespace Cut

variable {b : Bool} {s : QuoteState} {text : List Char} {params : List SqlValue} {f : Fragment}

theorem values_eq (h : Cut b text params f) : f.values = params := by
  induction h with
  | nil => rfl
  | quote _ ih => exact ih
  | mark v _ ih => exact congrArg (v :: ·) ih
  | other _ _ _ ih => exact ih

/-- What is cut begins as the text does, or with a placeholder. -/
theorem fenced (h : Cut b text params f) (starts : startsWithDigit text = false) :
    Fenced d f := by
  cases h with
  | nil => exact fenced_nil
  | quote => exact fenced_text (by decide)
  | mark v => exact fenced_place v
  | @other _ c =>
    have first : c.isDigit = false := starts
    refine fenced_text ?_
    rw [Fence, String.toList_singleton]
    simpa using first

/-- Cut at its placeholders and written again, a text holds one placeholder for each value. Reader
and cutter are in step: one is in a literal when the other is. -/
theorem placeholders_write (h : Cut b text params f) (step : b = (s == .literal))
    (plain : PlainFrom s text) (apart : d = .postgres → marksApart s text = true) (bound : Nat)
    {more : List Char} (ends : startsWithDigit more = false) :
    placeholders d s ((f.write d bound).toList ++ more) =
      placesAfter d bound params.length ++ placeholders d .outside more := by
  induction h generalizing s bound with
  | nil b =>
    have here : s = .outside := plain.balanced
    rw [here, List.length_nil, placesAfter_zero]
    rfl
  | @quote b rest params f later ih =>
    have outer : s ≠ .name := plain.not_name (.inr rfl)
    have next : (!b) = (s.after '\'' == .literal) := by
      rw [QuoteState.after_quote_beq_literal outer, step]
    have written : "'".toList = ['\''] := by decide
    rw [Fragment.write, String.toList_append, written, List.append_assoc, List.singleton_append,
      placeholders_cons_none fun _ => placeholderAt_none _ (by decide) (by decide)]
    exact ih next plain.tail (fun h => (Bool.and_eq_true_iff.mp (apart h)).2) bound
  | @mark rest params f v later ih =>
    have here : s = .outside := by
      cases s with
      | outside => rfl
      | name => exact absurd rfl (plain.not_name (.inl rfl))
      | literal => cases step
    subst here
    have next : d = .postgres →
        startsWithDigit ((f.write d (bound + 1)).toList ++ more) = false := by
      intro hd
      have first : (!startsWithDigit rest) = true := (Bool.and_eq_true_iff.mp (apart hd)).1
      exact startsWithDigit_append (later.fenced (by simpa using first) _) ends
    have read : placeholders d .outside ((f.write d (bound + 1)).toList ++ more) =
        placesAfter d (bound + 1) params.length ++ placeholders d .outside more :=
      ih rfl plain.tail (fun h => (Bool.and_eq_true_iff.mp (apart h)).2) (bound + 1)
    rw [Fragment.write, String.toList_append, List.append_assoc, placeholders_placeholder d _ next,
      read, List.length_cons, placesAfter_succ, List.cons_append]
  | @other b c rest params f noQuote noMark later ih =>
    have next : b = (s.after c == .literal) := by
      rw [s.after_beq_literal noQuote, step]
    have silent : s = .outside →
        placeholderAt d c ((f.write d bound).toList ++ more) = none := by
      rintro rfl
      cases d with
      | sqlite =>
        refine if_neg ?_
        intro mark
        rw [noMark mark] at step
        cases step
      | postgres =>
        refine if_neg ?_
        rintro ⟨rfl, starts⟩
        have first : startsWithDigit (f.write .postgres bound).toList = false :=
          later.fenced plain.not_startsWithDigit bound
        exact absurd starts (ne_true_of_eq_false (startsWithDigit_append first ends))
    rw [Fragment.write, String.toList_append, String.toList_singleton, List.append_assoc,
      List.singleton_append, placeholders_cons_none silent]
    exact ih next plain.tail (fun h => (Bool.and_eq_true_iff.mp (apart h)).2) bound

end Cut

variable {q : RawQuery} {f : Fragment}

theorem pieces_of_fragment (h : q.fragment = .ok f) : q.pieces = (f, none) := by
  unfold fragment at h
  split at h
  · rename_i whole
    cases h
    exact whole
  · cases h

theorem cut_of_fragment (h : q.fragment = .ok f) : Cut false q.sql.toList q.params f := by
  have whole : cut false q.sql.toList q.params = (f, none) := pieces_of_fragment h
  have made : Cut false q.sql.toList q.params (cut false q.sql.toList q.params).1 :=
    .of_cut (congrArg Prod.snd whole)
  rwa [whole] at made

theorem values_of_fragment (h : q.fragment = .ok f) : f.values = q.params :=
  (cut_of_fragment h).values_eq

theorem counts_of_fragment (h : q.fragment = .ok f) (plain : q.Plain)
    (apart : d = .postgres → q.Apart) : Counts d f := by
  intro bound more ends
  have cut := cut_of_fragment h
  rw [cut.values_eq]
  exact cut.placeholders_write rfl plain apart bound ends

end RawQuery

end FieldQuery

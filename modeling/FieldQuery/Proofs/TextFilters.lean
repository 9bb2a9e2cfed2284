import FieldQuery.Proofs.Formulas
import FieldQuery.Proofs.Judging
import FieldQuery.Proofs.Terms
import FieldQuery.Proofs.Wildcards

/-!
# Filters on texts

A term on texts accepts the same values in a table and in memory, null included, if the database
folds letters as records do and its patterns take only equal characters for the same. Main
statement: `text_filter_agrees`.
-/
namespace FieldQuery

variable {r : SqlRules} {d : Dialect}

def FieldValue.ofText? : Option String → FieldValue
  | none => .null
  | some s => .text s

def Datum.ofText? : Option String → Datum
  | none => .null
  | some s => .text s

def SqlRules.LowersTexts (r : SqlRules) : Prop :=
  ∀ o : Option String, r.lower (.ofText? o) = .ofText? (o.map Text.lowerString)

/-- A database that knows texts as records do. -/
structure SqlRules.OnTexts (r : SqlRules) : Prop where
  lower : r.LowersTexts
  alike (a b : Char) : r.alike a b = (a == b)

inductive Condition.Textual : Condition → Prop where
  | compare (op : Comparison) (s : String) (foldCase : Bool) :
      Textual (.compare op (.text s) foldCase)
  | between (low high : String) (foldCase : Bool) :
      Textual (.between (.text low) (.text high) foldCase)
  | outside (low high : String) (foldCase : Bool) :
      Textual (.outside (.text low) (.text high) foldCase)
  | like (placement : Placement) (needle : String) (negated : Bool) :
      Textual (.like placement needle negated)

theorem Condition.textual_of_ofText {mode : Mode} {s : String} {c : Condition}
    (h : Condition.ofText mode s = some c) : c.Textual := by
  have comparison (compared : (comparison true mode).map
      (Condition.compare · (.text s) false) = some c) : c.Textual := by
    obtain ⟨op, -, rfl⟩ := Option.map_eq_some_iff.mp compared
    exact .compare op s false
  cases mode with
  | equal | nequal =>
    cases h
    exact .compare _ s true
  | contains | ncontains | startsWith | endsWith =>
    cases h
    exact .like _ _ _
  | _ => exact comparison h

theorem Condition.textual_of_ofRange {mode : Mode} {low high : String} {c : Condition}
    (h : Condition.ofRange mode (.text low) (.text high) true = some c) : c.Textual := by
  cases mode with
  | range | inside =>
    cases h
    exact .between low high true
  | outside =>
    cases h
    exact .outside low high true
  | _ => cases h

/-- The value of a term on texts that does not ask for emptiness is a text, or has two of them. -/
theorem Term.typed_of_text {t : Term} {value : TypedValue} (texts : t.dataType = .text)
    (asks : t.mode.asksEmptiness = false) (h : t.typed = .ok value) :
    (∃ s, value = .text s) ∨ ∃ r, value = .textRange r := by
  have dataType := (dataType_of_compares asks h).1
  rw [texts] at dataType
  cases value with
  | text s => exact .inl ⟨s, rfl⟩
  | textRange r => exact .inr ⟨r, rfl⟩
  | _ => cases dataType

/-- A term on texts asks for emptiness, or compares with texts. -/
theorem Term.predicate_of_text {t : Term} {p : Predicate} (texts : t.dataType = .text)
    (h : t.predicate = .ok p) :
    t.mode.asksEmptiness = true ∧ p = ⟨.value, .empty (t.mode == .isNotEmpty) true⟩ ∨
      t.mode.asksEmptiness = false ∧ ∃ c : Condition, c.Textual ∧ p = ⟨.value, c⟩ := by
  cases asks : t.mode.asksEmptiness with
  | true =>
    have empty := predicate_of_asks asks h
    rw [texts] at empty
    exact .inl ⟨rfl, empty⟩
  | false =>
    obtain ⟨value, typed, built, read⟩ := (predicate_ok_iff asks).mp h
    obtain ⟨projection, condition⟩ := p
    rw [texts] at read
    cases read
    refine .inr ⟨rfl, condition, ?_, rfl⟩
    rcases typed_of_text texts asks typed with ⟨s, rfl⟩ | ⟨r, rfl⟩
    · exact Condition.textual_of_ofText (Except.ok.inj built)
    · exact Condition.textual_of_ofRange (Except.ok.inj built)

def foldedText (foldCase : Bool) (s : String) : String :=
  if foldCase then Text.lowerString s else s

/-- Texts are compared alike in both places. -/
theorem compare_text (foldCase : Bool) (s t : String) :
    (FieldValue.text t).compare foldCase (.text s) =
      .ok (some (compare (foldedText foldCase t) (foldedText foldCase s))) := by
  cases foldCase <;> rfl

theorem compares_text (op : Comparison) (s t : String) :
    SqlTest.compares op (.text s) (.text t) = some (op.holds (compare s t)) := rfl

theorem and_some (a b : Bool) : Truth.and (some a) (some b) = some (a && b) := by
  cases a <;> cases b <;> rfl

theorem or_some (a b : Bool) : Truth.or (some a) (some b) = some (a || b) := by
  cases a <;> cases b <;> rfl

/-- A text within bounds, as records are judged. -/
theorem meets_between (low high : String) (foldCase : Bool) (t : String) :
    (Condition.between (.text low) (.text high) foldCase).meets (.text t) =
      .ok (Comparison.gte.holds (compare (foldedText foldCase t) (foldedText foldCase low)) &&
        Comparison.lte.holds (compare (foldedText foldCase t) (foldedText foldCase high))) := by
  rw [Comparison.holds_gte, Comparison.holds_lte]
  exact Condition.meets_between_of (compare_text foldCase low t) (compare_text foldCase high t)

theorem meets_outside (low high : String) (foldCase : Bool) (t : String) :
    (Condition.outside (.text low) (.text high) foldCase).meets (.text t) =
      .ok (Comparison.lt.holds (compare (foldedText foldCase t) (foldedText foldCase low)) ||
        Comparison.gt.holds (compare (foldedText foldCase t) (foldedText foldCase high))) := by
  rw [Comparison.holds_lt, Comparison.holds_gt, ← Bool.not_and]
  exact Condition.meets_outside_of (compare_text foldCase low t) (compare_text foldCase high t)

namespace SqlRules.OnTexts

variable (rules : r.OnTexts) {stored : Datum} {column : String} {c : Condition}

include rules

theorem value_column_null (foldCase : Bool) :
    ((SqlExpr.column column).folded foldCase).value r d .null = .null := by
  cases foldCase with
  | false => rfl
  | true => exact rules.lower none

theorem value_column_text (foldCase : Bool) (t : String) :
    ((SqlExpr.column column).folded foldCase).value r d (.text t) =
      .text (foldedText foldCase t) := by
  cases foldCase with
  | false => rfl
  | true => exact rules.lower (some t)

theorem value_bound (foldCase : Bool) (s : String) :
    ((SqlExpr.bound (.text s)).folded foldCase).value r d stored =
      .text (foldedText foldCase s) := by
  cases foldCase with
  | false => rfl
  | true => exact rules.lower (some s)

/-- Of null a comparison with texts is not known. -/
theorem truth_null (h : c.Textual) :
    (Predicate.test d ⟨.value, c⟩ column).truth r d .null = none := by
  cases h with
  | compare op s foldCase =>
    change SqlTest.compares op (((SqlExpr.column column).folded foldCase).value r d .null) _ = none
    rw [rules.value_column_null]
    rfl
  | between low high foldCase =>
    change Truth.and
      (SqlTest.compares .gte (((SqlExpr.column column).folded foldCase).value r d .null) _)
      (SqlTest.compares .lte (((SqlExpr.column column).folded foldCase).value r d .null) _) = none
    rw [rules.value_column_null]
    rfl
  | outside low high foldCase =>
    change Truth.or
      (SqlTest.compares .lt (((SqlExpr.column column).folded foldCase).value r d .null) _)
      (SqlTest.compares .gt (((SqlExpr.column column).folded foldCase).value r d .null) _) = none
    rw [rules.value_column_null]
    rfl
  | like placement needle negated =>
    change (r.like? (r.lower (.ofText? none)) _).map (· != negated) = none
    rw [rules.lower]
    rfl

/-- Of a text it is known, and it is what a record with this text comes to. -/
theorem truth_text (h : c.Textual) (t : String) :
    ∃ b, (Predicate.test d ⟨.value, c⟩ column).truth r d (.text t) = some b ∧
      c.meets (.text t) = .ok b := by
  cases h with
  | compare op s foldCase =>
    refine ⟨op.holds (compare (foldedText foldCase t) (foldedText foldCase s)), ?_, ?_⟩
    · change SqlTest.compares op (((SqlExpr.column column).folded foldCase).value r d (.text t))
        (((SqlExpr.bound (.text s)).folded foldCase).value r d (.text t)) = _
      rw [rules.value_column_text, rules.value_bound, compares_text]
    · rw [Condition.meets, compare_text]
      rfl
  | between low high foldCase =>
    refine ⟨Comparison.gte.holds (compare (foldedText foldCase t) (foldedText foldCase low)) &&
      Comparison.lte.holds (compare (foldedText foldCase t) (foldedText foldCase high)), ?_, ?_⟩
    · change Truth.and
        (SqlTest.compares .gte (((SqlExpr.column column).folded foldCase).value r d (.text t))
          (((SqlExpr.bound (.text low)).folded foldCase).value r d (.text t)))
        (SqlTest.compares .lte (((SqlExpr.column column).folded foldCase).value r d (.text t))
          (((SqlExpr.bound (.text high)).folded foldCase).value r d (.text t))) = _
      rw [rules.value_column_text, rules.value_bound, rules.value_bound, compares_text,
        compares_text, and_some]
    · exact meets_between low high foldCase t
  | outside low high foldCase =>
    refine ⟨Comparison.lt.holds (compare (foldedText foldCase t) (foldedText foldCase low)) ||
      Comparison.gt.holds (compare (foldedText foldCase t) (foldedText foldCase high)), ?_, ?_⟩
    · change Truth.or
        (SqlTest.compares .lt (((SqlExpr.column column).folded foldCase).value r d (.text t))
          (((SqlExpr.bound (.text low)).folded foldCase).value r d (.text t)))
        (SqlTest.compares .gt (((SqlExpr.column column).folded foldCase).value r d (.text t))
          (((SqlExpr.bound (.text high)).folded foldCase).value r d (.text t))) = _
      rw [rules.value_column_text, rules.value_bound, rules.value_bound, compares_text,
        compares_text, or_some]
    · exact meets_outside low high foldCase t
  | like placement needle negated =>
    refine ⟨placement.finds needle.toList (Text.lower t.toList) != negated, ?_, rfl⟩
    change (r.like? (r.lower (.ofText? (some t))) (.text (placement.pattern needle))).map
      (· != negated) = _
    rw [rules.lower]
    change some (r.matchesPattern (placement.pattern needle).toList
      (Text.lowerString t).toList != negated) = _
    rw [r.matches_pattern_eq_finds rules.alike, Text.lowerString, String.toList_ofList]

end SqlRules.OnTexts

theorem holds_eq_empty (s : String) : Comparison.eq.holds (compare s "") = s.isEmpty := by
  refine Bool.eq_iff_iff.mpr ?_
  rw [Comparison.holds, beq_iff_eq, Std.LawfulEqCmp.compare_eq_iff_eq, String.isEmpty_iff]

theorem holds_ne_empty (s : String) : Comparison.ne.holds (compare s "") = !s.isEmpty := by
  rw [← holds_eq_empty]
  rfl

/-- Questions of emptiness need no rules. -/
theorem truth_empty (negated : Bool) (column : String) (o : Option String) :
    (Predicate.test d ⟨.value, .empty negated true⟩ column).truth r d (.ofText? o) =
      some ((FieldValue.ofText? o).isEmpty true != negated) := by
  cases o with
  | none => cases negated <;> rfl
  | some s =>
    cases negated with
    | false =>
      change Truth.or (some false) (SqlTest.compares .eq (.text s) (.text "")) = _
      rw [compares_text, or_some, holds_eq_empty]
      simp [FieldValue.ofText?, FieldValue.isEmpty]
    | true =>
      change Truth.and (some true) (SqlTest.compares .ne (.text s) (.text "")) = _
      rw [compares_text, and_some, holds_ne_empty]
      simp [FieldValue.ofText?, FieldValue.isEmpty]

/-- No condition on texts is met by null. -/
theorem Condition.Textual.judge_null {c : Condition} (h : c.Textual) :
    Predicate.judge ⟨.value, c⟩ .null = .ok false := by
  rw [Predicate.judge_null]
  cases h <;> rfl

/-- A term on texts judges a record by what its test says of the row. -/
theorem Term.judge_of_text {t : Term} {p : Predicate} (texts : t.dataType = .text)
    (compiled : t.predicate = .ok p) (rules : r.OnTexts) (column : String) (o : Option String) :
    p.judge (.ofText? o) = .ok ((p.test d column).truth r d (.ofText? o) == some true) := by
  rcases t.predicate_of_text texts compiled with ⟨-, rfl⟩ | ⟨-, c, textual, rfl⟩
  · rw [truth_empty]
    change Except.ok ((FieldValue.ofText? o).isEmpty true != (t.mode == .isNotEmpty)) = _
    rw [Option.some_beq_some, beq_true]
  · cases o with
    | none =>
      have unknown : (Predicate.test d ⟨.value, c⟩ column).truth r d .null = none :=
        rules.truth_null textual
      change Predicate.judge ⟨.value, c⟩ .null = .ok (SqlTest.truth r d .null _ == some true)
      rw [unknown, textual.judge_null]
      rfl
    | some s =>
      obtain ⟨b, known, meets⟩ :
          ∃ b, (Predicate.test d ⟨.value, c⟩ column).truth r d (.text s) = some b ∧
            c.meets (.text s) = .ok b := rules.truth_text textual s
      change Predicate.judge ⟨.value, c⟩ (.text s) =
        .ok (SqlTest.truth r d (.text s) _ == some true)
      have judged := Predicate.judge_value (v := .text s) (by rintro ⟨⟩) c
      rw [known, judged, meets, Option.some_beq_some, beq_true]

/-- A filter on texts, written for a column with any values bound before and after its own, is read
as a formula that is true of a row exactly when a record with the same text, or without one, is
accepted; no record is refused. Of null it is true only where emptiness is asked for. A search finds
the needle as it stands, whatever characters it has. -/
theorem text_filter_agrees {t : Term} {p : Predicate} (texts : t.dataType = .text)
    (compiled : t.predicate = .ok p) (rules : r.OnTexts) (d : Dialect) (c : ColumnRef)
    (row : TableRow) (o : Option String) (stored : row c = .ofText? o)
    (before after : List SqlValue) :
    ∃ q : Formula, Formula.read d before.length
        (before ++ (p.fragment d c.qualified).values ++ after)
        ((p.fragment d c.qualified).write d before.length) = some q ∧
      (q.truth r row = some true ↔ p.judge (.ofText? o) = .ok true) ∧
      (∃ b, p.judge (.ofText? o) = .ok b) ∧
      (o = none → (q.truth r row = some true ↔ t.mode = .isEmpty)) ∧
      ∀ s placement needle negated, o = some s → p.condition = .like placement needle negated →
        (q.truth r row = some true ↔
          (placement.finds needle.toList (Text.lower s.toList) != negated) = true) := by
  obtain ⟨q, read, truth⟩ := p.read_fragment c (d := d) r row before after
  have judged := Term.judge_of_text (d := d) texts compiled rules c.qualified o
  rw [stored] at truth
  rw [← truth] at judged
  have accepted : q.truth r row = some true ↔ p.judge (.ofText? o) = .ok true := by
    rw [judged, Except.ok.injEq, beq_iff_eq]
  refine ⟨q, read, accepted, ⟨_, judged⟩, ?_, ?_⟩
  · rintro rfl
    rw [accepted]
    rcases t.predicate_of_text texts compiled with ⟨asks, rfl⟩ | ⟨asks, e, textual, rfl⟩
    · change Except.ok (true != (t.mode == .isNotEmpty)) = Except.ok true ↔ _
      cases mode : t.mode <;> simp [mode, Mode.asksEmptiness] at asks ⊢
    · change Predicate.judge ⟨.value, e⟩ .null = .ok true ↔ _
      rw [textual.judge_null]
      constructor
      · intro h
        cases h
      · intro mode
        rw [mode] at asks
        cases asks
  · rintro s placement needle negated rfl like
    obtain ⟨projection, condition⟩ := p
    cases like
    rcases t.predicate_of_text texts compiled with ⟨-, other⟩ | ⟨-, e, -, same⟩
    · cases other
    · cases same
      rw [accepted]
      exact ⟨Except.ok.inj, congrArg Except.ok⟩

namespace Sample

def foldingRules : SqlRules where
  lower
    | .text s => .text (Text.lowerString s)
    | x => x
  alike a b := a == b
  timeOfDay x := x
  instant x := x

theorem foldingRules_onTexts : foldingRules.OnTexts where
  lower o := by cases o <;> rfl
  alike _ _ := rfl

def discount : Term :=
  { field := "note", value := .str "50%_OFF", mode := .contains, declared := some .text }

def discountColumn : ColumnRef := ⟨"orders", "note"⟩

def discountRow : TableRow := fun _ => .text "now 50%_off!"

end Sample

open Sample in
theorem text_filter_agrees_discount :
    discount.dataType = .text ∧
    discount.predicate = .ok ⟨.value, .like .anywhere (Text.lowerString "50%_OFF") false⟩ ∧
    foldingRules.OnTexts ∧ discountRow discountColumn = .ofText? (some "now 50%_off!") ∧
    ∃ q : Formula, Formula.read .postgres 1 [.int 7, .text "%50\\%\\_off%"]
        "LOWER(\"orders\".\"note\") LIKE $2 ESCAPE '\\'" = some q ∧
      q.truth foldingRules discountRow = some true := by
  have compiled : discount.predicate =
    .ok ⟨.value, .like .anywhere (Text.lowerString "50%_OFF") false⟩ := rfl
  obtain ⟨q, read, -, -, -, literal⟩ := text_filter_agrees rfl compiled foldingRules_onTexts
    .postgres discountColumn discountRow (some "now 50%_off!") rfl [.int 7] []
  have lower : Text.lowerString "50%_OFF" = "50%_off" := by decide +kernel
  have found : (Placement.anywhere.finds (Text.lowerString "50%_OFF").toList
      (Text.lower "now 50%_off!".toList) != false) = true := by decide +kernel
  rw [lower] at read
  exact ⟨rfl, compiled, foldingRules_onTexts, rfl, q, read, (literal _ _ _ _ rfl rfl).mpr found⟩

end FieldQuery

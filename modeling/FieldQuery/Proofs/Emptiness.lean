import FieldQuery.Proofs.LetterFolding
import FieldQuery.Proofs.TextFilters

/-!
# Questions of emptiness

A record is asked for emptiness before anything is made of its value, while a table is asked about
what the filter reads of the column. For times that is the time of day, and a database has none for
a text that is not a time. Such a text is empty to the table though the record holds it; all else is
empty in both places or in neither. Main statement: `emptiness_agrees_iff`.
-/
namespace FieldQuery

/-- What a record and a row hold alike. A row keeps truth values as 0 and 1; an instant, a day or a
time of day may be kept in any form, but neither as null nor as the empty text. -/
inductive FieldValue.HeldAs : FieldValue → Datum → Prop where
  | null : HeldAs .null .null
  | int (n : Int) : HeldAs (.int n) (.int n)
  | uint (n : Nat) : HeldAs (.uint n) (.int n)
  | float (x : Number) : HeldAs (.float x) (.real x)
  | bool (b : Bool) : HeldAs (.bool b) (.int (if b then 1 else 0))
  | text (s : String) : HeldAs (.text s) (.text s)
  | instant (m : Moment) {x : Datum} (there : x ≠ .null) (written : x ≠ .text "") :
      HeldAs (.instant m) x
  | date (d : Day) {x : Datum} (there : x ≠ .null) (written : x ≠ .text "") : HeldAs (.date d) x
  | clock (c : Clock) {x : Datum} (there : x ≠ .null) (written : x ≠ .text "") :
      HeldAs (.clock c) x

theorem isEmpty_eq_decide (s : String) : s.isEmpty = (s = "" : Bool) := by
  apply Bool.eq_iff_iff.mpr
  rw [decide_eq_true_iff, String.isEmpty_iff]

/-- Whether a stored value is null, or the empty text where that counts. -/
def Datum.isEmpty (blankText : Bool) (x : Datum) : Bool :=
  x = .null || blankText && x = .text ""

/-- A value is empty in a record exactly if it is in a row. -/
theorem FieldValue.HeldAs.isEmpty_eq {v : FieldValue} {x : Datum} (h : v.HeldAs x)
    (blankText : Bool) : x.isEmpty blankText = v.isEmpty blankText := by
  cases h with
  | text s => simp [Datum.isEmpty, FieldValue.isEmpty, isEmpty_eq_decide]
  | instant _ there written | date _ there written | clock _ there written =>
    simp [Datum.isEmpty, FieldValue.isEmpty, there, written]
  | _ => simp [Datum.isEmpty, FieldValue.isEmpty]

theorem FieldValue.HeldAs.eq_null_iff {v : FieldValue} {x : Datum} (h : v.HeldAs x) :
    x = .null ↔ v = .null := by
  cases h with
  | instant _ there _ | date _ there _ | clock _ there _ => simp [there]
  | _ => simp

/-- Only the empty text equals the empty text; of null it is not known. -/
theorem compares_empty {x : Datum} (there : x ≠ .null) :
    SqlTest.compares .eq x (.text "") = some (x = .text "" : Bool) ∧
      SqlTest.compares .ne x (.text "") = some (x ≠ .text "" : Bool) := by
  cases x with
  | null => exact absurd rfl there
  | text s =>
    rw [compares_text, compares_text, holds_eq_empty, holds_ne_empty, isEmpty_eq_decide]
    simp
  | int _ | real _ | instant _ => exact ⟨rfl, rfl⟩

/-- The test for emptiness is always known, and it is about what is read of the column. -/
theorem Predicate.truth_emptiness (r : SqlRules) (d : Dialect) (stored : Datum)
    (projection : Projection) (negated blankText : Bool) (column : String) :
    (Predicate.test d ⟨projection, .empty negated blankText⟩ column).truth r d stored =
      some (((Predicate.expr ⟨projection, .empty negated blankText⟩ column).value r d
        stored).isEmpty blankText != negated) := by
  generalize read :
    (Predicate.expr ⟨projection, .empty negated blankText⟩ column).value r d stored = x
  cases blankText with
  | false => cases negated <;> simp [Predicate.test, SqlTest.truth, read, Datum.isEmpty]
  | true =>
    by_cases there : x = .null
    · subst there
      cases negated <;> simp only [Predicate.test, SqlTest.truth, read] <;> rfl
    · obtain ⟨equal, unequal⟩ := compares_empty there
      cases negated with
      | false =>
        simp only [Predicate.test, SqlTest.truth, read]
        rw [equal, or_some]
        simp [Datum.isEmpty]
      | true =>
        simp only [Predicate.test, SqlTest.truth, read]
        rw [unequal, and_some]
        simp [Datum.isEmpty]

namespace Term

variable {r : SqlRules} {t : Term} {p : Predicate} {v : FieldValue} {x : Datum}

/-- What is read of a column where a term asks for emptiness. -/
def seen (r : SqlRules) (t : Term) (x : Datum) : Datum :=
  if t.dataType = .time then r.timeOfDay x else x

/-- A term that asks for emptiness puts its question to what it reads of the column. -/
theorem truth_of_asks (asks : t.mode.asksEmptiness = true) (compiled : t.predicate = .ok p)
    (d : Dialect) (column : String) :
    (p.test d column).truth r d x =
      some ((t.seen r x).isEmpty (t.dataType == .text) != (t.mode == .isNotEmpty)) := by
  have expr : (p.expr column).value r d x = t.seen r x := by
    rw [predicate_of_asks asks compiled]
    cases kind : t.dataType <;> simp [seen, kind, DataType.projection, Predicate.expr,
      Condition.comparesInstants, SqlExpr.value]
  rw [← expr, predicate_of_asks asks compiled]
  exact Predicate.truth_emptiness r d x _ _ _ column

/-- A record is asked about the value itself. -/
theorem judge_of_asks (asks : t.mode.asksEmptiness = true) (compiled : t.predicate = .ok p) :
    p.judge v = .ok (v.isEmpty (t.dataType == .text) != (t.mode == .isNotEmpty)) := by
  rw [predicate_of_asks asks compiled]
  rfl

/-- Both questions have one answer unless the term reads a time of day of a value and there is
none. -/
theorem seen_isEmpty_iff (nothing : r.timeOfDay .null = .null) (held : v.HeldAs x) :
    (t.seen r x).isEmpty (t.dataType == .text) = v.isEmpty (t.dataType == .text) ↔
      (t.dataType = .time → r.timeOfDay x = .null → v = .null) := by
  by_cases time : t.dataType = .time
  · have plain : (t.dataType == DataType.text) = false := by rw [time]; rfl
    have table : (t.seen r x).isEmpty false = (r.timeOfDay x = .null : Bool) := by
      simp [seen, time, Datum.isEmpty]
    have record : v.isEmpty false = (x = .null : Bool) := by
      rw [← held.isEmpty_eq]
      simp [Datum.isEmpty]
    rw [plain, table, record, decide_eq_decide, held.eq_null_iff]
    constructor
    · intro same _ unread
      exact same.mp unread
    · intro only
      constructor
      · exact only time
      · intro null
        rw [held.eq_null_iff.mpr null]
        exact nothing
  · have column : t.seen r x = x := if_neg time
    rw [column, held.isEmpty_eq]
    constructor
    · intro _ other
      exact absurd other time
    · intro _
      rfl

end Term

/-- A filter that asks for emptiness, written for a column with any values bound before and after
its own, is read as a formula that is known of every row, and no record is refused. Where a row and
a record hold one value alike, the formula is true of the row exactly when the record is accepted,
unless the filter is on times and the database has no time of day for a value that is there. Of such
a value the table says that it is empty, and the record that it is not. -/
theorem emptiness_agrees_iff {r : SqlRules} (nothing : r.timeOfDay .null = .null) {t : Term}
    {p : Predicate} (asks : t.mode.asksEmptiness = true) (compiled : t.predicate = .ok p)
    (c : ColumnRef) (row : TableRow) {v : FieldValue} (held : v.HeldAs (row c))
    (before after : List SqlValue) :
    ∃ q : Formula, Formula.read .sqlite before.length
        (before ++ (p.fragment .sqlite c.qualified).values ++ after)
        ((p.fragment .sqlite c.qualified).write .sqlite before.length) = some q ∧
      (∃ known, q.truth r row = some known) ∧
      (∃ accepted, p.judge v = .ok accepted) ∧
      ((q.truth r row = some true ↔ p.judge v = .ok true) ↔
        (t.dataType = .time → r.timeOfDay (row c) = .null → v = .null)) ∧
      (t.dataType = .time → r.timeOfDay (row c) = .null → v ≠ .null →
        q.truth r row = some (t.mode == .isEmpty) ∧ p.judge v = .ok (t.mode == .isNotEmpty)) := by
  obtain ⟨q, read, truth⟩ := p.read_fragment c (d := .sqlite) r row before after
  rw [Term.truth_of_asks asks compiled] at truth
  have judged := Term.judge_of_asks (v := v) asks compiled
  refine ⟨q, read, ⟨_, truth⟩, ⟨_, judged⟩, ?_, ?_⟩
  · rw [truth, judged, Option.some.injEq, Except.ok.injEq, ← Bool.eq_iff_iff,
      Bool.bne_left_inj]
    exact Term.seen_isEmpty_iff nothing held
  · intro time unread there
    have stored : row c ≠ .null := mt held.eq_null_iff.mp there
    have table : (t.seen r (row c)).isEmpty false = true := by
      simp [Term.seen, time, unread, Datum.isEmpty]
    have record : v.isEmpty false = false := by
      rw [← held.isEmpty_eq]
      simp [stored, Datum.isEmpty]
    have plain : (t.dataType == DataType.text) = false := by rw [time]; rfl
    rw [plain, table] at truth
    rw [plain, record] at judged
    rw [truth, judged]
    cases mode : t.mode <;> simp [mode, Mode.asksEmptiness] at asks ⊢

namespace Sample

/-- A database that has the time of day of a text exactly if records can read one. -/
def clockRules : SqlRules :=
  { asciiRules with
    timeOfDay := fun
      | .text s =>
        match Clock.read? s.toList with
        | some c => .text (String.ofList c.wholeSeconds.text)
        | none => .null
      | x => x }

def unopened : Term :=
  { field := "opens", value := .null, mode := .isEmpty, declared := some .time }

def opensColumn : ColumnRef := ⟨"shops", "opens"⟩

def opensAt (s : String) : TableRow := fun _ => .text s

end Sample

open Sample in
theorem emptiness_agrees_iff_opening :
    (clockRules.timeOfDay .null = .null ∧ unopened.mode.asksEmptiness = true ∧
      unopened.predicate = .ok ⟨.timeOfDay, .empty false false⟩ ∧
      FieldValue.HeldAs (.text "08:30") (opensAt "08:30" opensColumn)) ∧
    ∃ q : Formula, Formula.read .sqlite 0 [] "time(\"shops\".\"opens\") IS NULL" = some q ∧
      (q.truth clockRules (opensAt "08:30") = some true ↔
        Predicate.judge ⟨.timeOfDay, .empty false false⟩ (.text "08:30") = .ok true) := by
  have read : clockRules.timeOfDay (opensAt "08:30" opensColumn) = .text "08:30:00" := by
    decide +kernel
  have held : FieldValue.HeldAs (.text "08:30") (opensAt "08:30" opensColumn) := .text "08:30"
  obtain ⟨q, formula, -, -, agrees, -⟩ := emptiness_agrees_iff (r := clockRules) rfl
    (t := unopened) rfl rfl opensColumn (opensAt "08:30") held [] []
  refine ⟨⟨rfl, rfl, rfl, held⟩, q, formula, ?_⟩
  apply agrees.mpr
  intro _ unread
  rw [read] at unread
  cases unread

open Sample in
/-- A text that is not a time stands in the column, and still the table calls it empty. -/
theorem unreadable_time_empty_in_table :
    unopened.predicate = .ok ⟨.timeOfDay, .empty false false⟩ ∧
    clockRules.timeOfDay .null = .null ∧
    FieldValue.HeldAs (.text "soon") (opensAt "soon" opensColumn) ∧
    Predicate.judge ⟨.timeOfDay, .empty false false⟩ (.text "soon") = .ok false ∧
    ∃ q : Formula, Formula.read .sqlite 0 [] "time(\"shops\".\"opens\") IS NULL" = some q ∧
      q.truth clockRules (opensAt "soon") = some true := by
  have unread : clockRules.timeOfDay (.text "soon") = .null := by decide +kernel
  obtain ⟨q, formula, truth⟩ := Predicate.read_fragment (d := .sqlite)
    ⟨.timeOfDay, .empty false false⟩ opensColumn clockRules (opensAt "soon") [] []
  refine ⟨rfl, rfl, .text "soon", rfl, q, formula, ?_⟩
  rw [truth, Predicate.truth_emptiness]
  simp [Predicate.expr, SqlExpr.value, opensAt, unread, Datum.isEmpty]

end FieldQuery

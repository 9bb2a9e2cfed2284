import FieldQuery.Proofs.Reading

/-!
# Tests as clauses

What a test writes can stand among conjuncts: its parentheses are balanced and no disjunction stands
outside of them, whatever the names of columns are. A raw query in parentheses can stand there as
well, if its own are balanced. Main statements: `SqlTest.Qualified.reads`,
`ColumnTest.reads_fragment` and `RawQuery.Nested.reads`.
-/
namespace FieldQuery

open Statement

variable {d : Dialect}

/-- A text that is read by itself wherever it stands between others. -/
def Spaced (s : String) (ls : List Lexeme) : Prop :=
  lexemes s.toList = some ls ∧ Fresh s ∧ Loose s

instance (s : String) (ls : List Lexeme) : Decidable (Spaced s ls) :=
  inferInstanceAs (Decidable (_ ∧ _ ∧ _))

/-- A text that opens a parenthesis, with what is read before and after it. -/
def Opens (s : String) (a b : List Lexeme) : Prop :=
  lexemes s.toList = some (a ++ .sign '(' :: b) ∧ Plain a ∧ Nests b ∧ Loose s

instance (s : String) (a b : List Lexeme) : Decidable (Opens s a b) :=
  inferInstanceAs (Decidable (_ ∧ _ ∧ _ ∧ _))

def Closes (s : String) (a b : List Lexeme) : Prop :=
  lexemes s.toList = some (a ++ .sign ')' :: b) ∧ Nests a ∧ Plain b ∧ Fresh s

instance (s : String) (a b : List Lexeme) : Decidable (Closes s a b) :=
  inferInstanceAs (Decidable (_ ∧ _ ∧ _ ∧ _))

def Closing (ls : List Lexeme) : Prop :=
  ∃ a b, ls = a ++ .sign ')' :: b ∧ Nests a ∧ Plain b

namespace Fragment

/-- What is read of a fragment has a property, however many values are placed before it. -/
def Reads (d : Dialect) (good : List Lexeme → Prop) (f : Fragment) : Prop :=
  ∀ n, ∃ ls, lexemes (f.write d n).toList = some ls ∧ good ls

/-- A fragment that goes on with no lexeme before it. -/
def Breaking (d : Dialect) (f : Fragment) : Prop := ∀ n, Fresh (f.write d n)

variable {f g : Fragment} {s : String} {l a b : List Lexeme} {P Q R : List Lexeme → Prop}

theorem breaking_text (h : Fresh s) : Breaking d (.text s :: f) := fun _ => h.append _

theorem Reads.mono (h : Reads d P f) (weaker : ∀ ls, P ls → Q ls) : Reads d Q f := by
  intro n
  obtain ⟨ls, read, good⟩ := h n
  exact ⟨ls, read, weaker ls good⟩

theorem reads_text (read : lexemes s.toList = some l) (good : P l) : Reads d P [.text s] := by
  intro n
  rw [write_text]
  exact ⟨l, read, good⟩

/-- Only the text of a fragment is read. -/
theorem Reads.of_write (h : Reads d P f) (same : ∀ n, g.write d n = f.write d n) :
    Reads d P g := by
  intro n
  rw [same]
  exact h n

theorem Reads.append (hf : Reads d P f) (hg : Reads d Q g) (breaking : Breaking d g)
    (both : ∀ a b, P a → Q b → R (a ++ b)) : Reads d R (f ++ g) := by
  intro n
  obtain ⟨a, readA, goodA⟩ := hf n
  obtain ⟨b, readB, goodB⟩ := hg (n + f.values.length)
  refine ⟨a ++ b, ?_, both a b goodA goodB⟩
  rw [write_append]
  exact lexemes_append readA readB (.inr (breaking _))

theorem Reads.cons_text (read : lexemes s.toList = some l) (loose : Loose s) (hf : Reads d P f)
    (both : ∀ a, P a → Q (l ++ a)) : Reads d Q (.text s :: f) := by
  intro n
  obtain ⟨a, readA, good⟩ := hf n
  exact ⟨l ++ a, lexemes_append read readA (.inl loose), both a good⟩

/-- Two fragments with a text between them. -/
theorem Reads.around (hf : Reads d P f) (hg : Reads d Q g) (spaced : Spaced s l)
    (both : ∀ a b, P a → Q b → R (a ++ (l ++ b))) : Reads d R (f ++ [.text s] ++ g) := by
  obtain ⟨read, fresh, loose⟩ := spaced
  rw [List.append_assoc]
  have second : Reads d (fun b => ∃ c, b = l ++ c ∧ Q c) (.text s :: g) :=
    hg.cons_text read loose fun c good => ⟨c, rfl, good⟩
  refine hf.append second (breaking_text fresh) ?_
  rintro a _ good ⟨c, rfl, goodC⟩
  exact both a c good goodC

/-- A parenthesis that a text opens and a fragment closes. -/
theorem Reads.call (opens : Opens s a b) (hf : Reads d Nests f) (hg : Reads d Closing g)
    (breaking : Breaking d g) : Reads d Plain (.text s :: (f ++ g)) := by
  obtain ⟨read, plain, own, loose⟩ := opens
  have inner : Reads d (fun ls => ∃ c e, ls = c ++ e ∧ Nests c ∧ Closing e) (f ++ g) :=
    hf.append hg breaking fun c e balanced closing => ⟨c, e, rfl, balanced, closing⟩
  refine inner.cons_text read loose ?_
  rintro _ ⟨c, _, rfl, balanced, e, after, rfl, own', plain'⟩
  have whole := plain.call ((own.append balanced).append own') plain'
  simpa using whole

theorem Reads.balanced (h : Reads d Plain f) : Reads d Nests f := h.mono fun _ => Plain.balanced

theorem Reads.plain_around (hf : Reads d Plain f) (hg : Reads d Plain g) (spaced : Spaced s l)
    (plain : Plain l) : Reads d Plain (f ++ [.text s] ++ g) :=
  hf.around hg spaced fun _ _ ha hb => ha.append (plain.append hb)

theorem Reads.balanced_around (hf : Reads d Nests f) (hg : Reads d Nests g)
    (spaced : Spaced s l) (balanced : Nests l) : Reads d Nests (f ++ [.text s] ++ g) :=
  hf.around hg spaced fun _ _ ha hb => ha.append (balanced.append hb)

theorem Reads.closed (hf : Reads d Plain f) (read : lexemes s.toList = some l) (fresh : Fresh s)
    (plain : Plain l) : Reads d Plain (f ++ [.text s]) :=
  hf.append (reads_text read plain) (breaking_text fresh) fun _ _ => Plain.append

theorem Reads.enclosed (h : Reads d P f) :
    Reads d (fun ls => ∃ inner, ls = enclose inner ∧ P inner) f.enclosed := by
  have closing : Reads d (· = [.sign ')']) [.text ")"] := reads_text rfl rfl
  have inner : Reads d (fun ls => ∃ a, ls = a ++ [.sign ')'] ∧ P a) (f ++ [.text ")"]) :=
    h.append closing (breaking_text (by decide)) fun a b good hb => ⟨a, by rw [hb], good⟩
  refine inner.cons_text (s := "(") (l := [.sign '(']) rfl (by decide) ?_
  rintro _ ⟨a, rfl, good⟩
  exact ⟨a, rfl, good⟩

/-- A fragment is read as some lexemes, with a number of values placed before it. -/
def ReadAs (d : Dialect) (f : Fragment) (ls : List Lexeme) : Prop :=
  ∃ n, lexemes (f.write d n).toList = some ls

theorem Reads.known (h : Reads d P f) : Reads d (fun ls => P ls ∧ ReadAs d f ls) f := by
  intro n
  obtain ⟨ls, read, good⟩ := h n
  exact ⟨ls, read, good, n, read⟩

theorem reads_place (v : SqlValue) : Reads d Plain [.place v] := by
  intro n
  rw [write_place]
  rcases lexemes_placeholder d (n + 1) with read | read
  · exact ⟨_, read, rfl⟩
  · exact ⟨_, read, rfl⟩

theorem reads_qualified (c : ColumnRef) : Reads d Plain [.text c.qualified] :=
  reads_text (lexemes_qualify c.source c.column) rfl

/-- Fragments with a text between them, whose property goes from two of them to both. -/
theorem Reads.interspersed {α : Type} {frag : α → Fragment} {xs : List α} (nothing : P [])
    (h : ∀ x ∈ xs, Reads d P (frag x)) (spaced : Spaced s l)
    (both : ∀ a b, P a → P b → P (a ++ (l ++ b))) :
    Reads d P (Fragment.join s (xs.map frag)) := by
  induction xs with
  | nil => exact fun n => ⟨[], rfl, nothing⟩
  | cons x rest ih =>
    have now := h x List.mem_cons_self
    have later := ih fun y hy => h y (List.mem_cons_of_mem x hy)
    cases rest with
    | nil => exact now
    | cons y rest => exact now.around later spaced both

theorem Reads.join {α : Type} {frag : α → Fragment} {xs : List α}
    (h : ∀ x ∈ xs, Reads d Nests (frag x)) (spaced : Spaced s l) (balanced : Nests l) :
    Reads d Nests (Fragment.join s (xs.map frag)) :=
  .interspersed rfl h spaced fun _ _ ha hb => ha.append (balanced.append hb)

/-- Fragments with `AND` between them are read as clauses with `AND` between them. -/
theorem Reads.conjoined {α : Type} {frag : α → Fragment} {rel : α → List Lexeme → Prop}
    {xs : List α} (h : ∀ x ∈ xs, Reads d (rel x) (frag x)) :
    Reads d (fun ls => ∃ parts, List.Forall₂ rel xs parts ∧ ls = joined parts)
      (Fragment.join " AND " (xs.map frag)) := by
  have spaced : Spaced " AND " [andWord] := by decide
  induction xs with
  | nil => exact fun n => ⟨[], rfl, [], .nil, rfl⟩
  | cons x rest ih =>
    have now := h x List.mem_cons_self
    have later := ih fun y hy => h y (List.mem_cons_of_mem x hy)
    cases rest with
    | nil => exact now.mono fun ls good => ⟨[ls], .cons good .nil, rfl⟩
    | cons y rest =>
      refine now.around later spaced ?_
      rintro a _ good ⟨parts, each, rfl⟩
      have more : parts ≠ [] := by
        rintro rfl
        cases each
      exact ⟨a :: parts, .cons good each, (joined_cons more).symm⟩

end Fragment

open Fragment

section Closes

variable {s : String} {a b : List Lexeme} {f : Fragment}

theorem Closes.reads (h : Closes s a b) : Reads d Closing [.text s] :=
  reads_text h.1 ⟨a, b, rfl, h.2.1, h.2.2.1⟩

theorem Closes.breaking (h : Closes s a b) : Breaking d (.text s :: f) := breaking_text h.2.2.2

end Closes

/-- A call whose argument is a column. -/
theorem reads_call_qualified {before after : String} {a b a' b' : List Lexeme} (c : ColumnRef)
    (opens : Opens before a b) (closes : Closes after a' b') :
    Reads d Plain [.text (before ++ c.qualified ++ after)] := by
  have parts : Reads d Plain (.text before :: ([.text c.qualified] ++ [.text after])) :=
    .call opens (reads_qualified c).balanced closes.reads closes.breaking
  refine parts.of_write fun n => ?_
  simp [write, String.append_assoc]

def SqlExpr.Qualified : SqlExpr → Prop
  | column text | timeOfDay text | instant text => ∃ c : ColumnRef, text = c.qualified
  | lower e => e.Qualified
  | bound _ => True

theorem SqlExpr.Qualified.reads {e : SqlExpr} (h : e.Qualified) :
    Reads d Plain (e.fragment d) := by
  have closes : Closes ")" [] [] := by decide
  induction e with
  | column text =>
    obtain ⟨c, rfl⟩ := h
    exact reads_qualified c
  | timeOfDay text =>
    obtain ⟨c, rfl⟩ := h
    cases d with
    | sqlite =>
      have opens : Opens "time(" [.word "time".toList] [] := by decide
      exact reads_call_qualified c opens closes
    | postgres =>
      have opens : Opens "to_char(" [.word "to_char".toList] [] := by decide
      have form : Closes ", 'HH24:MI:SS')" [.sign ',', .literal "HH24:MI:SS".toList] [] := by
        decide
      exact reads_call_qualified c opens form
  | instant text =>
    obtain ⟨c, rfl⟩ := h
    cases d with
    | sqlite =>
      have opens : Opens "strftime('%Y-%m-%d %H:%M:%f', " [.word "strftime".toList]
        [.literal "%Y-%m-%d %H:%M:%f".toList, .sign ','] := by decide
      exact reads_call_qualified c opens closes
    | postgres => exact reads_qualified c
  | lower e ih =>
    have opens : Opens "LOWER(" [.word "LOWER".toList] [] := by decide
    exact .call opens (ih h).balanced closes.reads closes.breaking
  | bound v => exact reads_place v

theorem SqlExpr.Qualified.folded {e : SqlExpr} (h : e.Qualified) (foldCase : Bool) :
    (e.folded foldCase).Qualified := by
  cases foldCase with
  | false => exact h
  | true => exact h

def SqlTest.Qualified : SqlTest → Prop
  | compare _ left right => left.Qualified ∧ right.Qualified
  | between e low high | outside e low high => e.Qualified ∧ low.Qualified ∧ high.Qualified
  | like e _ _ | isNull e | isNotNull e | isBlank e | isNotBlank e => e.Qualified

theorem Comparison.spaced_sign (op : Comparison) :
    ∃ ls, Spaced (" " ++ op.sign ++ " ") ls ∧ Plain ls := by
  cases op with
  | eq => exact ⟨[.sign '='], by decide, by decide⟩
  | ne => exact ⟨[.sign '!', .sign '='], by decide, by decide⟩
  | lt => exact ⟨[.sign '<'], by decide, by decide⟩
  | lte => exact ⟨[.sign '<', .sign '='], by decide, by decide⟩
  | gt => exact ⟨[.sign '>'], by decide, by decide⟩
  | gte => exact ⟨[.sign '>', .sign '='], by decide, by decide⟩

/-- The words of a test as it is read. -/
abbrev word (s : String) : Lexeme := .word s.toList

theorem SqlTest.Qualified.reads {t : SqlTest} (h : t.Qualified) :
    Reads d Clause (t.fragment d) := by
  have opens : Opens "(" [] [] := by decide
  have closes : Closes ")" [] [] := by decide
  have clause (f : Fragment) (hf : Reads d Plain f) : Reads d Clause f := hf.mono fun _ => .plain
  cases t with
  | compare op left right =>
    obtain ⟨ls, spaced, plain⟩ := op.spaced_sign
    exact clause _ (h.1.reads.plain_around h.2.reads spaced plain)
  | between e low high =>
    obtain ⟨he, hlow, hhigh⟩ := h
    have first : Spaced " BETWEEN " [betweenWord] := by decide
    have second : Spaced " AND " [andWord] := by decide
    have bounds : Reads d (fun ls => ∃ a b, ls = a ++ betweenWord :: b ∧ Plain a ∧ Plain b)
        (e.fragment d ++ [.text " BETWEEN "] ++ low.fragment d) :=
      he.reads.around hlow.reads first fun a b ha hb => ⟨a, b, rfl, ha, hb⟩
    refine bounds.around hhigh.reads second ?_
    rintro _ c ⟨a, b, rfl, ha, hb⟩ hc
    have whole := Clause.between ha hb hc
    simpa using whole
  | outside e low high =>
    obtain ⟨he, hlow, hhigh⟩ := h
    have value : Reads d Nests (e.fragment d) := he.reads.balanced
    have less : Spaced " < " [.sign '<'] := by decide
    have either : Spaced " OR " [word "OR"] := by decide
    have more : Spaced " > " [.sign '>'] := by decide
    have below := value.balanced_around hlow.reads.balanced less (by decide)
    have again := below.balanced_around value either (by decide)
    have above := again.balanced_around hhigh.reads.balanced more (by decide)
    exact clause _ (.call opens above closes.reads closes.breaking)
  | like e pattern negated =>
    have value : Reads d Nests (e.fragment d) := (SqlExpr.Qualified.reads h).balanced
    have lower : Opens "LOWER(" [word "LOWER"] [] := by decide
    have escape : Reads d Plain ([.place pattern] ++ [.text " ESCAPE '\\'"]) :=
      (reads_place pattern).closed (l := [word "ESCAPE", .literal ['\\']]) rfl (by decide)
        (by decide)
    have closing {s : String} {l : List Lexeme} (read : lexemes s.toList = some (.sign ')' :: l))
        (loose : Loose s) (plain : Plain l) :
        Reads d Closing (.text s :: ([.place pattern] ++ [.text " ESCAPE '\\'"])) :=
      escape.cons_text read loose fun b hb => ⟨[], l ++ b, rfl, rfl, plain.append hb⟩
    cases negated with
    | false =>
      exact clause _ (.call lower value (closing (l := [word "LIKE"]) rfl (by decide) (by decide))
        (breaking_text (by decide)))
    | true =>
      exact clause _ (.call lower value
        (closing (l := [word "NOT", word "LIKE"]) rfl (by decide) (by decide))
        (breaking_text (by decide)))
  | isNull e =>
    have value : Reads d Plain (e.fragment d) := SqlExpr.Qualified.reads h
    exact clause _ (value.closed (l := [word "IS", word "NULL"]) rfl (by decide) (by decide))
  | isNotNull e =>
    have value : Reads d Plain (e.fragment d) := SqlExpr.Qualified.reads h
    exact clause _ (value.closed (l := [word "IS", word "NOT", word "NULL"]) rfl (by decide)
      (by decide))
  | isBlank e =>
    have value : Reads d Nests (e.fragment d) := (SqlExpr.Qualified.reads h).balanced
    have either : Spaced " IS NULL OR " [word "IS", word "NULL", word "OR"] := by decide
    have empty : Closes " = '')" [.sign '=', .literal []] [] := by decide
    have both := value.balanced_around value either (by decide)
    exact clause _ (.call opens both empty.reads empty.breaking)
  | isNotBlank e =>
    have value : Reads d Nests (e.fragment d) := (SqlExpr.Qualified.reads h).balanced
    have also : Spaced " IS NOT NULL AND " [word "IS", word "NOT", word "NULL", andWord] := by
      decide
    have other : Closes " != '')" [.sign '!', .sign '=', .literal []] [] := by decide
    have both := value.balanced_around value also (by decide)
    exact clause _ (.call opens both other.reads other.breaking)

namespace Predicate

variable (p : Predicate) (c : ColumnRef)

theorem qualified_expr : (p.expr c.qualified).Qualified := by
  unfold expr
  cases p.projection with
  | timeOfDay => exact ⟨c, rfl⟩
  | value => cases p.condition.comparesInstants <;> exact ⟨c, rfl⟩

theorem qualified_test : (p.test d c.qualified).Qualified := by
  have he := p.qualified_expr c
  have bound (v : SqlValue) (foldCase : Bool) : ((SqlExpr.bound v).folded foldCase).Qualified :=
    SqlExpr.Qualified.folded (e := .bound v) trivial foldCase
  unfold test
  cases p.condition with
  | compare op o foldCase => exact ⟨he.folded foldCase, bound _ foldCase⟩
  | between low high foldCase =>
    exact ⟨he.folded foldCase, bound _ foldCase, bound _ foldCase⟩
  | outside low high foldCase =>
    exact ⟨he.folded foldCase, bound _ foldCase, bound _ foldCase⟩
  | like placement needle negated => exact he
  | empty negated blankText => cases blankText <;> cases negated <;> exact he

end Predicate

theorem ColumnOperator.spaced_sign (op : ColumnOperator) :
    ∃ ls, Spaced (" " ++ op.sign ++ " ") ls ∧ Plain ls := by
  cases op with
  | eq => exact ⟨[.sign '='], by decide, by decide⟩
  | ne => exact ⟨[.sign '<', .sign '>'], by decide, by decide⟩
  | gt => exact ⟨[.sign '>'], by decide, by decide⟩
  | gte => exact ⟨[.sign '>', .sign '='], by decide, by decide⟩
  | lt => exact ⟨[.sign '<'], by decide, by decide⟩
  | lte => exact ⟨[.sign '<', .sign '='], by decide, by decide⟩
  | oneOf => exact ⟨[word "IN"], by decide, by decide⟩
  | noneOf => exact ⟨[word "NOT", word "IN"], by decide, by decide⟩
  | like => exact ⟨[word "LIKE"], by decide, by decide⟩
  | isNull => exact ⟨[word "IS", word "NULL"], by decide, by decide⟩
  | isNotNull => exact ⟨[word "IS", word "NOT", word "NULL"], by decide, by decide⟩

namespace ColumnTest

variable (c : ColumnRef)

theorem reads_null (negated : Bool) : Reads d Plain ((null negated).fragment c.qualified) := by
  have split (s : String) (h : Reads d Plain ([.text c.qualified] ++ [.text s])) :
      Reads d Plain [.text (c.qualified ++ s)] := by
    refine h.of_write fun n => ?_
    simp [write]
  cases negated with
  | false =>
    exact split _ ((reads_qualified c).closed (l := [word "IS", word "NULL"]) rfl (by decide)
      (by decide))
  | true =>
    exact split _ ((reads_qualified c).closed (l := [word "IS", word "NOT", word "NULL"]) rfl
      (by decide) (by decide))

theorem reads_member (values : List SqlValue) (negated : Bool) :
    Reads d Plain ((member values negated).fragment c.qualified) := by
  have comma : Spaced ", " [.sign ','] := by decide
  have closes : Closes ")" [] [] := by decide
  have members : Reads d Nests (Fragment.join ", " (values.map fun v => [.place v])) :=
    .join (fun v _ => (reads_place v).balanced) comma (by decide)
  have tail (s : String) (a : List Lexeme) (opens : Opens s a []) (fresh : Fresh s) :
      Reads d Plain ([.text (c.qualified ++ s)] ++
        Fragment.join ", " (values.map fun v => [.place v]) ++ [.text ")"]) := by
    have rest := Reads.call opens members closes.reads closes.breaking
    have whole : Reads d Plain ([.text c.qualified] ++ (.text s ::
        (Fragment.join ", " (values.map fun v => [.place v]) ++ [.text ")"]))) :=
      (reads_qualified c).append rest (breaking_text fresh) fun _ _ => Plain.append
    refine whole.of_write fun n => ?_
    simp [write, String.append_assoc]
  cases negated with
  | false => exact tail " IN (" [word "IN"] (by decide) (by decide)
  | true => exact tail " NOT IN (" [word "NOT", word "IN"] (by decide) (by decide)

theorem reads_fragment (t : ColumnTest) : Reads d Plain (t.fragment c.qualified) := by
  cases t with
  | null negated => exact reads_null c negated
  | constant outcome =>
    cases outcome with
    | false => exact reads_text (l := [word "1", .sign '=', word "0"]) rfl (by decide)
    | true => exact reads_text (l := [word "1", .sign '=', word "1"]) rfl (by decide)
  | member values negated => exact reads_member c values negated
  | compare op value =>
    obtain ⟨ls, spaced, plain⟩ := op.spaced_sign
    have whole := (reads_qualified (d := d) c).plain_around (reads_place value) spaced plain
    refine whole.of_write fun n => ?_
    simp [ColumnTest.fragment, write, String.append_assoc, toString]

end ColumnTest

/-- Placeholders leave the parentheses of a raw query balanced. -/
theorem RawQuery.Nested.reads {q : RawQuery} {f : Fragment} (nested : q.Nested)
    (h : q.fragment = .ok f) : Reads d Nests f := by
  intro n
  obtain ⟨ls, read, balanced⟩ := nested
  obtain ⟨ended, closed, rfl⟩ := lexemes_iff.mp read
  obtain ⟨alike, same⟩ := (cut_of_fragment h).alike (d := d) (.refl .between) n
  obtain ⟨last, closed', same'⟩ := alike.close closed
  refine ⟨_, lexemes_iff.mpr ⟨last, closed', rfl⟩, ?_⟩
  unfold Nests at balanced ⊢
  rw [← nesting_parentheses, parentheses_append, ← same, same', ← parentheses_append,
    nesting_parentheses]
  exact balanced

end FieldQuery

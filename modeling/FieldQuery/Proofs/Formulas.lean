import FieldQuery.Proofs.Clauses
import FieldQuery.Proofs.Digits
import FieldQuery.Statement.Formula

/-!
# Tests as formulas

What a test writes is read as a formula that says the same of every row, whatever values are bound
before and after its own. Main statements: `SqlTest.On.read` and `Predicate.read_fragment`.
-/
namespace FieldQuery

open Statement

variable {d : Dialect}

namespace Statement

/-- Lexemes that are read as something to compare, whatever follows them. -/
def ScalarAt (d : Dialect) (x : Scalar) (params : List SqlValue) (ls : List Lexeme) : Prop :=
  ∀ depth rest, ls.length ≤ depth → scalar d params depth (ls ++ rest) = some (x, rest)

def TestAt (d : Dialect) (p : Formula) (params : List SqlValue) (ls : List Lexeme) : Prop :=
  ls ≠ [] ∧ ∀ rest, test d params (ls ++ rest) = some (p, rest)

/-- Lexemes that do not go on with a formula. -/
def Stops (ls : List Lexeme) : Prop := keywords ["AND"] ls = none ∧ keywords ["OR"] ls = none

section Scalars

variable {params : List SqlValue} {a b x : Scalar} {ls ms : List Lexeme}

theorem scalarAt_column (c : ColumnRef) :
    ScalarAt d (.column c) params [.name c.source.toList, .sign '.', .name c.column.toList] := by
  intro depth rest enough
  cases depth with
  | zero => cases enough
  | succ depth => simp [scalar]

theorem scalarAt_literal (s : List Char) :
    ScalarAt d (.literal (String.ofList s)) params [.literal s] := by
  intro depth rest enough
  cases depth with
  | zero => cases enough
  | succ depth => rfl

theorem scalarAt_place {n : Nat} {v : SqlValue} (there : valueAt params n = some v) :
    ScalarAt d (.bound v) params [numberedPlace n] := by
  intro depth rest enough
  cases depth with
  | zero => cases enough
  | succ depth =>
    rw [numberedPlace, List.singleton_append, scalar, digitsValue_decimalDigits, there]
    rfl

theorem ScalarAt.operand (h : ScalarAt d a params ls) (rest : List Lexeme) :
    operand d params (ls ++ rest) = some (a, rest) :=
  h _ rest (by rw [List.length_append]; exact Nat.le_add_right _ _)

/-- No sign begins what can be compared. -/
theorem ScalarAt.head_ne_sign (h : ScalarAt d a params ls) (c : Char) (rest : List Lexeme) :
    ls ≠ .sign c :: rest := by
  rintro rfl
  have read := h _ [] (Nat.le_refl _)
  cases read

/-- A call of a function that is known. -/
theorem scalar_call {f : List Char} {depth : Nat} {args : List Scalar} {rest : List Lexeme}
    (name : f.head? ≠ some '$')
    (given : arguments (scalar d params depth) ls.length ls = some (args, rest))
    (known : apply d (.word f) args = some x) :
    scalar d params (depth + 1) (.word f :: .sign '(' :: ls) = some (x, rest) := by
  cases f with
  | nil => simp [scalar, given, known]
  | cons c f =>
    have other : c ≠ '$' := fun eq => name (congrArg some eq)
    simp [scalar, other, given, known]

theorem ScalarAt.call {f : List Char} (h : ScalarAt d a params ls) (name : f.head? ≠ some '$')
    (known : apply d (.word f) [a] = some x) :
    ScalarAt d x params (.word f :: .sign '(' :: (ls ++ [.sign ')'])) := by
  intro depth rest enough
  cases depth with
  | zero => cases enough
  | succ depth =>
    simp only [List.length_cons, List.length_append, List.length_nil] at enough
    have argument := h depth (.sign ')' :: rest) (by omega)
    refine scalar_call name ?_ known
    simp [arguments, argument]

theorem ScalarAt.callTwo {f : List Char} (ha : ScalarAt d a params ls)
    (hb : ScalarAt d b params ms) (name : f.head? ≠ some '$')
    (known : apply d (.word f) [a, b] = some x) :
    ScalarAt d x params
      (.word f :: .sign '(' :: (ls ++ .sign ',' :: (ms ++ [.sign ')']))) := by
  intro depth rest enough
  cases depth with
  | zero => cases enough
  | succ depth =>
    simp only [List.length_cons, List.length_append, List.length_nil] at enough
    have first := ha depth (.sign ',' :: (ms ++ .sign ')' :: rest)) (by omega)
    have second := hb depth (.sign ')' :: rest) (by omega)
    refine scalar_call name ?_ known
    simp [arguments, first, second]

end Scalars

section Tests

variable {params : List SqlValue} {a b c : Scalar} {ls ms ns : List Lexeme}

theorem ScalarAt.test (h : ScalarAt d a params ls) (rest : List Lexeme) :
    test d params (ls ++ rest) =
      ((keywords ["IS", "NULL"] rest).map (Formula.isNull a false, ·) <|>
      (keywords ["IS", "NOT", "NULL"] rest).map (Formula.isNull a true, ·) <|>
      (keywords ["BETWEEN"] rest >>= rangeTest d params a) <|>
      (keywords ["LIKE"] rest >>= patternTest d params a false) <|>
      (keywords ["NOT", "LIKE"] rest >>= patternTest d params a true) <|>
      comparisonTest d params a rest) := by
  rw [Statement.test, h.operand]
  rfl

theorem ScalarAt.isNull (h : ScalarAt d a params ls) :
    TestAt d (.isNull a false) params (ls ++ [word "IS", word "NULL"]) := by
  refine ⟨by simp, fun rest => ?_⟩
  rw [List.append_assoc, h.test]
  rfl

theorem ScalarAt.isNotNull (h : ScalarAt d a params ls) :
    TestAt d (.isNull a true) params (ls ++ [word "IS", word "NOT", word "NULL"]) := by
  refine ⟨by simp, fun rest => ?_⟩
  rw [List.append_assoc, h.test]
  rfl

theorem ScalarAt.between (ha : ScalarAt d a params ls) (hb : ScalarAt d b params ms)
    (hc : ScalarAt d c params ns) :
    TestAt d (.between a b c) params (ls ++ betweenWord :: (ms ++ andWord :: ns)) := by
  refine ⟨by simp, fun rest => ?_⟩
  have range : rangeTest d params a (ms ++ andWord :: (ns ++ rest)) =
      some (.between a b c, rest) := by
    have low := hb.operand (andWord :: (ns ++ rest))
    have both : keywords ["AND"] (andWord :: (ns ++ rest)) = some (ns ++ rest) := rfl
    have high := hc.operand rest
    simp [rangeTest, low, both, high]
  rw [List.append_assoc, ha.test, List.cons_append, List.append_assoc, List.cons_append]
  change (rangeTest d params a (ms ++ andWord :: (ns ++ rest)) <|> _) = _
  rw [range]
  rfl

/-- The words that set the text apart from the pattern. -/
def likeWords (negated : Bool) : List Lexeme :=
  if negated then [word "NOT", word "LIKE"] else [word "LIKE"]

theorem ScalarAt.like (ha : ScalarAt d a params ls) (hb : ScalarAt d b params ms)
    (negated : Bool) :
    TestAt d (.like a b negated) params
      (ls ++ (likeWords negated ++ (ms ++ [word "ESCAPE", .literal ['\\']]))) := by
  refine ⟨?_, fun rest => ?_⟩
  · cases negated <;> simp [likeWords]
  have pattern : patternTest d params a negated
      (ms ++ [word "ESCAPE", .literal ['\\']] ++ rest) = some (.like a b negated, rest) := by
    have first := hb.operand (word "ESCAPE" :: .literal ['\\'] :: rest)
    have escape : keywords ["ESCAPE"] (word "ESCAPE" :: .literal ['\\'] :: rest) =
      some (.literal ['\\'] :: rest) := rfl
    simp [patternTest, first, escape]
  rw [List.append_assoc, ha.test, List.append_assoc]
  cases negated with
  | false =>
    change (patternTest d params a false
      (ms ++ [word "ESCAPE", .literal ['\\']] ++ rest) <|> _) = _
    rw [pattern]
    rfl
  | true =>
    change (patternTest d params a true
      (ms ++ [word "ESCAPE", .literal ['\\']] ++ rest) <|> _) = _
    rw [pattern]
    rfl

def signs : Comparison → List Lexeme
  | .eq => [.sign '=']
  | .ne => [.sign '!', .sign '=']
  | .lt => [.sign '<']
  | .lte => [.sign '<', .sign '=']
  | .gt => [.sign '>']
  | .gte => [.sign '>', .sign '=']

theorem comparison_signs (op : Comparison) (h : ScalarAt d b params ms) (rest : List Lexeme) :
    comparison (signs op ++ (ms ++ rest)) = some (op, ms ++ rest) := by
  cases ms with
  | nil =>
    have nothing := h 0 [] (Nat.le_refl 0)
    cases nothing
  | cons l ms =>
    have other (c : Char) : l ≠ .sign c := fun eq => h.head_ne_sign c ms (eq ▸ rfl)
    cases op <;> simp [signs, comparison, other]

theorem ScalarAt.compare (ha : ScalarAt d a params ls) (hb : ScalarAt d b params ms)
    (op : Comparison) : TestAt d (.compare op a b) params (ls ++ (signs op ++ ms)) := by
  refine ⟨?_, fun rest => ?_⟩
  · cases op <;> simp [signs]
  have both : comparisonTest d params a (signs op ++ (ms ++ rest)) =
      some (.compare op a b, rest) := by
    simp [comparisonTest, comparison_signs op hb, hb.operand]
  rw [List.append_assoc, ha.test, List.append_assoc, both]
  cases op <;> rfl

end Tests

section Formulas

variable {params : List SqlValue} {p q : Formula} {ls ms rest : List Lexeme} {depth : Nat}

section Chains

variable {k : String} {join : Formula → Formula → Formula}
  {part : List Lexeme → Option (Formula × List Lexeme)} {n : Nat}

theorem chain_last (read : part ls = some (p, rest)) (stop : keywords [k] rest = none)
    (some : 0 < n) : chain k join part n ls = .some (p, rest) := by
  cases n with
  | zero => cases some
  | succ n => simp [chain, read, stop]

theorem chain_more (first : part ls = some (p, ms)) (goesOn : keywords [k] ms = some rest)
    {after : List Lexeme} (others : chain k join part (n - 1) rest = some (q, after))
    (some : 0 < n) : chain k join part n ls = .some (join p q, after) := by
  cases n with
  | zero => cases some
  | succ n =>
    rw [Nat.add_sub_cancel] at others
    simp [chain, first, goesOn, others]

end Chains

def PartAt (d : Dialect) (params : List SqlValue) (depth : Nat) (p : Formula)
    (ls : List Lexeme) : Prop :=
  ls ≠ [] ∧ ∀ rest, part d params (formula d params depth) (ls ++ rest) = some (p, rest)

theorem TestAt.part (h : TestAt d p params ls) (depth : Nat) : PartAt d params depth p ls := by
  refine ⟨h.1, fun rest => ?_⟩
  unfold Statement.part
  rw [h.2]
  rfl

theorem length_append_pos (h : ls ≠ []) (rest : List Lexeme) : 0 < (ls ++ rest).length :=
  List.length_pos_iff.mpr (List.append_ne_nil_of_left_ne_nil h rest)

/-- A part is a conjunction where no other one follows. -/
theorem PartAt.conjunction (h : PartAt d params depth p ls)
    (stop : keywords ["AND"] rest = none) :
    conjunction d params (formula d params depth) (ls ++ rest) = some (p, rest) :=
  chain_last (h.2 rest) stop (length_append_pos h.1 rest)

theorem PartAt.alone (h : PartAt d params depth p ls) (stops : Stops rest) :
    formula d params (depth + 1) (ls ++ rest) = some (p, rest) :=
  chain_last (h.conjunction stops.1) stops.2 (length_append_pos h.1 rest)

theorem PartAt.either (hp : PartAt d params depth p ls) (hq : PartAt d params depth q ms)
    (stops : Stops rest) :
    formula d params (depth + 1) (ls ++ word "OR" :: (ms ++ rest)) = some (.or p q, rest) := by
  have more := length_append_pos hq.1 rest
  have goesOn : keywords ["OR"] (word "OR" :: (ms ++ rest)) = some (ms ++ rest) := rfl
  refine chain_more (hp.conjunction rfl) goesOn
    (chain_last (hq.conjunction stops.1) stops.2 ?_) (length_append_pos hp.1 _)
  rw [List.length_append, List.length_cons]
  omega

theorem PartAt.both (hp : PartAt d params depth p ls) (hq : PartAt d params depth q ms)
    (stops : Stops rest) :
    formula d params (depth + 1) (ls ++ andWord :: (ms ++ rest)) = some (.and p q, rest) := by
  have positive := length_append_pos hp.1 (andWord :: (ms ++ rest))
  have more := length_append_pos hq.1 rest
  have goesOn : keywords ["AND"] (andWord :: (ms ++ rest)) = some (ms ++ rest) := rfl
  refine chain_last (chain_more (hp.2 _) goesOn (chain_last (hq.2 rest) stops.1 ?_) positive)
    stops.2 positive
  rw [List.length_append, List.length_cons]
  omega

/-- A formula in parentheses is one part. -/
theorem PartAt.enclosed
    (inner : ∀ rest, Stops rest → formula d params depth (ls ++ rest) = some (p, rest)) :
    PartAt d params depth p (.sign '(' :: (ls ++ [.sign ')'])) := by
  refine ⟨List.cons_ne_nil _ _, fun rest => ?_⟩
  have read := inner (.sign ')' :: rest) ⟨rfl, rfl⟩
  have noTest : test d params (.sign '(' :: (ls ++ .sign ')' :: rest)) = none := rfl
  rw [List.cons_append, List.append_assoc, Statement.part]
  simp [noTest, read]

end Formulas

theorem numbered_postgres (n : Nat) (ls : List Lexeme) : numbered .postgres n ls = ls := by
  induction ls generalizing n with
  | nil => rfl
  | cons l rest ih =>
    rw [numbered, if_neg (by simp), ih]

/-- Lexemes without placeholders stay as they are. -/
theorem numbered_append {ls : List Lexeme} (plain : .sign '?' ∉ ls) (n : Nat)
    (rest : List Lexeme) : numbered d n (ls ++ rest) = ls ++ numbered d n rest := by
  induction ls with
  | nil => rfl
  | cons l ls ih =>
    have other : l ≠ .sign '?' := fun eq => plain (eq ▸ List.mem_cons_self)
    rw [List.cons_append, numbered, if_neg fun h => other h.2,
      ih fun mem => plain (List.mem_cons_of_mem l mem), List.cons_append]

theorem length_numbered (n : Nat) (ls : List Lexeme) :
    (numbered d n ls).length = ls.length := by
  induction ls generalizing n with
  | nil => rfl
  | cons l rest ih =>
    rw [numbered]
    split <;> simp [ih]

theorem valueAt_append (before after : List SqlValue) (v : SqlValue) :
    valueAt (before ++ v :: after) (before.length + 1) = some v := by
  simp [valueAt]

end Statement

namespace Fragment

/-- What is read of a fragment has a property, whatever values are bound before and after its own.
Placeholders have their numbers. -/
def Gives (d : Dialect) (good : List SqlValue → List Lexeme → Prop) (f : Fragment) : Prop :=
  ∀ before after, ∃ ls toks,
    lexemes (f.write d before.length).toList = some ls ∧
    (∀ rest, numbered d before.length (ls ++ rest) =
      toks ++ numbered d (before.length + f.values.length) rest) ∧
    good (before ++ f.values ++ after) toks

variable {f g : Fragment} {s : String} {l : List Lexeme}
  {P Q R : List SqlValue → List Lexeme → Prop}

theorem gives_text (read : lexemes s.toList = some l) (plain : .sign '?' ∉ l)
    (good : ∀ params, P params l) : Gives d P [.text s] := by
  intro before after
  refine ⟨l, l, ?_, fun rest => numbered_append plain _ rest, good _⟩
  rw [write_text, read]

theorem gives_place (v : SqlValue) :
    Gives d (fun params ls => ∃ n, ls = [numberedPlace n] ∧ valueAt params n = some v)
      [.place v] := by
  intro before after
  have there : valueAt (before ++ [v] ++ after) (before.length + 1) = some v := by
    rw [List.append_assoc]
    exact valueAt_append before after v
  cases d with
  | sqlite =>
    refine ⟨[.sign '?'], [numberedPlace (before.length + 1)], ?_, fun rest => ?_, _, rfl, there⟩
    · rw [write_place, lexemes_placeholder_sqlite]
    · rw [List.singleton_append, numbered, if_pos ⟨rfl, rfl⟩]
      rfl
  | postgres =>
    refine ⟨[numberedPlace (before.length + 1)], [numberedPlace (before.length + 1)], ?_,
      fun rest => ?_, _, rfl, there⟩
    · rw [write_place, lexemes_placeholder_postgres]
      rfl
    · rw [numbered_postgres, numbered_postgres]

/-- Only the text of a fragment is read. -/
theorem Gives.of_write (h : Gives d P f) (same : ∀ n, g.write d n = f.write d n)
    (values : g.values = f.values) : Gives d P g := by
  intro before after
  rw [same, values]
  exact h before after

theorem Gives.mono (h : Gives d P f) (weaker : ∀ params ls, P params ls → Q params ls) :
    Gives d Q f := by
  intro before after
  obtain ⟨ls, toks, read, same, good⟩ := h before after
  exact ⟨ls, toks, read, same, weaker _ _ good⟩

theorem Gives.append (hf : Gives d P f) (hg : Gives d Q g)
    (apart : (∀ n, Loose (f.write d n)) ∨ Breaking d g)
    (both : ∀ params a b, P params a → Q params b → R params (a ++ b)) :
    Gives d R (f ++ g) := by
  intro before after
  obtain ⟨a, ta, readA, sameA, goodA⟩ := hf before (g.values ++ after)
  obtain ⟨b, tb, readB, sameB, goodB⟩ := hg (before ++ f.values) after
  rw [List.length_append] at readB sameB
  refine ⟨a ++ b, ta ++ tb, ?_, fun rest => ?_, ?_⟩
  · rw [write_append]
    exact lexemes_append readA readB (apart.imp (· _) (· _))
  · rw [List.append_assoc, sameA, sameB, values_append, List.length_append, List.append_assoc,
      Nat.add_assoc]
  · rw [values_append]
    simp only [List.append_assoc] at goodA goodB ⊢
    exact both _ _ _ goodA goodB

/-- Two fragments with a text between them. -/
theorem Gives.around (hf : Gives d P f) (hg : Gives d Q g) (spaced : Spaced s l)
    (plain : .sign '?' ∉ l)
    (both : ∀ params a b, P params a → Q params b → R params (a ++ (l ++ b))) :
    Gives d R (f ++ [.text s] ++ g) := by
  obtain ⟨read, fresh, loose⟩ := spaced
  have between : Gives d (fun _ ls => ls = l) [.text s] := gives_text read plain fun _ => rfl
  have second : Gives d (fun params ls => ∃ b, ls = l ++ b ∧ Q params b) ([.text s] ++ g) := by
    refine between.append hg (.inl fun n => write_text n ▸ loose) ?_
    rintro params _ b rfl good
    exact ⟨b, rfl, good⟩
  rw [List.append_assoc]
  refine hf.append second (.inr (breaking_text fresh)) ?_
  rintro params a _ good ⟨b, rfl, goodB⟩
  exact both params a b good goodB

/-- A fragment with a text before it. -/
theorem Gives.after (hf : Gives d P f) (read : lexemes s.toList = some l) (loose : Loose s)
    (plain : .sign '?' ∉ l) (good : ∀ params a, P params a → Q params (l ++ a)) :
    Gives d Q ([.text s] ++ f) := by
  have first : Gives d (fun _ ls => ls = l) [.text s] := gives_text read plain fun _ => rfl
  refine first.append hf (.inl fun n => write_text n ▸ loose) ?_
  rintro params _ a rfl ha
  exact good params a ha

/-- A fragment with a text behind it. -/
theorem Gives.before (hf : Gives d P f) (read : lexemes s.toList = some l) (fresh : Fresh s)
    (plain : .sign '?' ∉ l) (good : ∀ params a, P params a → Q params (a ++ l)) :
    Gives d Q (f ++ [.text s]) := by
  have last : Gives d (fun _ ls => ls = l) [.text s] := gives_text read plain fun _ => rfl
  refine hf.append last (.inr (breaking_text fresh)) ?_
  rintro params a _ ha rfl
  exact good params a ha

end Fragment

open Fragment

theorem gives_qualified (c : ColumnRef) : Gives d (ScalarAt d (.column c)) [.text c.qualified] :=
  gives_text (lexemes_qualify c.source c.column) (by simp) fun _ => scalarAt_column c

theorem gives_bound (v : SqlValue) : Gives d (ScalarAt d (.bound v)) [.place v] := by
  refine (gives_place v).mono ?_
  rintro params _ ⟨n, rfl, there⟩
  exact scalarAt_place there

/-- A call whose arguments are a column and what is written around it. -/
theorem gives_call_qualified (before after : String) {a b : List Lexeme} {x : Scalar}
    (c : ColumnRef) (first : lexemes before.toList = some a) (loose : Loose before)
    (last : lexemes after.toList = some b) (fresh : Fresh after)
    (plain : .sign '?' ∉ a ∧ .sign '?' ∉ b)
    (good : ∀ params ls, ScalarAt d (.column c) params ls → ScalarAt d x params (a ++ (ls ++ b))) :
    Gives d (ScalarAt d x) [.text (before ++ c.qualified ++ after)] := by
  have inner : Gives d (fun params ls => ∃ m, ls = m ++ b ∧ ScalarAt d (.column c) params m)
      ([.text c.qualified] ++ [.text after]) :=
    (gives_qualified c).before last fresh plain.2 fun _ m h => ⟨m, rfl, h⟩
  have parts : Gives d (ScalarAt d x)
      ([.text before] ++ ([.text c.qualified] ++ [.text after])) := by
    refine inner.after first loose plain.1 ?_
    rintro params _ ⟨m, rfl, h⟩
    exact good params m h
  refine parts.of_write (fun n => ?_) rfl
  simp [write, String.append_assoc]

namespace SqlExpr

/-- An expression over one column that is written with its source. -/
def On (c : ColumnRef) : SqlExpr → Prop
  | column text | timeOfDay text | instant text => text = c.qualified
  | lower e => e.On c
  | bound _ => True

def scalar (d : Dialect) (c : ColumnRef) : SqlExpr → Scalar
  | column _ => .column c
  | timeOfDay _ => .timeOfDay (.column c)
  | instant _ =>
    match d with
    | .sqlite => .instant (.column c)
    | .postgres => .column c
  | lower e => .lower (e.scalar d c)
  | bound v => .bound v

theorem value_scalar (r : SqlRules) (row : TableRow) (c : ColumnRef) (e : SqlExpr) :
    (e.scalar d c).value r row = e.value r d (row c) := by
  induction e with
  | column | timeOfDay | bound => rfl
  | instant text => cases d <;> rfl
  | lower e ih => exact congrArg r.lower ih

theorem On.gives {c : ColumnRef} {e : SqlExpr} (h : e.On c) :
    Gives d (ScalarAt d (e.scalar d c)) (e.fragment d) := by
  induction e with
  | column text =>
    cases h
    exact gives_qualified c
  | timeOfDay text =>
    cases h
    cases d with
    | sqlite =>
      exact gives_call_qualified "time(" ")" c (a := [word "time", .sign '(']) (b := [.sign ')'])
        rfl (by decide) rfl (by decide) (by decide) fun _ _ h => h.call (by decide) rfl
    | postgres =>
      exact gives_call_qualified "to_char(" ", 'HH24:MI:SS')" c (a := [word "to_char", .sign '('])
        (b := [.sign ',', .literal "HH24:MI:SS".toList, .sign ')'])
        rfl (by decide) rfl (by decide) (by decide) fun _ _ h =>
          h.callTwo (scalarAt_literal _) (by decide) rfl
  | instant text =>
    cases h
    cases d with
    | sqlite =>
      exact gives_call_qualified "strftime('%Y-%m-%d %H:%M:%f', " ")" c
        (a := [word "strftime", .sign '(', .literal "%Y-%m-%d %H:%M:%f".toList, .sign ','])
        (b := [.sign ')']) rfl (by decide) rfl (by decide) (by decide) fun _ _ h =>
          (scalarAt_literal _).callTwo h (by decide) rfl
    | postgres => exact gives_qualified c
  | lower e ih =>
    have inner : Gives d (fun params ls => ∃ m, ls = m ++ [.sign ')'] ∧
        ScalarAt d (e.scalar d c) params m) (e.fragment d ++ [.text ")"]) :=
      (ih h).before rfl (by decide) (by decide) fun _ m h => ⟨m, rfl, h⟩
    rw [fragment, List.append_assoc]
    refine inner.after (l := [word "LOWER", .sign '(']) rfl (by decide) (by decide) ?_
    rintro params _ ⟨m, rfl, h⟩
    exact h.call (by decide) rfl
  | bound v => exact gives_bound v

end SqlExpr

/-- The signs of a comparison, with blanks around them. -/
theorem spaced_signs (op : Comparison) : Spaced (" " ++ op.sign ++ " ") (signs op) := by
  cases op <;> decide

theorem plain_signs (op : Comparison) : .sign '?' ∉ signs op := by
  cases op <;> decide

section Shapes

variable {f g h : Fragment} {a b c : Scalar}

theorem gives_isNull (negated : Bool) (hf : Gives d (ScalarAt d a) f) :
    Gives d (TestAt d (.isNull a negated))
      (f ++ [.text (if negated then " IS NOT NULL" else " IS NULL")]) := by
  cases negated with
  | false =>
    exact hf.before (l := [word "IS", word "NULL"]) rfl (by decide) (by decide)
      fun _ _ => ScalarAt.isNull
  | true =>
    exact hf.before (l := [word "IS", word "NOT", word "NULL"]) rfl (by decide) (by decide)
      fun _ _ => ScalarAt.isNotNull

theorem gives_compare (op : Comparison) (hf : Gives d (ScalarAt d a) f)
    (hg : Gives d (ScalarAt d b) g) :
    Gives d (TestAt d (.compare op a b)) (f ++ [.text (" " ++ op.sign ++ " ")] ++ g) :=
  hf.around hg (spaced_signs op) (plain_signs op) fun _ _ _ ha hb => ha.compare hb op

theorem gives_between (hf : Gives d (ScalarAt d a) f) (hg : Gives d (ScalarAt d b) g)
    (hh : Gives d (ScalarAt d c) h) :
    Gives d (TestAt d (.between a b c))
      (f ++ [.text " BETWEEN "] ++ g ++ [.text " AND "] ++ h) := by
  have low : Gives d (fun params ls => ∃ m n, ls = m ++ betweenWord :: n ∧
      ScalarAt d a params m ∧ ScalarAt d b params n) (f ++ [.text " BETWEEN "] ++ g) :=
    hf.around hg (l := [betweenWord]) (by decide) (by decide) fun _ m n ha hb =>
      ⟨m, n, rfl, ha, hb⟩
  refine low.around hh (l := [andWord]) (by decide) (by decide) ?_
  rintro params _ o ⟨m, n, rfl, ha, hb⟩ hc
  have whole := ha.between hb hc
  simpa using whole

theorem gives_like (negated : Bool) (v : SqlValue) (hf : Gives d (ScalarAt d a) f) :
    Gives d (TestAt d (.like (.lower a) (.bound v) negated))
      ([.text "LOWER("] ++ f ++ [.text (if negated then ") NOT LIKE " else ") LIKE "), .place v,
        .text " ESCAPE '\\'"]) := by
  have pattern : Gives d (fun params ls => ∃ m, ls = m ++ [word "ESCAPE", .literal ['\\']] ∧
      ScalarAt d (.bound v) params m) ([.place v] ++ [.text " ESCAPE '\\'"]) :=
    (gives_bound v).before rfl (by decide) (by decide) fun _ m h => ⟨m, rfl, h⟩
  have rest : Gives d (fun params ls => ∃ m, ls = .sign ')' :: (likeWords negated ++
        (m ++ [word "ESCAPE", .literal ['\\']])) ∧ ScalarAt d (.bound v) params m)
      ([.text (if negated then ") NOT LIKE " else ") LIKE ")] ++
        ([.place v] ++ [.text " ESCAPE '\\'"])) := by
    cases negated with
    | false =>
      refine pattern.after (l := [.sign ')', word "LIKE"]) rfl (by decide) (by decide) ?_
      rintro params _ ⟨m, rfl, h⟩
      exact ⟨m, rfl, h⟩
    | true =>
      refine pattern.after (l := [.sign ')', word "NOT", word "LIKE"]) rfl (by decide) (by decide)
        ?_
      rintro params _ ⟨m, rfl, h⟩
      exact ⟨m, rfl, h⟩
  have inner := hf.append rest (.inr ?_) (R := fun params ls => ∃ k m, ls = k ++ (.sign ')' ::
      (likeWords negated ++ (m ++ [word "ESCAPE", .literal ['\\']]))) ∧ ScalarAt d a params k ∧
        ScalarAt d (.bound v) params m) ?_
  · rw [List.append_assoc]
    refine inner.after (l := [word "LOWER", .sign '(']) rfl (by decide) (by decide) ?_
    rintro params _ ⟨k, m, rfl, ha, hb⟩
    have lower : ScalarAt d (.lower a) params (word "LOWER" :: .sign '(' :: (k ++ [.sign ')'])) :=
      ha.call (by decide) rfl
    have whole := lower.like hb negated
    simpa using whole
  · cases negated <;> exact breaking_text (by decide)
  · rintro params k _ ha ⟨m, rfl, hb⟩
    exact ⟨k, m, rfl, ha, hb⟩

variable {p q : Formula}

/-- A formula in parentheses. -/
theorem gives_enclosed {P : List SqlValue → List Lexeme → Prop} (hf : Gives d P f)
    (inner : ∀ params ls, P params ls → ∀ depth rest, Stops rest →
      Statement.formula d params (depth + 1) (ls ++ rest) = some (p, rest)) :
    Gives d (fun params ls => ∀ depth, PartAt d params (depth + 1) p ls)
      ([.text "("] ++ (f ++ [.text ")"])) := by
  have closed : Gives d (fun params ls => ∃ m, ls = m ++ [.sign ')'] ∧ P params m)
      (f ++ [.text ")"]) :=
    hf.before rfl (by decide) (by decide) fun _ m h => ⟨m, rfl, h⟩
  refine closed.after (l := [.sign '(']) rfl (by decide) (by decide) ?_
  rintro params _ ⟨m, rfl, h⟩ depth
  exact .enclosed (inner params m h depth)

theorem gives_either (hf : Gives d (TestAt d p) f) (hg : Gives d (TestAt d q) g) :
    Gives d (fun params ls => ∀ depth, PartAt d params (depth + 1) (.or p q) ls)
      ([.text "("] ++ (f ++ [.text " OR "] ++ g ++ [.text ")"])) := by
  have both : Gives d (fun params ls => ∃ m n, ls = m ++ word "OR" :: n ∧ TestAt d p params m ∧
      TestAt d q params n) (f ++ [.text " OR "] ++ g) :=
    hf.around hg (l := [word "OR"]) (by decide) (by decide) fun _ m n hp hq => ⟨m, n, rfl, hp, hq⟩
  refine gives_enclosed both ?_
  rintro params _ ⟨m, n, rfl, hp, hq⟩ depth rest stops
  rw [List.append_assoc]
  exact (hp.part depth).either (hq.part depth) stops

theorem gives_both (hf : Gives d (TestAt d p) f) (hg : Gives d (TestAt d q) g) :
    Gives d (fun params ls => ∀ depth, PartAt d params (depth + 1) (.and p q) ls)
      ([.text "("] ++ (f ++ [.text " AND "] ++ g ++ [.text ")"])) := by
  have both : Gives d (fun params ls => ∃ m n, ls = m ++ andWord :: n ∧ TestAt d p params m ∧
      TestAt d q params n) (f ++ [.text " AND "] ++ g) :=
    hf.around hg (l := [andWord]) (by decide) (by decide) fun _ m n hp hq => ⟨m, n, rfl, hp, hq⟩
  refine gives_enclosed both ?_
  rintro params _ ⟨m, n, rfl, hp, hq⟩ depth rest stops
  rw [List.append_assoc]
  exact (hp.part depth).both (hq.part depth) stops

end Shapes

namespace SqlTest

def On (c : ColumnRef) : SqlTest → Prop
  | compare _ left right => left.On c ∧ right.On c
  | between e low high | outside e low high => e.On c ∧ low.On c ∧ high.On c
  | like e _ _ | isNull e | isNotNull e | isBlank e | isNotBlank e => e.On c

def formula (d : Dialect) (c : ColumnRef) : SqlTest → Formula
  | compare op left right => .compare op (left.scalar d c) (right.scalar d c)
  | between e low high => .between (e.scalar d c) (low.scalar d c) (high.scalar d c)
  | outside e low high =>
    .or (.compare .lt (e.scalar d c) (low.scalar d c))
      (.compare .gt (e.scalar d c) (high.scalar d c))
  | like e pattern negated => .like (.lower (e.scalar d c)) (.bound pattern) negated
  | isNull e => .isNull (e.scalar d c) false
  | isNotNull e => .isNull (e.scalar d c) true
  | isBlank e =>
    .or (.isNull (e.scalar d c) false) (.compare .eq (e.scalar d c) (.literal ""))
  | isNotBlank e =>
    .and (.isNull (e.scalar d c) true) (.compare .ne (e.scalar d c) (.literal ""))

theorem truth_formula (r : SqlRules) (row : TableRow) (c : ColumnRef) (t : SqlTest) :
    (t.formula d c).truth r row = t.truth r d (row c) := by
  cases t <;>
    simp [formula, Formula.truth, truth, SqlExpr.value_scalar, Scalar.value, Bool.bne_false]

theorem On.gives {c : ColumnRef} {t : SqlTest} (h : t.On c) :
    Gives d (fun params ls => ∀ depth, PartAt d params (depth + 1) (t.formula d c) ls)
      (t.fragment d) := by
  have test {p : Formula} {f : Fragment} (hf : Gives d (TestAt d p) f) :
      Gives d (fun params ls => ∀ depth, PartAt d params (depth + 1) p ls) f :=
    hf.mono fun _ _ ht depth => ht.part (depth + 1)
  have empty : Gives d (ScalarAt d (.literal "")) [.text "''"] :=
    gives_text (l := [.literal []]) rfl (by decide) fun _ => scalarAt_literal []
  cases t with
  | compare op left right => exact test (gives_compare op h.1.gives h.2.gives)
  | between e low high => exact test (gives_between h.1.gives h.2.1.gives h.2.2.gives)
  | outside e low high =>
    obtain ⟨he, hlow, hhigh⟩ := h
    have whole := gives_either (d := d) (gives_compare .lt he.gives hlow.gives)
      (gives_compare .gt he.gives hhigh.gives)
    simpa [fragment, formula, Comparison.sign] using whole
  | like e pattern negated => exact test (gives_like negated pattern (SqlExpr.On.gives h))
  | isNull e => exact test (gives_isNull false (SqlExpr.On.gives h))
  | isNotNull e => exact test (gives_isNull true (SqlExpr.On.gives h))
  | isBlank e =>
    have value := SqlExpr.On.gives (d := d) h
    refine (gives_either (gives_isNull false value) (gives_compare .eq value empty)).of_write
      (fun n => ?_) (by simp [fragment, values])
    have split (rest : String) : " IS NULL OR " ++ rest = " IS NULL" ++ (" OR " ++ rest) := by
      rw [← String.append_assoc]
      rfl
    simp [fragment, write_append, write, Comparison.sign, split]
  | isNotBlank e =>
    have value := SqlExpr.On.gives (d := d) h
    refine (gives_both (gives_isNull true value) (gives_compare .ne value empty)).of_write
      (fun n => ?_) (by simp [fragment, values])
    have split (rest : String) :
        " IS NOT NULL AND " ++ rest = " IS NOT NULL" ++ (" AND " ++ rest) := by
      rw [← String.append_assoc]
      rfl
    simp [fragment, write_append, write, Comparison.sign, split]

/-- What a test on a column writes is read as its formula, whatever values are bound before and
after its own. -/
theorem On.read {c : ColumnRef} {t : SqlTest} (h : t.On c) (before after : List SqlValue) :
    Formula.read d before.length (before ++ (t.fragment d).values ++ after)
      ((t.fragment d).write d before.length) = some (t.formula d c) := by
  obtain ⟨ls, toks, read, same, good⟩ := h.gives before after
  have numbers : numbered d before.length ls = toks := by
    have all := same []
    rwa [List.append_nil, numbered, List.append_nil] at all
  obtain ⟨depth, length⟩ : ∃ depth, ls.length = depth + 1 := by
    have length := congrArg List.length numbers
    rw [length_numbered] at length
    exact Nat.exists_eq_add_one.mpr (length ▸ List.length_pos_iff.mpr (good 0).1)
  have whole := (good depth).alone (⟨rfl, rfl⟩ : Stops [])
  rw [List.append_nil] at whole
  unfold Formula.read
  rw [read, Option.bind_eq_bind, Option.bind_some, numbers, length, whole]

end SqlTest

namespace Predicate

variable (p : Predicate) (c : ColumnRef)

theorem on_expr : (p.expr c.qualified).On c := by
  unfold expr
  cases p.projection with
  | timeOfDay => rfl
  | value => cases p.condition.comparesInstants <;> rfl

theorem on_test : (p.test d c.qualified).On c := by
  have he (foldCase : Bool) : ((p.expr c.qualified).folded foldCase).On c := by
    cases foldCase <;> exact p.on_expr c
  have bound (v : SqlValue) (foldCase : Bool) : ((SqlExpr.bound v).folded foldCase).On c := by
    cases foldCase <;> trivial
  unfold test
  cases p.condition with
  | compare op o foldCase => exact ⟨he foldCase, bound _ foldCase⟩
  | between low high foldCase => exact ⟨he foldCase, bound _ foldCase, bound _ foldCase⟩
  | outside low high foldCase => exact ⟨he foldCase, bound _ foldCase, bound _ foldCase⟩
  | like placement needle negated => exact p.on_expr c
  | empty negated blankText => cases blankText <;> cases negated <;> exact p.on_expr c

/-- What a predicate on a column writes says of a row what its test does. -/
theorem read_fragment (r : SqlRules) (row : TableRow) (before after : List SqlValue) :
    ∃ q : Formula, Formula.read d before.length
        (before ++ (p.fragment d c.qualified).values ++ after)
        ((p.fragment d c.qualified).write d before.length) = some q ∧
      q.truth r row = (p.test d c.qualified).truth r d (row c) :=
  ⟨_, (p.on_test c).read before after, SqlTest.truth_formula r row c _⟩

end Predicate

end FieldQuery

import FieldQuery.Statement.Lexeme

/-!
# Nested lexemes

How lexemes put together nest and fall into conjuncts. Lexemes are plain if their parentheses are
balanced and no connective stands outside of them; anything balanced is plain once it is in
parentheses. A conjunct is plain, or tests whether something plain lies between two bounds. Main
statements: `Plain.call` and `splitConjuncts_joined`.
-/
namespace FieldQuery.Statement

variable {k d : Nat} {l : Lexeme} {a b c rest : List Lexeme} {nested : List (Nat × Lexeme)}

theorem nesting_open : nesting k (.sign '(' :: rest) =
    (nesting (k + 1) rest).map ((k, .sign '(') :: ·) := by
  cases k <;> rfl

theorem nesting_close : nesting (k + 1) (.sign ')' :: rest) =
    (nesting k rest).map ((k, .sign ')') :: ·) := rfl

theorem nesting_other (opens : l ≠ .sign '(') (closes : l ≠ .sign ')') :
    nesting k (l :: rest) = (nesting k rest).map ((k, l) :: ·) := by
  cases k <;> rw [nesting.eq_def] <;> simp only [if_neg opens, if_neg closes]

def deeper (d : Nat) (nested : List (Nat × Lexeme)) : List (Nat × Lexeme) :=
  nested.map fun (n, l) => (n + d, l)

/-- Balanced lexemes leave the depth of what follows them as it is. -/
theorem nesting_append (h : nesting k a = some nested) :
    nesting (k + d) (a ++ b) = (nesting d b).map (deeper d nested ++ ·) := by
  induction a generalizing k nested with
  | nil =>
    cases k with
    | zero =>
      cases h
      simp [deeper]
    | succ k => cases h
  | cons l rest ih =>
    rw [List.cons_append]
    by_cases opens : l = .sign '('
    · subst opens
      rw [nesting_open] at h ⊢
      obtain ⟨inner, read, rfl⟩ := Option.map_eq_some_iff.mp h
      rw [Nat.add_right_comm, ih read, Option.map_map]
      rfl
    · by_cases closes : l = .sign ')'
      · subst closes
        cases k with
        | zero => cases h
        | succ k =>
          rw [nesting_close] at h
          obtain ⟨inner, read, rfl⟩ := Option.map_eq_some_iff.mp h
          rw [Nat.add_right_comm, nesting_close, ih read, Option.map_map]
          rfl
      · rw [nesting_other opens closes] at h ⊢
        obtain ⟨inner, read, rfl⟩ := Option.map_eq_some_iff.mp h
        rw [ih read, Option.map_map]
        rfl

/-- Lexemes whose parentheses are balanced. -/
def Nests (ls : List Lexeme) : Prop := (nesting 0 ls).isSome = true

instance (ls : List Lexeme) : Decidable (Nests ls) := inferInstanceAs (Decidable (_ = _))

/-- Words that hold conditions together, or might be taken for such. -/
def Lexeme.isConnective (l : Lexeme) : Bool :=
  l.isKeyword "AND" || l.isKeyword "OR" || l.isKeyword "BETWEEN"

/-- Whether no connective stands outside of parentheses. -/
def quietOutside (nested : List (Nat × Lexeme)) : Bool :=
  nested.all fun (n, l) => n != 0 || !l.isConnective

/-- Balanced lexemes without connectives outside of parentheses. -/
def Plain (ls : List Lexeme) : Prop := (nesting 0 ls).any quietOutside = true

instance (ls : List Lexeme) : Decidable (Plain ls) := inferInstanceAs (Decidable (_ = _))

theorem plain_iff : Plain a ↔ ∃ nested, nesting 0 a = some nested ∧ quietOutside nested = true := by
  unfold Plain
  cases nesting 0 a <;> simp

theorem nests_iff : Nests a ↔ ∃ nested, nesting 0 a = some nested :=
  Option.isSome_iff_exists

theorem Plain.balanced (h : Plain a) : Nests a := by
  obtain ⟨nested, read, -⟩ := plain_iff.mp h
  exact nests_iff.mpr ⟨nested, read⟩

theorem deeper_zero (nested : List (Nat × Lexeme)) : deeper 0 nested = nested :=
  List.map_id' nested

theorem nesting_zero_append {more : List (Nat × Lexeme)} (ha : nesting 0 a = some nested)
    (hb : nesting 0 b = some more) : nesting 0 (a ++ b) = some (nested ++ more) := by
  have whole := nesting_append (d := 0) (b := b) ha
  rw [hb, deeper_zero] at whole
  exact whole

theorem Nests.append (ha : Nests a) (hb : Nests b) : Nests (a ++ b) := by
  obtain ⟨first, readA⟩ := nests_iff.mp ha
  obtain ⟨second, readB⟩ := nests_iff.mp hb
  exact nests_iff.mpr ⟨_, nesting_zero_append readA readB⟩

theorem Plain.append (ha : Plain a) (hb : Plain b) : Plain (a ++ b) := by
  obtain ⟨first, readA, quietA⟩ := plain_iff.mp ha
  obtain ⟨second, readB, quietB⟩ := plain_iff.mp hb
  refine plain_iff.mpr ⟨_, nesting_zero_append readA readB, ?_⟩
  unfold quietOutside at *
  rw [List.all_append, quietA, quietB]
  rfl

def enclose (ls : List Lexeme) : List Lexeme := .sign '(' :: (ls ++ [.sign ')'])

/-- In parentheses, balanced lexemes are plain. -/
theorem Nests.enclosed (h : Nests b) : Plain (enclose b) := by
  obtain ⟨nested, read⟩ := nests_iff.mp h
  have closing : nesting 1 [.sign ')'] = some [(0, .sign ')')] := rfl
  refine plain_iff.mpr ⟨(0, .sign '(') :: (deeper 1 nested ++ [(0, .sign ')')]), ?_, ?_⟩
  · have inner := nesting_append (d := 1) (b := [.sign ')']) read
    rw [enclose, nesting_open, inner, closing]
    rfl
  · have within : (deeper 1 nested).all (fun (n, l) => n != 0 || !l.isConnective) = true := by
      rw [List.all_eq_true]
      intro e mem
      obtain ⟨⟨n, l⟩, -, rfl⟩ := List.mem_map.mp mem
      rfl
    unfold quietOutside
    rw [List.all_cons, List.all_append, within]
    rfl

theorem Plain.call (ha : Plain a) (hb : Nests b) (hc : Plain c) :
    Plain (a ++ .sign '(' :: (b ++ .sign ')' :: c)) := by
  have whole := ha.append (hb.enclosed.append hc)
  simpa [enclose] using whole

/-- Nothing is lost where lexemes are given their depths. -/
theorem map_snd_of_nesting (h : nesting k a = some nested) : nested.map (·.2) = a := by
  induction a generalizing k nested with
  | nil =>
    cases k with
    | zero =>
      cases h
      rfl
    | succ k => cases h
  | cons l rest ih =>
    by_cases opens : l = .sign '('
    · subst opens
      rw [nesting_open] at h
      obtain ⟨inner, read, rfl⟩ := Option.map_eq_some_iff.mp h
      exact congrArg (Lexeme.sign '(' :: ·) (ih read)
    · by_cases closes : l = .sign ')'
      · subst closes
        cases k with
        | zero => cases h
        | succ k =>
          rw [nesting_close] at h
          obtain ⟨inner, read, rfl⟩ := Option.map_eq_some_iff.mp h
          exact congrArg (Lexeme.sign ')' :: ·) (ih read)
      · rw [nesting_other opens closes] at h
        obtain ⟨inner, read, rfl⟩ := Option.map_eq_some_iff.mp h
        exact congrArg (l :: ·) (ih read)

def andWord : Lexeme := .word ['A', 'N', 'D']

def betweenWord : Lexeme := .word ['B', 'E', 'T', 'W', 'E', 'E', 'N']

inductive Clause : List Lexeme → Prop where
  | plain {a : List Lexeme} (h : Plain a) : Clause a
  /-- The `AND` of a `BETWEEN` is its own. -/
  | between {a b c : List Lexeme} (value : Plain a) (low : Plain b) (high : Plain c) :
      Clause (a ++ betweenWord :: (b ++ andWord :: c))

/-- Whether no disjunction stands outside of parentheses. -/
def NoOutsideOr (nested : List (Nat × Lexeme)) : Prop :=
  ∀ e ∈ nested, e.1 = 0 → e.2.isKeyword "OR" = false

instance (nested : List (Nat × Lexeme)) : Decidable (NoOutsideOr nested) :=
  inferInstanceAs (Decidable (∀ e ∈ nested, e.1 = 0 → e.2.isKeyword "OR" = false))

theorem NoOutsideOr.append {more : List (Nat × Lexeme)} (h : NoOutsideOr nested)
    (hm : NoOutsideOr more) : NoOutsideOr (nested ++ more) := by
  intro e mem
  rcases List.mem_append.mp mem with first | second
  · exact h e first
  · exact hm e second

theorem noOutsideOr_of_quiet (h : quietOutside nested = true) : NoOutsideOr nested := by
  intro e mem outside
  have quiet := List.all_eq_true.mp h e mem
  simp only [outside, bne_self_eq_false, Bool.false_or, Bool.not_eq_true'] at quiet
  simp only [Lexeme.isConnective, Bool.or_eq_false_iff] at quiet
  exact quiet.1.2

/-- What is quiet outside of parentheses belongs to one conjunct. -/
theorem conjunctsFrom_quiet (h : quietOutside nested = true) (waiting : Bool)
    (rest : List (Nat × Lexeme)) :
    conjunctsFrom waiting (nested ++ rest) =
      (nested.map (·.2) ++ (conjunctsFrom waiting rest).1, (conjunctsFrom waiting rest).2) := by
  induction nested with
  | nil => rfl
  | cons e inner ih =>
    obtain ⟨depth, l⟩ := e
    unfold quietOutside at h ih
    rw [List.all_cons, Bool.and_eq_true] at h
    obtain ⟨here, later⟩ := h
    by_cases outside : depth = 0
    · subst outside
      have plain : l.isConnective = false := by simpa using here
      simp only [Lexeme.isConnective, Bool.or_eq_false_iff] at plain
      obtain ⟨⟨noAnd, noOr⟩, noBetween⟩ := plain
      rw [List.cons_append, conjunctsFrom]
      simp [noAnd, noBetween, ih later]
    · rw [List.cons_append, conjunctsFrom]
      simp [outside, ih later]

theorem conjunctsFrom_and (rest : List (Nat × Lexeme)) :
    conjunctsFrom false ((0, andWord) :: rest) =
      ([], (conjunctsFrom false rest).1 :: (conjunctsFrom false rest).2) := by
  have keyword : andWord.isKeyword "AND" = true := by decide
  rw [conjunctsFrom, if_pos ⟨rfl, keyword, rfl⟩]

theorem conjunctsFrom_between (rest : List (Nat × Lexeme)) :
    conjunctsFrom false ((0, betweenWord) :: rest) =
      (betweenWord :: (conjunctsFrom true rest).1, (conjunctsFrom true rest).2) := by
  have other : betweenWord.isKeyword "AND" = false := by decide
  have keyword : betweenWord.isKeyword "BETWEEN" = true := by decide
  rw [conjunctsFrom, if_neg (by simp [other])]
  simp [keyword]

/-- The `AND` that a `BETWEEN` waits for. -/
theorem conjunctsFrom_waiting (rest : List (Nat × Lexeme)) :
    conjunctsFrom true ((0, andWord) :: rest) =
      (andWord :: (conjunctsFrom false rest).1, (conjunctsFrom false rest).2) := by
  have keyword : andWord.isKeyword "AND" = true := by decide
  have other : andWord.isKeyword "BETWEEN" = false := by decide
  rw [conjunctsFrom, if_neg (by simp)]
  simp [keyword, other]

theorem nesting_cons_word {w : List Char} {more : List (Nat × Lexeme)}
    (h : nesting 0 b = some more) :
    nesting 0 (.word w :: b) = some ((0, .word w) :: more) := by
  rw [nesting_other (by simp) (by simp), h]
  rfl

/-- A clause is balanced and belongs to one conjunct, which ends where the clause does. -/
theorem Clause.read (h : Clause a) : ∃ nested, nesting 0 a = some nested ∧ NoOutsideOr nested ∧
    ∀ rest, conjunctsFrom false (nested ++ rest) =
      (a ++ (conjunctsFrom false rest).1, (conjunctsFrom false rest).2) := by
  cases h with
  | plain h =>
    obtain ⟨nested, read, quiet⟩ := plain_iff.mp h
    refine ⟨nested, read, noOutsideOr_of_quiet quiet, ?_⟩
    intro rest
    rw [conjunctsFrom_quiet quiet, map_snd_of_nesting read]
  | @between a b c value low high =>
    obtain ⟨first, readA, quietA⟩ := plain_iff.mp value
    obtain ⟨second, readB, quietB⟩ := plain_iff.mp low
    obtain ⟨third, readC, quietC⟩ := plain_iff.mp high
    have tail := nesting_zero_append readB (nesting_cons_word (w := ['A', 'N', 'D']) readC)
    refine ⟨_, nesting_zero_append readA (nesting_cons_word tail), ?_, ?_⟩
    · refine (noOutsideOr_of_quiet quietA).append ?_
      have connective : NoOutsideOr [(0, betweenWord)] := by decide
      have own : NoOutsideOr [(0, andWord)] := by decide
      exact connective.append ((noOutsideOr_of_quiet quietB).append
        (own.append (noOutsideOr_of_quiet quietC)))
    · intro rest
      change conjunctsFrom false
        ((first ++ (0, betweenWord) :: (second ++ (0, andWord) :: third)) ++ rest) = _
      rw [List.append_assoc, conjunctsFrom_quiet quietA, List.cons_append, conjunctsFrom_between,
        List.append_assoc, conjunctsFrom_quiet quietB, List.cons_append, conjunctsFrom_waiting,
        conjunctsFrom_quiet quietC, map_snd_of_nesting readA, map_snd_of_nesting readB,
        map_snd_of_nesting readC]
      simp

def joined : List (List Lexeme) → List Lexeme
  | [] => []
  | [ls] => ls
  | ls :: rest => ls ++ andWord :: joined rest

theorem joined_cons {ls : List Lexeme} {clauses : List (List Lexeme)} (h : clauses ≠ []) :
    joined (ls :: clauses) = ls ++ andWord :: joined clauses := by
  cases clauses with
  | nil => exact absurd rfl h
  | cons next rest => rfl

theorem joined_append {first second : List (List Lexeme)} (hf : first ≠ []) (hs : second ≠ []) :
    joined (first ++ second) = joined first ++ andWord :: joined second := by
  induction first with
  | nil => exact absurd rfl hf
  | cons ls rest ih =>
    cases rest with
    | nil => exact joined_cons hs
    | cons next rest =>
      have more : next :: rest ≠ [] := List.cons_ne_nil next rest
      rw [List.cons_append, joined_cons (List.append_ne_nil_of_left_ne_nil more second), ih more,
        joined_cons more, List.append_assoc, List.cons_append]

theorem joined_flatten {groups : List (List (List Lexeme))} (h : ∀ g ∈ groups, g ≠ []) :
    joined (groups.map joined) = joined groups.flatten := by
  induction groups with
  | nil => rfl
  | cons g rest ih =>
    have first : g ≠ [] := h g List.mem_cons_self
    have later := ih fun other mem => h other (List.mem_cons_of_mem g mem)
    cases rest with
    | nil => simp [joined]
    | cons next rest =>
      have more : (next :: rest).flatten ≠ [] := by
        have nonempty : next ≠ [] := h next (List.mem_cons_of_mem g List.mem_cons_self)
        simp [nonempty]
      rw [List.map_cons, joined_cons (by simp), later]
      exact (joined_append first more).symm

/-- Clauses with `AND` between them are read as the conjuncts that they are. -/
theorem splitConjuncts_joined {clauses : List (List Lexeme)} (nonempty : clauses ≠ [])
    (h : ∀ ls ∈ clauses, Clause ls) :
    ∃ nested, nesting 0 (joined clauses) = some nested ∧ NoOutsideOr nested ∧
      splitConjuncts nested = clauses := by
  induction clauses with
  | nil => exact absurd rfl nonempty
  | cons ls rest ih =>
    obtain ⟨nested, read, noOr, parts⟩ := (h ls List.mem_cons_self).read
    by_cases last : rest = []
    · subst last
      have whole := parts []
      rw [List.append_nil] at whole
      refine ⟨nested, read, noOr, ?_⟩
      rw [splitConjuncts, whole, conjunctsFrom, List.append_nil]
    · obtain ⟨others, readOthers, noOrOthers, partsOthers⟩ :=
        ih last fun other mem => h other (List.mem_cons_of_mem ls mem)
      refine ⟨nested ++ (0, andWord) :: others, ?_, ?_, ?_⟩
      · rw [joined_cons last]
        exact nesting_zero_append read (nesting_cons_word readOthers)
      · have own : NoOutsideOr [(0, andWord)] := by decide
        exact noOr.append (own.append noOrOthers)
      · rw [splitConjuncts, parts, conjunctsFrom_and, List.append_nil]
        exact congrArg (ls :: ·) partsOthers

end FieldQuery.Statement

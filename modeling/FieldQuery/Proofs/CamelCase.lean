import FieldQuery.Proofs.Relations
import Mathlib.Data.List.Chain

/-!
# Names spelled with capitals

Requests spell the words of a column with capitals in place of underscores. The underscores come
back where a capital shows that a word begins. A digit shows nothing, and capitals that stand
together are read as one word up to the last of them, so some columns are not reached by their
spelling. Main statement: `camel_finds_column`.
-/
namespace FieldQuery

namespace Text

variable {c p : Char} {s w rest : List Char} {later : List (List Char)} {before next : Option Char}

/-- Words as requests spell them: the first as it is, and each later one capitalised. -/
def camel (first : List Char) (later : List (List Char)) : List Char :=
  first ++ later.flatMap capitalize

/-- Small letters and digits, of which the words of names consist. -/
def isSmall (c : Char) : Bool := c.isLower || c.isDigit

structure IsWord (w : List Char) : Prop where
  there : w ≠ []
  small : ∀ c ∈ w, isSmall c = true

instance (w : List Char) : Decidable (IsWord w) :=
  decidable_of_iff (w ≠ [] ∧ w.all isSmall = true)
    ⟨fun h => ⟨h.1, List.all_eq_true.mp h.2⟩, fun h => ⟨h.there, List.all_eq_true.mpr h.small⟩⟩

def letterAt (i : Nat) (w : List Char) : Bool := w[i]?.any Char.isLower

/-- Whether capitals show where words begin: each word begins with a letter, and the word after a
single letter goes on with one. -/
structure Legible (later : List (List Char)) : Prop where
  letters : ∀ w ∈ later, letterAt 0 w = true
  singles : later.IsChain fun u v => u.length = 1 → letterAt 1 v = true

instance (later : List (List Char)) : Decidable (Legible later) :=
  decidable_of_iff ((∀ w ∈ later, letterAt 0 w = true) ∧
      later.IsChain fun u v => u.length = 1 → letterAt 1 v = true)
    ⟨fun h => ⟨h.1, h.2⟩, fun h => ⟨h.letters, h.singles⟩⟩

theorem toNat_lt_of_isSmall (small : isSmall c = true) : c.toNat < 0x80 := by
  rcases (Bool.or_eq_true _ _).mp small with letter | digit
  · have last : c.val ≤ 'z'.val := of_decide_eq_true ((Bool.and_eq_true _ _).mp letter).2
    exact Nat.lt_of_le_of_lt (UInt32.le_iff_toNat_le.mp last) (by decide)
  · have last : c.val ≤ '9'.val := of_decide_eq_true ((Bool.and_eq_true _ _).mp digit).2
    exact Nat.lt_of_le_of_lt (UInt32.le_iff_toNat_le.mp last) (by decide)

theorem small_kept (small : isSmall c = true) : isUpper c = false ∧ isLower c = c.isLower ∧
    c.toLower = c ∧ c ≠ '_' ∧ (c.isLower = false → upperChar c = [c]) := by
  have each : ∀ n < 0x80, isSmall (Char.ofNat n) = true →
      isUpper (Char.ofNat n) = false ∧ isLower (Char.ofNat n) = (Char.ofNat n).isLower ∧
      (Char.ofNat n).toLower = Char.ofNat n ∧ Char.ofNat n ≠ '_' ∧
      ((Char.ofNat n).isLower = false → upperChar (Char.ofNat n) = [Char.ofNat n]) := by
    decide +kernel
  have here := each c.toNat (toNat_lt_of_isSmall small)
  rw [Char.ofNat_toNat] at here
  exact here small

theorem letter_raised (letter : c.isLower = true) : upperChar c = [c.toUpper] ∧
    isUpper c.toUpper = true ∧ isLower c.toUpper = false ∧ c.toUpper.isDigit = false ∧
    c.toUpper ≠ '_' ∧ lowerChar c.toUpper = [c] := by
  have each : ∀ n < 0x80, (Char.ofNat n).isLower = true →
      upperChar (Char.ofNat n) = [(Char.ofNat n).toUpper] ∧
      isUpper (Char.ofNat n).toUpper = true ∧ isLower (Char.ofNat n).toUpper = false ∧
      (Char.ofNat n).toUpper.isDigit = false ∧ (Char.ofNat n).toUpper ≠ '_' ∧
      lowerChar (Char.ofNat n).toUpper = [Char.ofNat n] := by
    decide +kernel
  have small : isSmall c = true := (Bool.or_eq_true _ _).mpr (.inl letter)
  have here := each c.toNat (toNat_lt_of_isSmall small)
  rw [Char.ofNat_toNat] at here
  exact here letter

theorem asciiLower_small (small : ∀ c ∈ s, c = '_' ∨ isSmall c = true) : asciiLower s = s := by
  have kept : ∀ c ∈ s, c.toLower = c := by
    intro c mem
    rcases small c mem with rfl | small
    · decide
    · exact (small_kept small).2.2.1
  exact (List.map_congr_left kept).trans (List.map_id s)

/-- What stands before a word: a sign of a word, or the capital of a word of one letter. -/
inductive Behind : Bool → Char → Prop
  | small {c : Char} (small : isSmall c = true) : Behind false c
  | capital {c : Char} (letter : c.isLower = true) : Behind true c.toUpper

/-- A capital behind another one begins a word only if a small letter follows. -/
theorem Behind.startsWord {single : Bool} (behind : Behind single p) :
    startsWord (some p) next = (!single || (next.map isLower).getD false) := by
  cases behind with
  | small small =>
    obtain ⟨-, letter, -, other, -⟩ := small_kept small
    have either : (isLower p || p.isDigit) = true := by
      rw [letter]
      exact small
    simp [Text.startsWord, other, (Bool.or_eq_true _ _).mp either]
  | capital letter =>
    obtain ⟨-, upper, lower, digit, other, -⟩ := letter_raised letter
    simp [Text.startsWord, other, lower, digit, upper]

theorem snakeFrom_append (plain : ∀ c ∈ s, isUpper c = false) :
    snakeFrom before (s ++ rest) = s ++ snakeFrom (s.getLast?.or before) rest := by
  induction s generalizing before with
  | nil => rfl
  | cons c s ih =>
    obtain ⟨here, later⟩ := List.forall_mem_cons.mp plain
    rw [List.cons_append, snakeFrom, here, ih later, List.getLast?_cons]
    cases s.getLast? <;> rfl

theorem snakeFrom_capitalize (letter : c.isLower = true) (small : ∀ d ∈ w, isSmall d = true) :
    snakeFrom before (capitalize (c :: w) ++ rest) =
      (if startsWord before (w ++ rest).head? then ['_'] else []) ++ c :: w ++
        snakeFrom (w.getLast?.or (some c.toUpper)) rest := by
  obtain ⟨raised, upper, -, -, -, lowered⟩ := letter_raised letter
  have plain : ∀ d ∈ w, isUpper d = false := fun d mem => (small_kept (small d mem)).1
  rw [capitalize, raised, List.singleton_append, List.cons_append, snakeFrom, if_pos upper, lowered,
    snakeFrom_append plain]
  simp

/-- The spelling of words begins with a capital or with a digit. -/
theorem isLower_head_later (words : ∀ w ∈ later, IsWord w) :
    ((later.flatMap capitalize).head?.map isLower).getD false = false := by
  cases later with
  | nil => rfl
  | cons w later =>
    obtain ⟨there, small⟩ := words w List.mem_cons_self
    cases w with
    | nil => exact absurd rfl there
    | cons c w =>
      obtain ⟨here, -⟩ := List.forall_mem_cons.mp small
      cases letter : c.isLower with
      | true =>
        obtain ⟨raised, -, lower, -⟩ := letter_raised letter
        simp [capitalize, raised, lower]
      | false =>
        obtain ⟨-, lower, -, -, same⟩ := small_kept here
        simp [capitalize, same letter, lower, letter]

/-- Words with the underscores that come back, where the word before may be a single letter. -/
def respelled : Bool → List (List Char) → List Char
  | _, [] => []
  | single, w :: later =>
    (if letterAt 0 w && (!single || letterAt 1 w) then '_' :: w else w) ++
      respelled (letterAt 0 w && w.length == 1) later

theorem exists_behind_letter (letter : c.isLower = true) (small : ∀ d ∈ w, isSmall d = true) :
    ∃ q, w.getLast?.or (some c.toUpper) = some q ∧ Behind ((c :: w).length == 1) q := by
  cases w with
  | nil => exact ⟨_, rfl, .capital letter⟩
  | cons d w =>
    have last := small _ (List.getLast_mem (List.cons_ne_nil d w))
    exact ⟨_, by rw [List.getLast?_eq_some_getLast (List.cons_ne_nil d w)]; rfl, .small last⟩

theorem exists_behind_word (before : Option Char) (word : IsWord w) :
    ∃ q, w.getLast?.or before = some q ∧ Behind false q := by
  have last := word.small _ (List.getLast_mem word.there)
  exact ⟨_, by rw [List.getLast?_eq_some_getLast word.there]; rfl, .small last⟩

theorem snakeFrom_later {single : Bool} (behind : Behind single p)
    (words : ∀ w ∈ later, IsWord w) :
    snakeFrom (some p) (later.flatMap capitalize) = respelled single later := by
  induction later generalizing single p with
  | nil => rfl
  | cons w later ih =>
    obtain ⟨word, others⟩ := List.forall_mem_cons.mp words
    rw [List.flatMap_cons, respelled]
    cases w with
    | nil => exact absurd rfl word.there
    | cons c w =>
      obtain ⟨here, after⟩ := List.forall_mem_cons.mp word.small
      have first : letterAt 0 (c :: w) = c.isLower := rfl
      cases letter : c.isLower with
      | true =>
        have follows : ((w ++ later.flatMap capitalize).head?.map isLower).getD false =
            letterAt 1 (c :: w) := by
          cases w with
          | nil => exact isLower_head_later others
          | cons d w => exact (small_kept (after d List.mem_cons_self)).2.1
        obtain ⟨q, last, behind'⟩ := exists_behind_letter letter after
        rw [snakeFrom_capitalize letter after, behind.startsWord, follows, last, ih behind' others,
          first, letter, Bool.true_and, Bool.true_and]
        cases !single || letterAt 1 (c :: w) <;> rfl
      | false =>
        obtain ⟨q, last, behind'⟩ := exists_behind_word (some p) word
        have same : capitalize (c :: w) = c :: w := by
          rw [capitalize, (small_kept here).2.2.2.2 letter]
          rfl
        have plain : ∀ d ∈ c :: w, isUpper d = false := fun d mem =>
          (small_kept (word.small d mem)).1
        rw [same, snakeFrom_append plain, last, ih behind' others, first, letter]
        rfl

theorem snakeFrom_camel {first : List Char} (word : IsWord first) (words : ∀ w ∈ later, IsWord w) :
    snakeFrom none (camel first later) = first ++ respelled false later := by
  obtain ⟨q, last, behind⟩ := exists_behind_word none word
  have plain : ∀ d ∈ first, isUpper d = false := fun d mem => (small_kept (word.small d mem)).1
  rw [camel, snakeFrom_append plain, last, snakeFrom_later behind words]

theorem small_respelled {single : Bool} (words : ∀ w ∈ later, IsWord w) :
    ∀ c ∈ respelled single later, c = '_' ∨ isSmall c = true := by
  induction later generalizing single with
  | nil => exact nofun
  | cons w later ih =>
    obtain ⟨word, others⟩ := List.forall_mem_cons.mp words
    intro c mem
    rcases List.mem_append.mp mem with here | there
    · split at here
      · rcases List.mem_cons.mp here with rfl | inside
        · exact .inl rfl
        · exact .inr (word.small c inside)
      · exact .inr (word.small c here)
    · exact ih others c there

theorem legible_cons : Legible (w :: later) ↔ letterAt 0 w = true ∧
    (w.length = 1 → ∀ v ∈ later.head?, letterAt 1 v = true) ∧ Legible later := by
  constructor
  · rintro ⟨letters, singles⟩
    obtain ⟨first, letters⟩ := List.forall_mem_cons.mp letters
    obtain ⟨next, singles⟩ := List.isChain_cons.mp singles
    exact ⟨first, fun single v mem => next v mem single, letters, singles⟩
  · rintro ⟨first, next, letters, singles⟩
    refine ⟨List.forall_mem_cons.mpr ⟨first, letters⟩, List.isChain_cons.mpr ⟨?_, singles⟩⟩
    exact fun v mem single => next single v mem

/-- All underscores come back exactly if capitals show where the words begin. -/
theorem respelled_eq_iff {single : Bool} (words : ∀ w ∈ later, IsWord w) :
    respelled single later = later.flatMap ('_' :: ·) ↔
      Legible later ∧ (single = true → ∀ w ∈ later.head?, letterAt 1 w = true) := by
  induction later generalizing single with
  | nil => exact iff_of_true rfl ⟨⟨nofun, .nil⟩, nofun⟩
  | cons w later ih =>
    obtain ⟨word, others⟩ := List.forall_mem_cons.mp words
    rw [respelled, List.flatMap_cons]
    by_cases shows : (letterAt 0 w && (!single || letterAt 1 w)) = true
    · obtain ⟨first, second⟩ := (Bool.and_eq_true _ _).mp shows
      rw [if_pos shows, List.append_cancel_left_eq, ih others, legible_cons, first, Bool.true_and,
        beq_iff_eq]
      have goesOn : single = true → letterAt 1 w = true := by
        intro alone
        rw [alone] at second
        exact second
      constructor
      · rintro ⟨legible, next⟩
        exact ⟨⟨rfl, next, legible⟩, fun alone v mem => Option.mem_some.mp mem ▸ goesOn alone⟩
      · rintro ⟨⟨-, next, legible⟩, -⟩
        exact ⟨legible, next⟩
    · rw [if_neg shows]
      constructor
      · -- without the underscore the word would have to begin with one
        intro same
        obtain ⟨c, rest, rfl⟩ := List.exists_cons_of_ne_nil word.there
        have begins : c = '_' := (List.cons.inj same).1
        exact absurd begins (small_kept (word.small c List.mem_cons_self)).2.2.2.1
      · rintro ⟨legible, goesOn⟩
        refine absurd ?_ shows
        rw [(legible_cons.mp legible).1, Bool.true_and, Bool.or_eq_true, Bool.not_eq_true']
        cases single with
        | false => exact .inl rfl
        | true => exact .inr (goesOn rfl w rfl)

theorem intercalate_underscore (first : List Char) (later : List (List Char)) :
    ['_'].intercalate (first :: later) = first ++ later.flatMap ('_' :: ·) := by
  induction later generalizing first with
  | nil => simp
  | cons w later ih => rw [List.intercalate_cons_cons, ih]; simp

/-- Neither a word nor its capitalised form has a sign in it. -/
theorem separator_not_mem_camel {m : Char} (sign : m ∈ separators) {first : List Char}
    (words : ∀ w ∈ first :: later, IsWord w) : m ∉ camel first later := by
  have other : ∀ w ∈ first :: later, ∀ c ∈ w, c ≠ m := by
    intro w mem c inside same
    have small := same ▸ (words w mem).small c inside
    rcases separator_cases sign with rfl | rfl <;> cases small
  intro mem
  rcases List.mem_append.mp mem with here | there
  · exact other first List.mem_cons_self m here rfl
  · obtain ⟨w, found, inside⟩ := List.mem_flatMap.mp there
    have plain := other w (List.mem_cons_of_mem first found)
    cases w with
    | nil => cases inside
    | cons c w =>
      rcases List.mem_append.mp inside with raised | kept
      · exact separator_not_mem_upperChar sign (plain c List.mem_cons_self) raised
      · exact plain m (List.mem_cons_of_mem c kept) rfl

/-- A name is spelled without its underscores, and gets them back or not. -/
theorem reaches_iff {first : List Char} (words : ∀ w ∈ first :: later, IsWord w) {name : String}
    (named : name = String.ofList (['_'].intercalate (first :: later))) :
    (eqIgnoreAsciiCase name (String.ofList (camel first later)) ||
      eqIgnoreAsciiCase name (snake (String.ofList (camel first later)))) = true ↔
        Legible later := by
  obtain ⟨word, others⟩ := List.forall_mem_cons.mp words
  have joined : name.toList = first ++ later.flatMap ('_' :: ·) := by
    rw [named, String.toList_ofList, intercalate_underscore]
  have small : asciiLower name.toList = name.toList := by
    refine asciiLower_small fun c mem => ?_
    rw [joined] at mem
    rcases List.mem_append.mp mem with here | there
    · exact .inr (word.small c here)
    · obtain ⟨w, found, inside⟩ := List.mem_flatMap.mp there
      exact (List.mem_cons.mp inside).imp_right ((others w found).small c)
  have snaked : (snake (String.ofList (camel first later))).toList =
      first ++ respelled false later := by
    rw [snake, String.toList_ofList, String.toList_ofList, snakeFrom_camel word others]
  have lowered : asciiLower (first ++ respelled false later) = first ++ respelled false later := by
    refine asciiLower_small fun c mem => ?_
    exact (List.mem_append.mp mem).elim (fun here => .inr (word.small c here))
      (small_respelled others c)
  have back : eqIgnoreAsciiCase name (snake (String.ofList (camel first later))) = true ↔
      Legible later := by
    rw [eqIgnoreAsciiCase_iff, snaked, small, lowered, joined, List.append_cancel_left_eq, eq_comm,
      respelled_eq_iff others]
    exact and_iff_left fun single => absurd single Bool.false_ne_true
  rw [Bool.or_eq_true, back]
  refine or_iff_right_of_imp fun as_is => ?_
  -- a name that is spelled as it is has no underscore, and so it is a single word
  cases later with
  | nil => exact ⟨List.forall_mem_nil _, .nil⟩
  | cons w later =>
    have there : '_' ∈ name.toList := by
      rw [joined]
      simp
    have missing := separator_not_mem_camel (m := '_') (by decide) words
    rw [separator_mem_iff (by decide) as_is, String.toList_ofList] at there
    exact absurd there missing

end Text

namespace TableSchema

open Text

variable {t : TableSchema} {c : Column} {first : List Char} {later : List (List Char)}

/-- A column whose name consists of words is reached by their spelling with capitals, as a name and
as a path, exactly if each of its later words begins with a letter and a word behind a single letter
goes on with one. Otherwise the spelling finds nothing. -/
theorem camel_finds_column (only : t.columns = [c])
    (words : ∀ w ∈ first :: later, IsWord w)
    (named : c.name = String.ofList (['_'].intercalate (first :: later))) :
    (t.findColumn (String.ofList (camel first later)) = some c ↔ Legible later) ∧
    (¬ Legible later → t.findColumn (String.ofList (camel first later)) = none) ∧
    ∀ column, t.resolve? (String.ofList (camel first later)) = some column ↔
      Legible later ∧ column = ⟨⟨t.table, c.name⟩, [], c.kind, c.nullable⟩ := by
  have reaches := reaches_iff words named
  have found (legible : Legible later) :
      t.findColumn (String.ofList (camel first later)) = some c := by
    rw [findColumn, only, List.find?_singleton, if_pos (reaches.mpr legible)]
  have missed (illegible : ¬ Legible later) :
      t.findColumn (String.ofList (camel first later)) = none := by
    rw [findColumn, only, List.find?_singleton, if_neg (mt reaches.mp illegible)]
  refine ⟨⟨fun there => ?_, found⟩, missed, fun column => ?_⟩
  · by_contra illegible
    cases there.symm.trans (missed illegible)
  · have dotless : '.' ∉ camel first later := separator_not_mem_camel (by decide) words
    have whole : segments (String.ofList (camel first later)) =
        [String.ofList (camel first later)] := by
      rw [segments, String.toList_ofList, pieces_of_not_mem dotless]
      rfl
    rw [resolve?_eq_some, whole]
    constructor
    · rintro ⟨names, terminal, joins, source, target, d, split, -, follows, at_end, rfl⟩
      obtain ⟨rfl, alone⟩ := List.append_eq_singleton_iff.mp split.symm
        |>.resolve_right fun none => List.cons_ne_nil _ _ none.2
      obtain rfl := List.singleton_inj.mp alone
      cases follows
      by_cases legible : Legible later
      · cases (found legible).symm.trans at_end
        exact ⟨legible, rfl⟩
      · cases (missed legible).symm.trans at_end
    · rintro ⟨legible, rfl⟩
      have there : String.ofList (camel first later) ≠ "" := by
        intro empty
        have nothing := congrArg String.toList empty
        rw [String.toList_ofList] at nothing
        exact (words first List.mem_cons_self).there (List.append_eq_nil_iff.mp nothing).1
      exact ⟨[], _, [], t.table, t, c, rfl, there, rfl, found legible, rfl⟩

namespace Addresses

def costs : Column := ⟨"plan_b_costs", .real, false⟩

def line : Column := ⟨"address_line_1", .text, true⟩

def point : Column := ⟨"point_x_y", .real, false⟩

def alone (c : Column) : TableSchema := ⟨"addresses", [c], [], none, none, none⟩

end Addresses

open Addresses in
theorem camel_finds_column_costs :
    (alone costs).columns = [costs] ∧
    (∀ w ∈ ["plan".toList, "b".toList, "costs".toList], IsWord w) ∧
    costs.name = String.ofList (['_'].intercalate ["plan".toList, "b".toList, "costs".toList]) ∧
    (alone costs).findColumn "planBCosts" = some costs ∧
    ((alone costs).resolve? "planBCosts").map (·.column) = some "plan_b_costs" := by
  have words : ∀ w ∈ ["plan".toList, "b".toList, "costs".toList], IsWord w := by decide
  have legible : Legible ["b".toList, "costs".toList] := by decide
  have spelled : "planBCosts" = String.ofList (camel "plan".toList ["b".toList, "costs".toList]) :=
    by decide
  obtain ⟨found, -, path⟩ := camel_finds_column (t := alone costs) rfl words (by decide)
  rw [spelled]
  refine ⟨rfl, words, by decide, found.mpr legible, ?_⟩
  rw [(path _).mpr ⟨legible, rfl⟩]
  rfl

open Addresses in
/-- Neither the number of a line nor the second of two coordinates is found as it is spelled. -/
theorem run_together_words_unfound :
    (∀ w ∈ ["address".toList, "line".toList, "1".toList], IsWord w) ∧
    line.name = String.ofList (['_'].intercalate ["address".toList, "line".toList, "1".toList]) ∧
    camel "address".toList ["line".toList, "1".toList] = "addressLine1".toList ∧
    (alone line).findColumn "addressLine1" = none ∧
    (∀ w ∈ ["point".toList, "x".toList, "y".toList], IsWord w) ∧
    point.name = String.ofList (['_'].intercalate ["point".toList, "x".toList, "y".toList]) ∧
    camel "point".toList ["x".toList, "y".toList] = "pointXY".toList ∧
    (alone point).findColumn "pointXY" = none := by
  refine ⟨by decide, by decide, by decide, by decide +kernel, by decide, by decide, by decide,
    by decide +kernel⟩

end TableSchema

end FieldQuery

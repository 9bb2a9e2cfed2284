import FieldQuery.Proofs.Judging
import FieldQuery.Proofs.LetterFolding

/-!
# Sigmas at the ends of words

A search lowers the sought text and the searched one, each as a whole. Characters are lowered one by
one except for the capital sigma, which takes another form at the end of a word, so a text may be
lowered otherwise where it stands in a longer one. A search finds every text that has the sought one
in its place exactly if no neighbour can tell on a sigma of it. Main statement:
`search_finds_exact_iff`.
-/
namespace FieldQuery

namespace Text

/-- Whether a sigma between two texts, the one behind it reversed, stands at the end of a word. -/
def endsWord (behind ahead : List Char) : Bool := leadsToCased behind && !leadsToCased ahead

/-- Lowers a text that goes on, with what is behind it reversed. -/
def lowerBefore (after : List Char) : List Char → List Char → List Char
  | _, [] => []
  | behind, c :: rest =>
    if c = 'Σ' then
      (if endsWord behind (rest ++ after) then 'ς' else 'σ') ::
        lowerBefore after (c :: behind) rest
    else lowerChar c ++ lowerBefore after (c :: behind) rest

variable {behind behind' after s t : List Char}

/-- A text is lowered part by part, each part with a view of the others. -/
theorem lowerFrom_append (behind s after : List Char) :
    lowerFrom behind (s ++ after) =
      lowerBefore after behind s ++ lowerFrom (s.reverse ++ behind) after := by
  induction s generalizing behind with
  | nil => rfl
  | cons c rest ih =>
    by_cases sigma : c = 'Σ'
    · simp [lowerFrom, lowerBefore, endsWord, sigma, ih]
    · simp [lowerFrom, lowerBefore, sigma, ih]

theorem lowerBefore_nil (behind s : List Char) : lowerBefore [] behind s = lowerFrom behind s := by
  have whole := lowerFrom_append behind s []
  simpa [lowerFrom] using whole.symm

theorem lower_eq_lowerBefore (s : List Char) : lower s = lowerBefore [] [] s :=
  (lowerBefore_nil [] s).symm

theorem length_lowerBefore {after after' behind behind' s : List Char} :
    (lowerBefore after behind s).length = (lowerBefore after' behind' s).length := by
  induction s generalizing behind behind' with
  | nil => rfl
  | cons c rest ih =>
    have later : (lowerBefore after (c :: behind) rest).length =
        (lowerBefore after' (c :: behind') rest).length := ih
    by_cases sigma : c = 'Σ'
    · simp only [lowerBefore, if_pos sigma, List.length_cons, later]
    · simp only [lowerBefore, if_neg sigma, List.length_append, later]

/-- The two forms of a small sigma are different. -/
theorem sigma_eq_iff {a b : Bool} :
    (if a then 'ς' else 'σ') = (if b then 'ς' else 'σ') ↔ a = b := by
  cases a <;> cases b <;> simp

/-- Two contexts lower a text alike exactly if they agree on each of its sigmas. -/
theorem lowerBefore_eq_iff {after' : List Char} :
    lowerBefore after behind s = lowerBefore after' behind' s ↔
      ∀ l r, s = l ++ 'Σ' :: r →
        endsWord (l.reverse ++ behind) (r ++ after) =
          endsWord (l.reverse ++ behind') (r ++ after') := by
  induction s generalizing behind behind' with
  | nil => simp [lowerBefore]
  | cons c rest ih =>
    have later : lowerBefore after (c :: behind) rest = lowerBefore after' (c :: behind') rest ↔
        ∀ l r, rest = l ++ 'Σ' :: r →
          endsWord ((c :: l).reverse ++ behind) (r ++ after) =
            endsWord ((c :: l).reverse ++ behind') (r ++ after') := by
      rw [ih]
      simp
    have here : lowerBefore after behind (c :: rest) = lowerBefore after' behind' (c :: rest) ↔
        (c = 'Σ' → endsWord behind (rest ++ after) = endsWord behind' (rest ++ after')) ∧
          lowerBefore after (c :: behind) rest = lowerBefore after' (c :: behind') rest := by
      by_cases sigma : c = 'Σ'
      · subst sigma
        simp [lowerBefore, sigma_eq_iff]
      · simp [lowerBefore, sigma]
    rw [here, later]
    constructor
    · rintro ⟨first, others⟩ l r split
      cases l with
      | nil =>
        obtain ⟨sigma, rfl⟩ := List.cons.inj split
        exact first sigma
      | cons d l =>
        obtain ⟨rfl, rest_eq⟩ := List.cons.inj split
        exact others l r rest_eq
    · intro all
      constructor
      · rintro rfl
        exact all [] rest rfl
      · intro l r split
        exact all (c :: l) r (congrArg (c :: ·) split)

/-- Past characters that case rules ignore, the view goes on beyond the text. -/
theorem leadsToCased_append (s t : List Char) :
    leadsToCased (s ++ t) = if s.all isCaseIgnorable then leadsToCased t else leadsToCased s := by
  induction s with
  | nil => rfl
  | cons c rest ih =>
    by_cases ignored : isCaseIgnorable c
    · simpa [leadsToCased, List.dropWhile_cons, ignored] using ih
    · simp [leadsToCased, ignored]

/-- A text of such characters alone leads nowhere. -/
theorem leadsToCased_of_all (open_ : s.all isCaseIgnorable = true) : leadsToCased s = false := by
  have beyond := leadsToCased_append s []
  simpa [open_, leadsToCased] using beyond

/-- Any letter that is not the one to avoid, to stand next to a text. -/
theorem exists_neighbour (avoid : Option Char) :
    ∃ x, avoid ≠ some x ∧ (∀ behind after, lowerBefore after behind [x] = [x]) ∧
      leadsToCased [x] = true := by
  by_cases taken : avoid = some 'a'
  · refine ⟨'b', ?_, fun behind after => rfl, by decide +kernel⟩
    rw [taken]
    decide
  · exact ⟨'a', taken, fun behind after => rfl, by decide +kernel⟩

end Text

namespace Placement

open Text

variable {p : Placement} {v w : List Char} {x : Char}

/-- Whether every sigma of a text takes the same form wherever the text stands in a place. One at
the beginning, if something may stand before it, is to be followed by a letter within the text, and
one at the end of a word, if something may stand after it, by something else than characters that
case rules ignore. -/
structure Settled (p : Placement) (v : List Char) : Prop where
  beginning : p ≠ .atStart → ∀ l r, v = l ++ 'Σ' :: r → l.all isCaseIgnorable = true →
    leadsToCased r = true
  ending : p ≠ .atEnd → ∀ l r, v = l ++ 'Σ' :: r → leadsToCased l.reverse = true →
    r.all isCaseIgnorable = false

/-- Without capital sigmas there is nothing to tell on. -/
theorem settled_of_not_mem (none : 'Σ' ∉ v) : p.Settled v := by
  constructor
  · rintro - l r rfl
    simp at none
  · rintro - l r rfl
    simp at none

theorem Settled.endsWord_eq (h : p.Settled v) {before after l r : List Char}
    (start : p = .atStart → before = []) (last : p = .atEnd → after = [])
    (split : v = l ++ 'Σ' :: r) :
    endsWord (l.reverse ++ before) (r ++ after) = endsWord l.reverse r := by
  unfold endsWord
  rw [leadsToCased_append, leadsToCased_append, List.all_reverse]
  cases open_ : l.all isCaseIgnorable with
  | true =>
    have alone : leadsToCased l.reverse = false :=
      leadsToCased_of_all (by rwa [List.all_reverse])
    by_cases free : p = .atStart
    · rw [start free, alone]
      rfl
    · have ahead := h.beginning free l r split open_
      cases ignored : r.all isCaseIgnorable with
      | true =>
        rw [leadsToCased_of_all ignored] at ahead
        cases ahead
      | false => simp [ahead]
  | false =>
    cases cased : leadsToCased l.reverse with
    | false => rfl
    | true =>
      by_cases free : p = .atEnd
      · cases ignored : r.all isCaseIgnorable with
        | true =>
          rw [last free, leadsToCased_of_all ignored]
          rfl
        | false => rfl
      · rw [h.ending free l r split cased]
        rfl

/-- A settled text is found in lower case wherever it stands. -/
theorem Settled.finds_lower (h : p.Settled v) {t : List Char} (stands : p.finds v t = true) :
    p.finds (lower v) (lower t) = true := by
  obtain ⟨before, after, rfl, start, last⟩ := (p.finds_iff v t).mp stands
  have same : lowerBefore after before.reverse v = lower v := by
    rw [lower_eq_lowerBefore, lowerBefore_eq_iff]
    intro l r split
    rw [List.append_nil, List.append_nil]
    apply h.endsWord_eq _ last split
    intro free
    rw [start free, List.reverse_nil]
  apply (p.finds_iff _ _).mpr
  refine ⟨lowerBefore (v ++ after) [] before,
    lowerFrom (v.reverse ++ before.reverse) after, ?_, ?_, ?_⟩
  · rw [lower, List.append_assoc, lowerFrom_append, List.append_nil, lowerFrom_append, same,
      List.append_assoc]
  · intro free
    rw [start free]
    rfl
  · intro free
    rw [last free]
    rfl

/-- In a text that is longer by one character, a text is found at the beginning or at the end. -/
theorem eq_of_finds_longer {t : List Char} (h : p.finds v t = true)
    (longer : t.length = v.length + 1) : (∃ y, t = v ++ [y]) ∨ ∃ y, t = y :: v := by
  obtain ⟨before, after, rfl, -⟩ := (p.finds_iff _ _).mp h
  simp only [List.length_append] at longer
  cases before with
  | nil =>
    obtain ⟨y, rfl⟩ : ∃ y, after = [y] := by
      apply List.length_eq_one_iff.mp
      simp only [List.length_nil] at longer
      omega
    exact .inl ⟨y, rfl⟩
  | cons y before =>
    simp only [List.length_cons] at longer
    have noneBefore : before = [] := List.eq_nil_of_length_eq_zero (by omega)
    have noneAfter : after = [] := List.eq_nil_of_length_eq_zero (by omega)
    rw [noneBefore, noneAfter]
    exact .inr ⟨y, by simp⟩

/-- Behind a character other than its first one, a text is found only where it goes on as it is. -/
theorem eq_of_finds_cons (h : p.finds v (x :: w) = true) (same : w.length = v.length)
    (other : v.head? ≠ some x) : w = v := by
  have longer : (x :: w).length = v.length + 1 := congrArg (· + 1) same
  rcases eq_of_finds_longer h longer with ⟨y, split⟩ | ⟨y, split⟩
  · cases v with
    | nil => exact List.eq_nil_of_length_eq_zero same
    | cons z v =>
      obtain ⟨rfl, -⟩ := List.cons.inj split
      exact absurd rfl other
  · exact (List.cons.inj split).2

/-- The same before a character other than its last one. -/
theorem eq_of_finds_concat (h : p.finds v (w ++ [x]) = true) (same : w.length = v.length)
    (other : v.getLast? ≠ some x) : w = v := by
  have longer : (w ++ [x]).length = v.length + 1 := by simp [same]
  rcases eq_of_finds_longer h longer with ⟨y, split⟩ | ⟨y, split⟩
  · exact (List.append_inj' split rfl).1
  · cases v with
    | nil => exact List.eq_nil_of_length_eq_zero same
    | cons z v =>
      have last := congrArg List.getLast? split
      rw [List.getLast?_concat, List.getLast?_cons_cons] at last
      exact absurd last.symm other

/-- A text that is found in lower case wherever it stands is settled. -/
theorem settled_of_finds_lower
    (h : ∀ t, p.finds v t = true → p.finds (lower v) (lower t) = true) : p.Settled v := by
  constructor
  · intro free l r split ignored
    obtain ⟨x, other, single, cased⟩ := exists_neighbour (lower v).head?
    have stands : p.finds v ([x] ++ v) = true := by
      apply (p.finds_iff _ _).mpr
      exact ⟨[x], [], by simp, fun start => absurd start free, fun _ => rfl⟩
    have lowered : lower ([x] ++ v) = x :: lowerBefore [] [x] v := by
      rw [lower, lowerFrom_append, single, ← lowerBefore_nil]
      rfl
    have found := h _ stands
    rw [lowered, lower_eq_lowerBefore v] at found
    rw [lower_eq_lowerBefore v] at other
    have same := lowerBefore_eq_iff.mp (eq_of_finds_cons found length_lowerBefore other)
    have here := same l r split
    -- behind a letter the sigma ends a word, and by itself it does not
    have alone : leadsToCased l.reverse = false :=
      leadsToCased_of_all (by rwa [List.all_reverse])
    simpa [endsWord, leadsToCased_append, ignored, cased, alone] using here
  · intro free l r split cased
    obtain ⟨x, other, single, letter⟩ := exists_neighbour (lower v).getLast?
    have stands : p.finds v (v ++ [x]) = true := by
      apply (p.finds_iff _ _).mpr
      exact ⟨[], [x], by simp, fun _ => rfl, fun last => absurd last free⟩
    have lowered : lower (v ++ [x]) = lowerBefore [x] [] v ++ [x] := by
      rw [lower, lowerFrom_append, ← lowerBefore_nil _ [x], single]
    have found := h _ stands
    rw [lowered, lower_eq_lowerBefore v] at found
    rw [lower_eq_lowerBefore v] at other
    have same := lowerBefore_eq_iff.mp (eq_of_finds_concat found length_lowerBefore other)
    have here := same l r split
    -- before a letter the sigma does not end the word that it ends by itself
    cases ignored : r.all isCaseIgnorable with
    | false => rfl
    | true =>
      have alone := leadsToCased_of_all ignored
      simp [endsWord, leadsToCased_append, ignored, cased, letter, alone] at here

end Placement

/-- A record with a text is searched for the needle in its lower-case form. -/
theorem Predicate.judge_like (p : Placement) (needle : String) (negated : Bool) (s : String) :
    Predicate.judge ⟨.value, .like p needle negated⟩ (.text s) =
      .ok (p.finds needle.toList (Text.lower s.toList) != negated) := by
  rw [Predicate.judge_value (by simp)]
  rfl

/-- A search finds every text that has the sought one in its place, character for character, and its
opposite none of them, exactly if no sigma of the sought text would take another form beside a
neighbour. Otherwise there is such a text that is not found. A text without capital sigmas is always
found. No search refuses a text. -/
theorem search_finds_exact_iff {t : Term} {v : String} (searches : t.mode.searchesText = true)
    (typed : t.typed = .ok (.text v)) :
    ∃ p, t.predicate = .ok p ∧
      (t.mode.placement.Settled v.toList →
        ∀ s : String, t.mode.placement.finds v.toList s.toList = true →
          p.judge (.text s) = .ok (t.mode != .ncontains)) ∧
      (¬t.mode.placement.Settled v.toList →
        ∃ s : String, t.mode.placement.finds v.toList s.toList = true ∧
          p.judge (.text s) = .ok (t.mode == .ncontains)) ∧
      ('Σ' ∉ v.toList → t.mode.placement.Settled v.toList) := by
  have judged (s : String) : Predicate.judge
      ⟨.value, .like t.mode.placement (Text.lowerString v) (t.mode == .ncontains)⟩ (.text s) =
        .ok (t.mode.placement.finds (Text.lower v.toList) (Text.lower s.toList) !=
          (t.mode == .ncontains)) := by
    rw [Predicate.judge_like, Text.lowerString, String.toList_ofList]
  refine ⟨_, Term.predicate_of_search searches typed, ?_, ?_, Placement.settled_of_not_mem⟩
  · intro settled s stands
    rw [judged, settled.finds_lower stands, Bool.true_bne]
    rfl
  · intro unsettled
    by_contra all
    apply unsettled
    apply Placement.settled_of_finds_lower
    intro text stands
    by_contra missed
    apply all
    refine ⟨String.ofList text, ?_, ?_⟩
    · rwa [String.toList_ofList]
    · rw [judged, String.toList_ofList, eq_false_of_ne_true missed, Bool.false_bne]

namespace Sample

/-- A search for a word that ends in a sigma, and for the beginning of the next word. -/
def roadTo : Term :=
  { field := "address", value := .str "ΟΔΟΣ Α", mode := .contains, declared := some .text }

def road : Term :=
  { field := "title", value := .str "ΟΔΟΣ", mode := .contains, declared := some .text }

/-- What stands on both sides of the sigma is in the sought text itself. -/
theorem settled_roadTo : Placement.anywhere.Settled "ΟΔΟΣ Α".toList := by
  have only {l r : List Char} (split : "ΟΔΟΣ Α".toList = l ++ 'Σ' :: r) :
      "ΟΔΟ".toList = l ∧ 'Σ' = 'Σ' ∧ " Α".toList = r :=
    (List.append_cons_inj_of_notMem (by decide +kernel) (by decide +kernel)).mp split
  constructor
  · intro _ l r split open_
    obtain ⟨rfl, -, rfl⟩ := only split
    exact absurd open_ (by decide +kernel)
  · intro _ l r split cased
    obtain ⟨rfl, -, rfl⟩ := only split
    decide +kernel

end Sample

open Sample in
theorem search_finds_exact_iff_road :
    (roadTo.mode.searchesText = true ∧ roadTo.typed = .ok (.text "ΟΔΟΣ Α") ∧
      Placement.anywhere.Settled "ΟΔΟΣ Α".toList ∧
      Placement.anywhere.finds "ΟΔΟΣ Α".toList "Η ΟΔΟΣ ΑΘΗΝΑΣ".toList = true) ∧
    ∃ p, roadTo.predicate = .ok p ∧ p.judge (.text "Η ΟΔΟΣ ΑΘΗΝΑΣ") = .ok true := by
  have stands : Placement.anywhere.finds "ΟΔΟΣ Α".toList "Η ΟΔΟΣ ΑΘΗΝΑΣ".toList = true := by
    decide +kernel
  obtain ⟨p, made, found, -⟩ := search_finds_exact_iff (t := roadTo) (v := "ΟΔΟΣ Α") rfl rfl
  exact ⟨⟨rfl, rfl, settled_roadTo, stands⟩, p, made, found settled_roadTo _ stands⟩

open Sample in
/-- The search asks for a word that ends, and in the longer word the sigma is not at an end. -/
theorem word_within_word_unfound :
    road.predicate = .ok ⟨.value, .like .anywhere (Text.lowerString "ΟΔΟΣ") false⟩ ∧
    Placement.anywhere.finds "ΟΔΟΣ".toList "ΟΔΟΣΗΜΑΝΣΗ".toList = true ∧
    Predicate.judge ⟨.value, .like .anywhere (Text.lowerString "ΟΔΟΣ") false⟩
      (.text "ΟΔΟΣΗΜΑΝΣΗ") = .ok false := by
  have stands : Placement.anywhere.finds "ΟΔΟΣ".toList "ΟΔΟΣΗΜΑΝΣΗ".toList = true := by
    decide +kernel
  have missed : Placement.anywhere.finds (Text.lowerString "ΟΔΟΣ").toList
      (Text.lower "ΟΔΟΣΗΜΑΝΣΗ".toList) = false := by decide +kernel
  refine ⟨rfl, stands, ?_⟩
  rw [Predicate.judge_like, missed]
  rfl

end FieldQuery

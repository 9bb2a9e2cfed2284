import FieldQuery.Statement.Condition
import FieldQuery.Statement.Meaning
import FieldQuery.Record.Judgement
import Mathlib.Data.List.Forall2

/-!
# Patterns that stand for texts

An escaped text matches letter by letter and nothing in it is a wildcard, so a pattern finds a
needle exactly where the needle stands. Main statements: `SqlRules.matches_pattern` and
`SqlRules.matches_pattern_of_fold`.
-/
namespace FieldQuery

open Statement

namespace SqlRules

variable {r : SqlRules} {pattern text : List Char}

theorem anySuffix_iff {holds : List Char → Bool} :
    matchesPattern.anySuffix holds text = true ↔
      ∃ before after, text = before ++ after ∧ holds after = true := by
  induction text with
  | nil =>
    constructor
    · exact fun h => ⟨[], [], rfl, h⟩
    · rintro ⟨before, after, split, h⟩
      obtain ⟨rfl, rfl⟩ := List.append_eq_nil_iff.mp split.symm
      exact h
  | cons c rest ih =>
    rw [matchesPattern.anySuffix, Bool.or_eq_true, ih]
    constructor
    · rintro (here | ⟨before, after, rfl, h⟩)
      · exact ⟨[], c :: rest, rfl, here⟩
      · exact ⟨c :: before, after, rfl, h⟩
    · rintro ⟨before, after, split, h⟩
      cases before with
      | nil => exact .inl (by rwa [split])
      | cons b before =>
        obtain ⟨rfl, rfl⟩ := List.cons.inj split
        exact .inr ⟨before, after, rfl, h⟩

theorem matches_percent_iff : r.matchesPattern ('%' :: pattern) text = true ↔
    ∃ before after, text = before ++ after ∧ r.matchesPattern pattern after = true := by
  rw [matchesPattern]
  exact anySuffix_iff

theorem matches_nil_iff : r.matchesPattern [] text = true ↔ text = [] := by
  rw [matchesPattern]
  exact List.isEmpty_iff

/-- An escaped character takes one character of the text, one that is like it. -/
theorem matches_escapePatternChar (c : Char) :
    r.matchesPattern (escapePatternChar c ++ pattern) text =
      match text with
      | [] => false
      | x :: rest => r.alike c x && r.matchesPattern pattern rest := by
  unfold escapePatternChar
  split
  · cases text <;> rfl
  · rename_i plain
    simp only [Bool.or_eq_true, decide_eq_true_eq, not_or] at plain
    cases text <;> simp [matchesPattern, plain]

/-- Characters that a pattern takes for the same, one by one. -/
def AlikeTexts (r : SqlRules) : List Char → List Char → Prop :=
  List.Forall₂ fun p c => r.alike p c = true

/-- An escaped text takes as much of the text as it is long itself. -/
theorem matches_escaped_iff (needle : List Char) :
    r.matchesPattern (needle.flatMap escapePatternChar ++ pattern) text = true ↔
      ∃ found rest, text = found ++ rest ∧ r.AlikeTexts needle found ∧
        r.matchesPattern pattern rest = true := by
  induction needle generalizing text with
  | nil =>
    constructor
    · exact fun h => ⟨[], text, rfl, .nil, h⟩
    · rintro ⟨found, rest, rfl, alike, h⟩
      cases alike
      exact h
  | cons c needle ih =>
    rw [List.flatMap_cons, List.append_assoc, matches_escapePatternChar]
    cases text with
    | nil =>
      constructor
      · intro h
        cases h
      · rintro ⟨found, rest, split, alike, -⟩
        obtain ⟨rfl, -⟩ := List.append_eq_nil_iff.mp split.symm
        cases alike
    | cons x text =>
      simp only [Bool.and_eq_true, ih]
      constructor
      · rintro ⟨same, found, rest, rfl, alike, h⟩
        exact ⟨x :: found, rest, rfl, .cons same alike, h⟩
      · rintro ⟨found, rest, split, alike, h⟩
        cases alike with
        | cons same alike =>
          obtain ⟨rfl, rfl⟩ := List.cons.inj split
          exact ⟨same, _, rest, rfl, alike, h⟩

theorem toList_escapePattern (s : String) :
    (escapePattern s).toList = s.toList.flatMap escapePatternChar := String.toList_ofList

/-- Where a pattern finds a text that is like the needle. -/
theorem matches_pattern (p : Placement) (needle : String) (text : List Char) :
    r.matchesPattern (p.pattern needle).toList text = true ↔
      ∃ before found after, text = before ++ found ++ after ∧ r.AlikeTexts needle.toList found ∧
        (p = .atStart → before = []) ∧ (p = .atEnd → after = []) := by
  have all (after : List Char) : r.matchesPattern ['%'] after = true :=
    matches_percent_iff.mpr ⟨after, [], (List.append_nil after).symm, rfl⟩
  cases p with
  | anywhere =>
    have spelled : (Placement.anywhere.pattern needle).toList =
        '%' :: (needle.toList.flatMap escapePatternChar ++ ['%']) := by
      simp [Placement.pattern, toList_escapePattern]
    rw [spelled, matches_percent_iff]
    constructor
    · rintro ⟨before, rest, rfl, h⟩
      obtain ⟨found, after, rfl, alike, -⟩ := (matches_escaped_iff _).mp h
      exact ⟨before, found, after, (List.append_assoc _ _ _).symm, alike, nofun, nofun⟩
    · rintro ⟨before, found, after, rfl, alike, -⟩
      exact ⟨before, found ++ after, List.append_assoc _ _ _,
        (matches_escaped_iff _).mpr ⟨found, after, rfl, alike, all after⟩⟩
  | atStart =>
    have spelled : (Placement.atStart.pattern needle).toList =
        needle.toList.flatMap escapePatternChar ++ ['%'] := by
      simp [Placement.pattern, toList_escapePattern]
    rw [spelled, matches_escaped_iff]
    constructor
    · rintro ⟨found, after, rfl, alike, -⟩
      exact ⟨[], found, after, rfl, alike, fun _ => rfl, nofun⟩
    · rintro ⟨before, found, after, rfl, alike, start, -⟩
      cases start rfl
      exact ⟨found, after, rfl, alike, all after⟩
  | atEnd =>
    have spelled : (Placement.atEnd.pattern needle).toList =
        '%' :: (needle.toList.flatMap escapePatternChar ++ []) := by
      simp [Placement.pattern, toList_escapePattern]
    rw [spelled, matches_percent_iff]
    constructor
    · rintro ⟨before, rest, rfl, h⟩
      obtain ⟨found, after, rfl, alike, last⟩ := (matches_escaped_iff _).mp h
      exact ⟨before, found, after, (List.append_assoc _ _ _).symm, alike, nofun,
        fun _ => matches_nil_iff.mp last⟩
    · rintro ⟨before, found, after, rfl, alike, -, last⟩
      cases last rfl
      exact ⟨before, found ++ [], List.append_assoc _ _ _,
        (matches_escaped_iff _).mpr ⟨found, [], rfl, alike, rfl⟩⟩

end SqlRules

theorem Placement.finds_iff (p : Placement) (needle text : List Char) :
    p.finds needle text = true ↔ ∃ before after, text = before ++ needle ++ after ∧
      (p = .atStart → before = []) ∧ (p = .atEnd → after = []) := by
  cases p with
  | anywhere => simp [Placement.finds, Text.occursIn_iff]
  | atStart =>
    rw [Placement.finds, List.isPrefixOf_iff_prefix]
    constructor
    · rintro ⟨after, rfl⟩
      exact ⟨[], after, rfl, fun _ => rfl, nofun⟩
    · rintro ⟨before, after, rfl, start, -⟩
      cases start rfl
      exact ⟨after, rfl⟩
  | atEnd =>
    rw [Placement.finds, List.isSuffixOf_iff_suffix]
    constructor
    · rintro ⟨before, rfl⟩
      exact ⟨before, [], (List.append_nil _).symm, nofun, fun _ => rfl⟩
    · rintro ⟨before, after, rfl, -, last⟩
      cases last rfl
      exact ⟨before, (List.append_nil _).symm⟩

namespace SqlRules

variable {r : SqlRules} {fold : Char → Char}

/-- Where a database takes characters for the same that fold to one, texts are alike that fold to
one. -/
theorem alikeTexts_iff (alike : ∀ a b, r.alike a b = (fold a == fold b)) (s t : List Char) :
    r.AlikeTexts s t ↔ s.map fold = t.map fold := by
  unfold AlikeTexts
  simp only [alike, beq_iff_eq]
  rw [← List.forall₂_eq_eq_eq, List.forall₂_map_left_iff, List.forall₂_map_right_iff]

/-- There a pattern finds what a search for the folded needle finds in the folded text. -/
theorem matches_pattern_of_fold (alike : ∀ a b, r.alike a b = (fold a == fold b)) (p : Placement)
    (needle : String) (text : List Char) :
    r.matchesPattern (p.pattern needle).toList text =
      p.finds (needle.toList.map fold) (text.map fold) := by
  refine Bool.eq_iff_iff.mpr ?_
  rw [matches_pattern, p.finds_iff]
  simp only [alikeTexts_iff alike]
  constructor
  · rintro ⟨before, found, after, rfl, same, start, last⟩
    refine ⟨before.map fold, after.map fold, ?_, ?_, ?_⟩
    · rw [List.map_append, List.map_append, same]
    · exact fun h => congrArg _ (start h)
    · exact fun h => congrArg _ (last h)
  · rintro ⟨before, after, split, start, last⟩
    obtain ⟨_, rest, rfl, front, rfl⟩ := List.map_eq_append_iff.mp split
    obtain ⟨first, found, rfl, rfl, same⟩ := List.map_eq_append_iff.mp front
    refine ⟨first, found, rest, rfl, same.symm, ?_, ?_⟩
    · exact fun h => List.map_eq_nil_iff.mp (start h)
    · exact fun h => List.map_eq_nil_iff.mp (last h)

/-- Where only equal characters are the same, a pattern finds what a search for the needle finds. -/
theorem matches_pattern_eq_finds (exact : ∀ a b, r.alike a b = (a == b)) (p : Placement)
    (needle : String) (text : List Char) :
    r.matchesPattern (p.pattern needle).toList text = p.finds needle.toList text := by
  rw [matches_pattern_of_fold exact, List.map_id', List.map_id']

end SqlRules

end FieldQuery

import FieldQuery.Proofs.Formulas
import FieldQuery.Proofs.Terms
import FieldQuery.Proofs.Wildcards

/-!
# Databases that fold ASCII letters

A search lowers its needle by the rules of all alphabets, while some databases lower columns by the
rules of ASCII alone. There a text is found wherever it stands, in any case of the ASCII letters, if
lowering it changes ASCII letters only; a text in which it changes another one is not found even in
itself. Main statement: `ascii_search_finds`.
-/
namespace FieldQuery

namespace Text

variable {c : Char}

/-- All characters but one have a single character as their lower-case form. -/
theorem exists_lowerChar (plain : c ≠ '\u0130') : ∃ d, lowerChar c = [d] := by
  unfold lowerChar
  rw [if_neg plain]
  split
  · exact ⟨_, rfl⟩
  · split
    · exact ⟨_, rfl⟩
    · exact ⟨_, rfl⟩

/-- If a character and its lower-case form differ in the case of ASCII letters only, lowering was
that of ASCII letters. -/
theorem lowerChar_of_fold {rest rest' : List Char}
    (h : asciiLower (lowerChar c ++ rest) = c.toLower :: rest') :
    lowerChar c = [c.toLower] ∧ asciiLower rest = rest' := by
  by_cases dotted : c = '\u0130'
  · subst dotted
    exact absurd (List.cons.inj h).1 (by decide)
  · obtain ⟨d, lowered⟩ := exists_lowerChar dotted
    rw [lowered] at h
    obtain ⟨first, later⟩ := List.cons.inj h
    refine ⟨?_, later⟩
    by_cases ascii : c.toNat < 0x80
    · exact if_pos ascii
    · rw [toLower_of_not_ascii ascii] at first ⊢
      rw [lowered, eq_of_toLower_eq ascii first]

theorem lowerFrom_of_fold {behind s : List Char}
    (h : asciiLower (lowerFrom behind s) = asciiLower s) : lowerFrom behind s = asciiLower s := by
  induction s generalizing behind with
  | nil => rfl
  | cons c ahead ih =>
    unfold lowerFrom at h ⊢
    split at h
    case isTrue sigma =>
      subst sigma
      -- neither small sigma is the capital one again
      have first := (List.cons.inj h).1
      split at first
      · exact absurd first (by decide)
      · exact absurd first (by decide)
    case isFalse other =>
      obtain ⟨here, later⟩ := lowerChar_of_fold h
      rw [if_neg other, here, ih later]
      rfl

/-- If a text and its lower-case form differ in the case of ASCII letters only, lowering was that of
ASCII letters. -/
theorem lower_of_fold {s : List Char} (h : asciiLower (lower s) = asciiLower s) :
    lower s = asciiLower s := lowerFrom_of_fold h

theorem length_le_lowerFrom (behind s : List Char) : s.length ≤ (lowerFrom behind s).length := by
  have each (c : Char) : 1 ≤ (lowerChar c).length := by
    by_cases dotted : c = '\u0130'
    · subst dotted
      decide
    · obtain ⟨d, lowered⟩ := exists_lowerChar dotted
      rw [lowered]
      exact Nat.le_refl 1
  induction s generalizing behind with
  | nil => exact Nat.zero_le _
  | cons c ahead ih =>
    unfold lowerFrom
    split
    · exact Nat.succ_le_succ (ih _)
    · have here := each c
      have later := ih (c :: behind)
      rw [List.length_append, List.length_cons]
      omega

end Text

namespace Placement

variable {p : Placement} {needle text : List Char}

/-- What stands in a text stands there in any case. -/
theorem finds_asciiLower (h : p.finds needle text = true) :
    p.finds (Text.asciiLower needle) (Text.asciiLower text) = true := by
  obtain ⟨before, after, rfl, start, last⟩ := (p.finds_iff needle text).mp h
  refine (p.finds_iff _ _).mpr ⟨Text.asciiLower before, Text.asciiLower after, ?_, ?_, ?_⟩
  · unfold Text.asciiLower
    rw [List.map_append, List.map_append]
  · exact fun h => congrArg _ (start h)
  · exact fun h => congrArg _ (last h)

theorem finds_self (p : Placement) (text : List Char) : p.finds text text = true :=
  (p.finds_iff text text).mpr ⟨[], [], (List.append_nil text).symm, fun _ => rfl, fun _ => rfl⟩

/-- In a text that is no longer, only the text itself is found. -/
theorem eq_of_finds (h : p.finds needle text = true) (short : text.length ≤ needle.length) :
    needle = text := by
  obtain ⟨before, after, rfl, -⟩ := (p.finds_iff needle text).mp h
  rw [List.length_append, List.length_append] at short
  have noneBefore : before = [] := List.eq_nil_of_length_eq_zero (by omega)
  have noneAfter : after = [] := List.eq_nil_of_length_eq_zero (by omega)
  rw [noneBefore, noneAfter, List.nil_append, List.append_nil]

end Placement

def Mode.placement : Mode → Placement
  | .startsWith => .atStart
  | .endsWith => .atEnd
  | _ => .anywhere

/-- A database that lowers ASCII letters only, and whose patterns pass over the case of no
others. -/
structure SqlRules.FoldsAscii (r : SqlRules) : Prop where
  lower (s : String) : r.lower (.text s) = .text (String.ofList (Text.asciiLower s.toList))
  alike (a b : Char) : r.alike a b = (a.toLower == b.toLower)

/-- Written for a column with any values bound before and after its own, a predicate is read as a
formula with this truth of a row that has the text in the column. -/
def Predicate.Means (r : SqlRules) (p : Predicate) (s : String) (answer : Bool) : Prop :=
  ∀ (c : ColumnRef) (row : TableRow) (before after : List SqlValue), row c = .text s →
    ∃ q : Formula, Formula.read .sqlite before.length
        (before ++ (p.fragment .sqlite c.qualified).values ++ after)
        ((p.fragment .sqlite c.qualified).write .sqlite before.length) = some q ∧
      q.truth r row = some answer

namespace SqlRules.FoldsAscii

variable {r : SqlRules} (rules : r.FoldsAscii)

include rules

/-- A search finds the needle in any case of the ASCII letters. -/
theorem means_like (placement : Placement) (needle : String) (negated : Bool) (s : String) :
    Predicate.Means r ⟨.value, .like placement needle negated⟩ s
      (placement.finds (Text.asciiLower needle.toList) (Text.asciiLower s.toList) != negated) := by
  intro c row before after stored
  obtain ⟨q, read, truth⟩ := Predicate.read_fragment (d := .sqlite)
    ⟨.value, .like placement needle negated⟩ c r row before after
  have pattern : r.matchesPattern (placement.pattern needle).toList (Text.asciiLower s.toList) =
      placement.finds (Text.asciiLower needle.toList) (Text.asciiLower s.toList) :=
    (r.matches_pattern_of_fold rules.alike placement needle _).trans
      (congrArg _ (Text.asciiLower_asciiLower s.toList))
  have known : (r.like? (r.lower (.text s)) (.text (placement.pattern needle))).map
      (· != negated) =
      some (r.matchesPattern (placement.pattern needle).toList
        (Text.asciiLower s.toList) != negated) := by
    rw [rules.lower, like?, String.toList_ofList]
    rfl
  refine ⟨q, read, ?_⟩
  rw [truth, stored, ← pattern]
  exact known

end SqlRules.FoldsAscii

namespace Term

variable {t : Term} {v : String}

/-- What a search for a text comes to. -/
theorem predicate_of_search (searches : t.mode.searchesText = true)
    (typed : t.typed = .ok (.text v)) : t.predicate =
      .ok ⟨.value, .like t.mode.placement (Text.lowerString v) (t.mode == .ncontains)⟩ := by
  have asks := asks_of_typed typed nofun
  have text : t.dataType = .text := (Option.some.inj (dataType_of_typed typed nofun).1).symm
  refine (predicate_ok_iff asks).mpr ⟨.text v, typed, ?_, ?_⟩
  · cases mode : t.mode with
    | contains | ncontains | startsWith | endsWith => rfl
    | _ =>
      rw [mode] at searches
      cases searches
  · rw [text]
    rfl

end Term

/-- Where only ASCII letters are folded, a search is true of each text that has the sought one in
its place, and its opposite is not, if lowering the sought text changes ASCII letters only. If it
changes another character, the text is not found even where it stands by itself. -/
theorem ascii_search_finds {r : SqlRules} (rules : r.FoldsAscii) {t : Term} {v : String}
    (searches : t.mode.searchesText = true) (typed : t.typed = .ok (.text v)) :
    ∃ p, t.predicate = .ok p ∧
      (Text.lower v.toList = Text.asciiLower v.toList →
        ∀ s : String, t.mode.placement.finds v.toList s.toList = true →
          p.Means r s (t.mode != .ncontains)) ∧
      (Text.lower v.toList ≠ Text.asciiLower v.toList →
        t.mode.placement.finds v.toList v.toList = true ∧ p.Means r v (t.mode == .ncontains)) := by
  refine ⟨_, Term.predicate_of_search searches typed, ?_, ?_⟩
  · intro plain s stands
    have means := rules.means_like t.mode.placement (Text.lowerString v) (t.mode == .ncontains) s
    have found := Placement.finds_asciiLower stands
    rw [← Text.asciiLower_asciiLower v.toList, ← plain] at found
    rw [Text.lowerString, String.toList_ofList, found, Bool.true_bne] at means
    exact means
  · intro other
    have means := rules.means_like t.mode.placement (Text.lowerString v) (t.mode == .ncontains) v
    have unfound : t.mode.placement.finds (Text.asciiLower (Text.lower v.toList))
        (Text.asciiLower v.toList) = false := by
      -- lowering never shortens a text, so the needle would have to be the whole of it
      refine Bool.eq_false_iff.mpr fun found => other (Text.lower_of_fold ?_)
      apply Placement.eq_of_finds found
      unfold Text.asciiLower
      rw [List.length_map, List.length_map]
      exact Text.length_le_lowerFrom [] v.toList
    rw [Text.lowerString, String.toList_ofList, unfound, Bool.false_bne] at means
    exact ⟨Placement.finds_self _ _, means⟩

namespace Sample

/-- A database that folds ASCII letters. -/
def asciiRules : SqlRules where
  lower
    | .text s => .text (String.ofList (Text.asciiLower s.toList))
    | x => x
  alike a b := a.toLower == b.toLower
  timeOfDay x := x
  instant x := x

theorem asciiRules_foldsAscii : asciiRules.FoldsAscii where
  lower _ := rfl
  alike _ _ := rfl

/-- A search for a text with a wildcard and with a letter outside of ASCII, a small one. -/
def street : Term :=
  { field := "address", value := .str "Straße_5", mode := .endsWith, declared := some .text }

def accented : Term :=
  { field := "name", value := .str "É", mode := .contains, declared := some .text }

def accentedColumn : ColumnRef := ⟨"users", "name"⟩

def accentedRow : TableRow := fun _ => .text "É"

end Sample

open Sample in
theorem ascii_search_finds_street :
    (asciiRules.FoldsAscii ∧ street.typed = .ok (.text "Straße_5") ∧
      Text.lower "Straße_5".toList = Text.asciiLower "Straße_5".toList ∧
      Placement.atEnd.finds "Straße_5".toList "ALTE Straße_5".toList = true ∧
      accented.typed = .ok (.text "É") ∧ Text.lower "É".toList ≠ Text.asciiLower "É".toList) ∧
    (∃ p, street.predicate = .ok p ∧ p.Means asciiRules "ALTE Straße_5" true) ∧
    ∃ p, accented.predicate = .ok p ∧ p.Means asciiRules "É" false := by
  have plain : Text.lower "Straße_5".toList = Text.asciiLower "Straße_5".toList := by
    decide +kernel
  have stands : Placement.atEnd.finds "Straße_5".toList "ALTE Straße_5".toList = true := by
    decide +kernel
  have other : Text.lower "É".toList ≠ Text.asciiLower "É".toList := by decide +kernel
  refine ⟨⟨asciiRules_foldsAscii, rfl, plain, stands, rfl, other⟩, ?_, ?_⟩
  · obtain ⟨p, made, found, -⟩ :=
      ascii_search_finds asciiRules_foldsAscii (t := street) (v := "Straße_5") rfl rfl
    exact ⟨p, made, found plain _ stands⟩
  · obtain ⟨p, made, -, unfound⟩ :=
      ascii_search_finds asciiRules_foldsAscii (t := accented) (v := "É") rfl rfl
    exact ⟨p, made, (unfound other).2⟩

open Sample in
/-- The search for a capital É asks for a small one, which the database does not make of É. -/
theorem accented_capital_unfound :
    accented.predicate = .ok ⟨.value, .like .anywhere "é" false⟩ ∧
    Placement.anywhere.finds "É".toList "É".toList = true ∧ accentedRow accentedColumn = .text "É" ∧
    ∃ q : Formula, Formula.read .sqlite 0 [.text "%é%"]
        "LOWER(\"users\".\"name\") LIKE ? ESCAPE '\\'" = some q ∧
      q.truth asciiRules accentedRow = some false := by
  have lowered : Text.lowerString "É" = "é" := by decide +kernel
  have made : accented.predicate =
      .ok ⟨.value, .like .anywhere (Text.lowerString "É") false⟩ := rfl
  have stands : Placement.anywhere.finds "É".toList "É".toList = true := by decide +kernel
  have unfound : (Placement.anywhere.finds (Text.asciiLower "é".toList)
      (Text.asciiLower "É".toList) != false) = false := by decide +kernel
  obtain ⟨q, read, truth⟩ := asciiRules_foldsAscii.means_like .anywhere "é" false "É"
    accentedColumn accentedRow [] [] rfl
  rw [lowered] at made
  rw [unfound] at truth
  exact ⟨made, stands, rfl, q, read, truth⟩

end FieldQuery

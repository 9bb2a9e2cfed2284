import FieldQuery.Proofs.Planning
import FieldQuery.Proofs.Quotes

/-!
# Placeholders

What a statement asks its caller to bind is read off its text, names and literals being read past.
A fragment counts if it holds a placeholder for each of its values, numbered on from the values
before it. What is woven of quiet texts and of fragments that count, counts as well, so placeholders
and values stand in one order. Main statements: `Woven.counts` and `Woven.split`.
-/
namespace FieldQuery

/-- A placeholder as it is read: `?`, or `$` with a number. -/
inductive Placeholder where
  | mark
  | number (n : Nat)
deriving DecidableEq, Repr

def Placeholder.of (d : Dialect) (n : Nat) : Placeholder :=
  match d with
  | .sqlite => mark
  | .postgres => number n

/-- The placeholders of some values, `bound` values having been placed before them. -/
def placesAfter (d : Dialect) (bound count : Nat) : List Placeholder :=
  match d with
  | .sqlite => List.replicate count .mark
  | .postgres => (List.range' (bound + 1) count).map .number

theorem placesAfter_zero (d : Dialect) (bound : Nat) : placesAfter d bound 0 = [] := by
  cases d with
  | sqlite => rfl
  | postgres => rfl

theorem placesAfter_succ (d : Dialect) (bound count : Nat) :
    placesAfter d bound (count + 1) =
      Placeholder.of d (bound + 1) :: placesAfter d (bound + 1) count := by
  cases d with
  | sqlite => rfl
  | postgres => rfl

theorem placesAfter_append (d : Dialect) (bound count more : Nat) :
    placesAfter d bound count ++ placesAfter d (bound + count) more =
      placesAfter d bound (count + more) := by
  cases d with
  | sqlite => exact List.replicate_append_replicate
  | postgres =>
    simp only [placesAfter]
    rw [← List.map_append, Nat.add_right_comm, ← List.range'_append, Nat.one_mul]

def startsWithDigit : List Char → Bool
  | [] => false
  | c :: _ => c.isDigit

theorem startsWithDigit_append {text more : List Char} (ht : startsWithDigit text = false)
    (hm : startsWithDigit more = false) : startsWithDigit (text ++ more) = false := by
  cases text with
  | nil => exact hm
  | cons c rest => exact ht

theorem startsWithDigit_left {text more : List Char}
    (h : startsWithDigit (text ++ more) = false) : startsWithDigit text = false := by
  cases text with
  | nil => rfl
  | cons c rest => exact h

/-- The placeholder that a character begins, given what follows it. -/
def placeholderAt (d : Dialect) (c : Char) (rest : List Char) : Option Placeholder :=
  match d with
  | .sqlite => if c = '?' then some .mark else none
  | .postgres =>
    if c = '$' ∧ startsWithDigit rest = true then
      some (.number (digitsValue (rest.takeWhile (·.isDigit))))
    else none

def placeholders (d : Dialect) : QuoteState → List Char → List Placeholder
  | _, [] => []
  | s, c :: rest =>
    (if s = .outside then (placeholderAt d c rest).toList else []) ++
      placeholders d (s.after c) rest

variable {d : Dialect}

theorem placeholders_cons_none {s : QuoteState} {c : Char} {rest : List Char}
    (h : s = .outside → placeholderAt d c rest = none) :
    placeholders d s (c :: rest) = placeholders d (s.after c) rest := by
  by_cases here : s = .outside
  · rw [placeholders, if_pos here, h here]
    rfl
  · rw [placeholders, if_neg here]
    rfl

theorem placeholderAt_none {c : Char} (rest : List Char) (mark : c ≠ '?') (dollar : c ≠ '$') :
    placeholderAt d c rest = none := by
  cases d with
  | sqlite => exact if_neg mark
  | postgres => exact if_neg fun h => dollar h.1

theorem placeholders_quiet {s : QuoteState} {text : List Char} (h : s.quiet text = true)
    (rest : List Char) : placeholders d s (text ++ rest) = placeholders d .outside rest := by
  induction text generalizing s with
  | nil =>
    have here : s = .outside := by simpa [QuoteState.quiet] using h
    rw [here]
    rfl
  | cons c text ih =>
    simp only [QuoteState.quiet, Bool.and_eq_true] at h
    have silent : s = .outside → placeholderAt d c (text ++ rest) = none := by
      rintro rfl
      have plain : c ≠ '?' ∧ c ≠ '$' := by simpa using h.1
      exact placeholderAt_none _ plain.1 plain.2
    rw [List.cons_append, placeholders_cons_none silent]
    exact ih h.2

/-- A text holds placeholders if they are read wherever it stands outside of quotes, unless a digit
follows it. -/
def Holds (d : Dialect) (text : List Char) (ps : List Placeholder) : Prop :=
  ∀ rest, startsWithDigit rest = false →
    placeholders d .outside (text ++ rest) = ps ++ placeholders d .outside rest

theorem Holds.placeholders_eq {text : List Char} {ps : List Placeholder} (h : Holds d text ps) :
    placeholders d .outside text = ps := by
  have alone := h [] rfl
  rwa [List.append_nil, placeholders, List.append_nil] at alone

theorem toList_placeholder_sqlite (n : Nat) : (Dialect.sqlite.placeholder n).toList = ['?'] := by
  have mark : "?".toList = ['?'] := by decide
  exact mark

theorem toList_placeholder_postgres (n : Nat) :
    (Dialect.postgres.placeholder n).toList = '$' :: decimalDigits n :=
  String.toList_ofList

/-- A placeholder is read back, unless its number runs into a digit. -/
theorem placeholders_placeholder (d : Dialect) (n : Nat) {rest : List Char}
    (ends : d = .postgres → startsWithDigit rest = false) :
    placeholders d .outside ((d.placeholder n).toList ++ rest) =
      Placeholder.of d n :: placeholders d .outside rest := by
  cases d with
  | sqlite =>
    rw [toList_placeholder_sqlite, List.cons_append, placeholders, if_pos rfl]
    rfl
  | postgres =>
    have digits : ∀ c ∈ decimalDigits n, c.isDigit = true := fun _ => isDigit_of_mem_decimalDigits
    have starts : startsWithDigit (decimalDigits n ++ rest) = true := by
      obtain ⟨c, ds, hd⟩ := List.exists_cons_of_ne_nil (decimalDigits_ne_nil n)
      rw [hd] at digits ⊢
      exact digits c List.mem_cons_self
    have stops : rest.takeWhile (·.isDigit) = [] := by
      cases rest with
      | nil => rfl
      | cons c rest =>
        have digit : c.isDigit = false := ends rfl
        exact List.takeWhile_cons_of_neg (ne_true_of_eq_false digit)
    have value : digitsValue ((decimalDigits n ++ rest).takeWhile (·.isDigit)) = n := by
      rw [List.takeWhile_append_of_pos digits, stops, List.append_nil, digitsValue_decimalDigits]
    have found : placeholderAt .postgres '$' (decimalDigits n ++ rest) =
        some (.number (digitsValue ((decimalDigits n ++ rest).takeWhile (·.isDigit)))) :=
      if_pos ⟨rfl, starts⟩
    rw [value] at found
    rw [toList_placeholder_postgres, List.cons_append, placeholders, if_pos rfl, found]
    exact congrArg (Placeholder.number n :: ·)
      (placeholders_quiet (QuoteState.quiet_digits digits) rest)

/-- A text that begins with something other than a digit. -/
def Fence (text : String) : Prop := text.toList.head?.any (!·.isDigit) = true

instance (text : String) : Decidable (Fence text) := inferInstanceAs (Decidable (_ = _))

theorem Fence.startsWithDigit_append {text : String} (h : Fence text) (more : String) :
    startsWithDigit (text ++ more).toList = false := by
  rw [Fence] at h
  rw [String.toList_append]
  cases ht : text.toList with
  | nil =>
    rw [ht] at h
    cases h
  | cons c rest =>
    rw [ht] at h
    have other : (!c.isDigit) = true := h
    rw [Bool.not_eq_true'] at other
    exact other

theorem Fence.append {text : String} (h : Fence text) (more : String) : Fence (text ++ more) := by
  rw [Fence] at h ⊢
  rw [String.toList_append]
  cases ht : text.toList with
  | nil =>
    rw [ht] at h
    cases h
  | cons c rest =>
    rw [ht] at h
    exact h

namespace Fragment

/-- A fragment counts if its text holds one placeholder for each of its values. -/
def Counts (d : Dialect) (f : Fragment) : Prop :=
  ∀ bound, Holds d (f.write d bound).toList (placesAfter d bound f.values.length)

/-- A fragment that does not run into a number before it. -/
def Fenced (d : Dialect) (f : Fragment) : Prop :=
  ∀ bound, startsWithDigit (f.write d bound).toList = false

variable {f g : Fragment} {s : String}

theorem write_nil (bound : Nat) : write d bound [] = "" := rfl

theorem write_text (bound : Nat) : write d bound [.text s] = s := String.append_empty

theorem write_place (bound : Nat) (v : SqlValue) :
    write d bound [.place v] = d.placeholder (bound + 1) := String.append_empty

theorem fenced_nil : Fenced d [] := by
  intro bound
  rw [write_nil]
  decide

theorem fenced_text (h : Fence s) : Fenced d (.text s :: f) :=
  fun _ => h.startsWithDigit_append _

theorem fenced_place (v : SqlValue) : Fenced d (.place v :: f) := by
  intro bound
  rw [write, String.toList_append]
  cases d with
  | sqlite =>
    rw [toList_placeholder_sqlite]
    rfl
  | postgres =>
    rw [toList_placeholder_postgres]
    rfl

theorem Fenced.append (hf : Fenced d f) (hg : Fenced d g) : Fenced d (f ++ g) := by
  intro bound
  rw [write_append, String.toList_append]
  exact startsWithDigit_append (hf bound) (hg _)

theorem Fenced.left (h : Fenced d (f ++ g)) : Fenced d f := by
  intro bound
  have whole := h bound
  rw [write_append, String.toList_append] at whole
  exact startsWithDigit_left whole

theorem counts_nil : Counts d [] := by
  intro bound rest _
  rw [values, List.length_nil, placesAfter_zero]
  rfl

theorem counts_place (v : SqlValue) : Counts d [.place v] := by
  intro bound rest ends
  have read := placeholders_placeholder d (bound + 1) fun _ => ends
  rw [write_place, read, values, values, List.length_singleton, placesAfter_succ,
    placesAfter_zero, List.singleton_append]

theorem Counts.cons_text (hs : Quiet s) (hf : Counts d f) : Counts d (.text s :: f) := by
  intro bound rest ends
  rw [write, String.toList_append, List.append_assoc, placeholders_quiet hs]
  exact hf bound rest ends

theorem Counts.append (hf : Counts d f) (apart : Fenced d g) (hg : Counts d g) :
    Counts d (f ++ g) := by
  intro bound rest ends
  have next := startsWithDigit_append (apart (bound + f.values.length)) ends
  rw [write_append, String.toList_append, List.append_assoc, hf bound _ next, hg _ rest ends,
    ← List.append_assoc, placesAfter_append, values_append, List.length_append]

/-- Two fragments with a text between them. -/
theorem Counts.around (hf : Counts d f) (hg : Counts d g) (quiet : Quiet s) (fence : Fence s) :
    Counts d (f ++ [.text s] ++ g) := by
  rw [List.append_assoc, List.singleton_append]
  exact hf.append (fenced_text fence) (hg.cons_text quiet)

theorem Counts.closed (hf : Counts d f) (quiet : Quiet s) (fence : Fence s) :
    Counts d (f ++ [.text s]) :=
  hf.append (fenced_text fence) (counts_nil.cons_text quiet)

/-- A fragment that is woven of quiet texts and of parts that count, none of which runs into a
digit. -/
inductive Woven (d : Dialect) : Fragment → List Fragment → Prop where
  | nil : Woven d [] []
  | text {s : String} {f : Fragment} {parts : List Fragment} (quiet : Quiet s)
      (rest : Woven d f parts) : Woven d (.text s :: f) parts
  | part {g f : Fragment} {parts : List Fragment} (counts : Counts d g) (fenced : Fenced d f)
      (rest : Woven d f parts) : Woven d (g ++ f) (g :: parts)

namespace Woven

variable {parts more : List Fragment}

theorem single (h : Counts d f) : Woven d f [f] := by
  have woven := Woven.part h fenced_nil .nil
  rwa [List.append_nil] at woven

theorem counts (h : Woven d f parts) : Counts d f := by
  induction h with
  | nil => exact counts_nil
  | text quiet _ ih => exact ih.cons_text quiet
  | part counts fenced _ ih => exact counts.append fenced ih

theorem values_eq (h : Woven d f parts) : f.values = parts.flatMap values := by
  induction h with
  | nil => rfl
  | text _ _ ih => exact ih
  | part _ _ _ ih => rw [values_append, List.flatMap_cons, ih]

theorem append (hf : Woven d f parts) (fenced : Fenced d g) (hg : Woven d g more) :
    Woven d (f ++ g) (parts ++ more) := by
  induction hf with
  | nil => exact hg
  | text quiet _ ih => exact .text quiet ih
  | part counts own _ ih =>
    rw [List.append_assoc]
    exact .part counts (own.append fenced) ih

theorem closed (hf : Woven d f parts) (quiet : Quiet s) (fence : Fence s) :
    Woven d (f ++ [.text s]) parts := by
  have woven := hf.append (fenced_text fence) (.text quiet .nil)
  rwa [List.append_nil] at woven

theorem enclosed (h : Woven d f parts) : Woven d f.enclosed parts :=
  (text (show Quiet "(" by decide) h).closed (by decide) (by decide)

theorem join {α : Type} {frag : α → Fragment} {parts : α → List Fragment} {xs : List α}
    (quiet : Quiet s) (fence : Fence s) (h : ∀ x ∈ xs, Woven d (frag x) (parts x)) :
    Woven d (Fragment.join s (xs.map frag)) (xs.flatMap parts) := by
  induction xs with
  | nil => exact .nil
  | cons x rest ih =>
    have now : Woven d (frag x) (parts x) := h x List.mem_cons_self
    have later := ih fun y hy => h y (List.mem_cons_of_mem x hy)
    cases rest with
    | nil =>
      rw [List.flatMap_cons, List.flatMap_nil, List.append_nil]
      exact now
    | cons y rest =>
      rw [List.flatMap_cons]
      have between := now.append (fenced_text fence) (.text quiet later)
      rwa [← List.singleton_append, ← List.append_assoc] at between

/-- The fragment falls apart where one of its parts stands. -/
theorem split {before after : List Fragment} {part : Fragment}
    (h : Woven d f (before ++ part :: after)) :
    ∃ left right, f = left ++ (part ++ right) ∧ Counts d part ∧ Woven d left before ∧
      Woven d right after := by
  generalize hp : before ++ part :: after = parts at h
  induction h generalizing before with
  | nil => simp at hp
  | text quiet _ ih =>
    obtain ⟨left, right, rfl, counts, hl, hr⟩ := ih hp
    exact ⟨_ :: left, right, rfl, counts, .text quiet hl, hr⟩
  | part counts fenced rest ih =>
    cases before with
    | nil =>
      cases hp
      exact ⟨[], _, rfl, counts, .nil, rest⟩
    | cons g before =>
      obtain ⟨rfl, tail⟩ := List.cons.inj hp
      obtain ⟨left, right, rfl, inner, hl, hr⟩ := ih tail
      refine ⟨g ++ left, right, (List.append_assoc _ _ _).symm, inner, ?_, hr⟩
      exact .part counts fenced.left hl

end Woven

end Fragment

end FieldQuery

import FieldQuery.Json.Reader
import FieldQuery.Json.Writer
import Mathlib.Data.List.Basic

/-!
# Strings and numerals in JSON text

The reader meets a string or a numeral in the middle of a text. A string that was escaped by the
writer is read up to its closing quote and stands for what was written. A numeral that is read from
a text of its own is read the same way before anything that a numeral cannot go on with.
-/
namespace FieldQuery.Draft

open Text

/-- Octets between quotes that stand for a value, whatever follows them. -/
def Spells (bs value : Octets) : Prop :=
  ∃ ps, (∀ more, takePieces (bs ++ more) =
      (takePieces more).map fun found => (ps ++ found.1, found.2)) ∧
    ∀ later, joinPieces (ps ++ later) = (joinPieces later).map (value ++ ·)

theorem Spells.nil : Spells [] [] :=
  ⟨[], fun more => (Option.map_id_apply (x := takePieces more)).symm,
    fun later => (Option.map_id_apply (x := joinPieces later)).symm⟩

theorem Spells.append {bs cs v w : Octets} (h : Spells bs v) (k : Spells cs w) :
    Spells (bs ++ cs) (v ++ w) := by
  obtain ⟨ps, taken, joined⟩ := h
  obtain ⟨qs, taken', joined'⟩ := k
  refine ⟨ps ++ qs, fun more => ?_, fun later => ?_⟩
  · rw [List.append_assoc, taken, taken', Option.map_map]
    congr 1
    funext found
    simp only [Function.comp, List.append_assoc]
  · rw [List.append_assoc, joined, joined', Option.map_map]
    congr 1
    funext value
    simp only [Function.comp, List.append_assoc]

/-- Pieces that are octets of their own. -/
theorem Spells.octets {bs value : Octets} (h : ∀ more, takePieces (bs ++ more) =
    (takePieces more).map fun found => (.octets value :: found.1, found.2)) : Spells bs value :=
  ⟨[.octets value], h, fun _ => rfl⟩

/-- An octet that a string may hold as it is. -/
def IsPlain (b : UInt8) : Prop := 0x20 ≤ b.toNat ∧ isChar b '"' = false ∧ isChar b '\\' = false

theorem spells_plain {b : UInt8} (h : IsPlain b) : Spells [b] [b] := by
  obtain ⟨printable, quote, slash⟩ := h
  refine .octets fun more => ?_
  have low : ¬ b.toNat < 0x20 := by omega
  rw [List.singleton_append, takePieces.eq_def]
  simp only [quote, slash, low, Bool.false_eq_true, if_false]
  cases takePieces more <;> rfl

theorem spells_plains {bs : Octets} (h : ∀ b ∈ bs, IsPlain b) : Spells bs bs := by
  induction bs with
  | nil => exact .nil
  | cons b rest ih =>
    have now : Spells [b] [b] := spells_plain (h b List.mem_cons_self)
    exact now.append (ih fun x hx => h x (List.mem_cons_of_mem b hx))

/-- A short escape is read by its letter. The reader looks for a long one first, so the octets that
follow are told apart by how many there are. -/
theorem spells_short {u : UInt8} {c : Char} (h : escaped? u = some c)
    (short : isChar u 'u' = false) : Spells [0x5C, u] (Utf8.encodeChar c) := by
  have slash : isChar 0x5C '"' = false ∧ isChar 0x5C '\\' = true := by decide
  refine .octets fun more => ?_
  obtain _ | ⟨x, _ | ⟨y, _ | ⟨z, _ | ⟨w, rest⟩⟩⟩⟩ := more <;>
  · rw [List.cons_append, List.singleton_append, takePieces.eq_def]
    simp only [slash.1, slash.2, short, h, Bool.false_eq_true, if_false, if_true,
      Option.bind_eq_bind, Option.bind_some]
    generalize takePieces _ = found
    cases found <;> rfl

/-- A long escape is read by its four digits. -/
theorem spells_long {a b c d : UInt8} {n : Nat} (h : takeUnit [a, b, c, d] = some (n, []))
    (whole : isHalf n = false) :
    Spells [0x5C, 0x75, a, b, c, d] (Utf8.encodeChar (Char.ofNat n)) := by
  have slash : isChar 0x5C '"' = false ∧ isChar 0x5C '\\' = true := by decide
  have mark : isChar 0x75 'u' = true := by decide
  refine .octets fun more => ?_
  simp only [List.cons_append, List.nil_append]
  rw [takePieces.eq_def]
  simp only [slash.1, slash.2, mark, h, whole, Bool.false_eq_true, if_false, if_true,
    Option.bind_eq_bind, Option.bind_some]
  cases takePieces more <;> rfl

theorem isPlain_of_mem_encodeChar {c : Char} (quote : c ≠ '"') (slash : c ≠ '\\')
    (printable : ¬ c.toNat < 0x20) {b : UInt8} (h : b ∈ Utf8.encodeChar c) : IsPlain b := by
  have valid : c.toNat < 0xD800 ∨ (0xDFFF < c.toNat ∧ c.toNat < 0x110000) := c.valid
  have apart : c.toNat ≠ 0x22 ∧ c.toNat ≠ 0x5C :=
    ⟨fun e => quote (Char.toNat_inj.mp e), fun e => slash (Char.toNat_inj.mp e)⟩
  have plain : ∀ n, 0x20 ≤ n → n < 256 → n ≠ 0x22 → n ≠ 0x5C → IsPlain (Utf8.octet n) := by
    intro n low high q s
    rw [IsPlain, isChar, isChar, Utf8.octet_toNat high]
    exact ⟨low, beq_false_of_ne q, beq_false_of_ne s⟩
  unfold Utf8.encodeChar at h
  simp only at h
  split at h
  · rw [List.mem_singleton.mp h]
    exact plain _ (by omega) (by omega) apart.1 apart.2
  · split at h
    · simp only [List.mem_cons, List.not_mem_nil, or_false] at h
      rcases h with rfl | rfl <;> exact plain _ (by omega) (by omega) (by omega) (by omega)
    · split at h
      · simp only [List.mem_cons, List.not_mem_nil, or_false] at h
        rcases h with rfl | rfl | rfl <;>
          exact plain _ (by omega) (by omega) (by omega) (by omega)
      · simp only [List.mem_cons, List.not_mem_nil, or_false] at h
        rcases h with rfl | rfl | rfl | rfl <;>
          exact plain _ (by omega) (by omega) (by omega) (by omega)

/-- The last two digits of a control character; the first two are zeros. -/
theorem takeUnit_control : ∀ n < 0x20,
    takeUnit (0x30 :: 0x30 :: Utf8.encode [Json.hexDigit (n / 16), Json.hexDigit (n % 16)]) =
      some (n, []) ∧
    (Utf8.encode [Json.hexDigit (n / 16), Json.hexDigit (n % 16)]).length = 2 := by
  decide

/-- What the writer makes of a character stands for the character. -/
theorem spells_escapeChar (c : Char) :
    Spells (Utf8.encode (Json.escapeChar c)) (Utf8.encodeChar c) := by
  unfold Json.escapeChar
  -- the seven characters with an escape of their own
  iterate 7
    split
    · exact spells_short (c := c) (by subst c; decide) (by decide)
  split
  · rename_i control
    obtain ⟨unit, two⟩ := takeUnit_control c.toNat control
    obtain ⟨a, b, digits⟩ := List.length_eq_two.mp two
    rw [digits] at unit
    have octets : Utf8.encode ['\\', 'u', '0', '0', Json.hexDigit (c.toNat / 16),
        Json.hexDigit (c.toNat % 16)] = [0x5C, 0x75, 0x30, 0x30, a, b] :=
      congrArg ([0x5C, 0x75, 0x30, 0x30] ++ ·) digits
    have whole : isHalf c.toNat = false := by
      simp only [isHalf, Bool.and_eq_false_imp, decide_eq_true_eq, decide_eq_false_iff_not]
      omega
    have spelled := spells_long unit whole
    rw [Char.ofNat_toNat] at spelled
    rw [octets]
    exact spelled
  · rename_i quote slash _ _ _ _ _ printable
    rw [Utf8.encode, List.flatMap_singleton]
    exact spells_plains fun b => isPlain_of_mem_encodeChar quote slash printable

theorem spells_escaped (s : List Char) :
    Spells (Utf8.encode (s.flatMap Json.escapeChar)) (Utf8.encode s) := by
  induction s with
  | nil => exact .nil
  | cons c rest ih =>
    rw [List.flatMap_cons, Utf8.encode, List.flatMap_append]
    exact (spells_escapeChar c).append ih

/-- A string as the writer writes it is read up to its end. -/
theorem readString_escaped (s : String) (r : Octets) :
    readString (Utf8.encode (s.toList.flatMap Json.escapeChar) ++ 0x22 :: r) =
      (.str (some s), r) := by
  obtain ⟨ps, taken, joined⟩ := spells_escaped s.toList
  have finish : takePieces (0x22 :: r) = some ([], r) := by
    rw [takePieces.eq_def]
    rfl
  have whole : joinPieces ps = some (Utf8.encode s.toList) := by
    have := joined []
    simpa [joinPieces] using this
  have text : textOf ps = some s := by
    simp only [textOf, whole, Option.bind_eq_bind, Option.bind_some, Utf8.decode_encode,
      String.ofList_toList]
  rw [readString, taken, finish]
  simp only [Option.map_some, List.append_nil, text]

/-- Octets that a numeral cannot go on with. -/
def EndsNumeral (r : Octets) : Prop :=
  ∀ b ∈ r.head?, isDigit b = false ∧ isChar b '.' = false ∧ isChar b 'e' = false ∧
    isChar b 'E' = false

theorem EndsNumeral.digits {r : Octets} (h : EndsNumeral r) : ∀ b ∈ r.head?, isDigit b = false :=
  fun b mem => (h b mem).1

theorem endsNumeral_nil : EndsNumeral [] := by
  intro b h
  cases h

theorem endsNumeral_cons {b : UInt8} (r : Octets) (h : isDigit b = false ∧ isChar b '.' = false ∧
    isChar b 'e' = false ∧ isChar b 'E' = false) : EndsNumeral (b :: r) := by
  intro c hc
  cases hc
  exact h

theorem takeDigits_append (bs : Octets) {r : Octets} (stop : ∀ b ∈ r.head?, isDigit b = false) :
    takeDigits (bs ++ r) = ((takeDigits bs).1, (takeDigits bs).2 ++ r) := by
  have untouched : r.takeWhile isDigit = [] ∧ r.dropWhile isDigit = r := by
    cases r with
    | nil => exact ⟨rfl, rfl⟩
    | cons b r =>
      have other : isDigit b = false := stop b rfl
      exact ⟨List.takeWhile_cons_of_neg (by simp [other]),
        List.dropWhile_cons_of_neg (by simp [other])⟩
  induction bs with
  | nil => simp only [takeDigits, List.nil_append, untouched, digitChars, List.takeWhile_nil,
      List.map_nil, List.dropWhile_nil]
  | cons b bs ih =>
    simp only [takeDigits, Prod.mk.injEq] at ih
    by_cases digit : isDigit b = true
    · simp only [takeDigits, List.cons_append, List.takeWhile_cons_of_pos digit,
        List.dropWhile_cons_of_pos digit, Prod.mk.injEq]
      exact ⟨congrArg (_ :: ·) ih.1, ih.2⟩
    · simp only [takeDigits, List.cons_append, List.takeWhile_cons_of_neg digit,
        List.dropWhile_cons_of_neg digit]

/-- A sign in front of an exponent: whether it is minus, and what follows. -/
def splitSign (bs : Octets) : Bool × Octets :=
  match bs with
  | s :: r =>
    if isChar s '-' then (true, r) else if isChar s '+' then (false, r) else (false, s :: r)
  | [] => (false, [])

theorem takeExponent_cons (b : UInt8) (rest : Octets) :
    takeExponent (b :: rest) =
      if isChar b 'e' || isChar b 'E' then
        if (takeDigits (splitSign rest).2).1.isEmpty then none
        else some (some (
            if (splitSign rest).1 then -(digitsValue (takeDigits (splitSign rest).2).1 : Int)
            else digitsValue (takeDigits (splitSign rest).2).1),
          (takeDigits (splitSign rest).2).2)
      else some (none, b :: rest) := rfl

theorem splitSign_append {bs : Octets} (nonempty : bs ≠ []) (r : Octets) :
    splitSign (bs ++ r) = ((splitSign bs).1, (splitSign bs).2 ++ r) := by
  cases bs with
  | nil => exact absurd rfl nonempty
  | cons s bs =>
    simp only [List.cons_append, splitSign]
    split
    · rfl
    · split <;> rfl

section numerals

variable {bs rest r : Octets} (stop : EndsNumeral r)

include stop

theorem takeFraction_append {f : Option (List Char)} (h : takeFraction bs = some (f, rest)) :
    takeFraction (bs ++ r) = some (f, rest ++ r) := by
  cases bs with
  | nil =>
    obtain ⟨rfl, rfl⟩ := h
    cases r with
    | nil => rfl
    | cons b r =>
      have point : isChar b '.' = false := (stop b rfl).2.1
      simp only [List.nil_append, takeFraction, point, Bool.false_eq_true, if_false]
  | cons b bs =>
    simp only [takeFraction, List.cons_append, takeDigits_append _ stop.digits] at h ⊢
    split
    · rename_i point
      rw [if_pos point] at h
      split at h
      · cases h
      · rename_i digits
        rw [if_neg digits]
        cases h
        rfl
    · rename_i point
      rw [if_neg point] at h
      cases h
      rfl

theorem takeExponent_append {e : Option Int} (h : takeExponent bs = some (e, rest)) :
    takeExponent (bs ++ r) = some (e, rest ++ r) := by
  cases bs with
  | nil =>
    obtain ⟨rfl, rfl⟩ := h
    cases r with
    | nil => rfl
    | cons b r =>
      have mark : (isChar b 'e' || isChar b 'E') = false := by
        rw [(stop b rfl).2.2.1, (stop b rfl).2.2.2]
        rfl
      simp only [List.nil_append, takeExponent, mark, Bool.false_eq_true, if_false]
  | cons b bs =>
    rw [List.cons_append, takeExponent_cons] at *
    split
    · rename_i mark
      rw [if_pos mark] at h
      have nonempty : bs ≠ [] := by
        rintro rfl
        cases h
      simp only [splitSign_append nonempty r, takeDigits_append _ stop.digits]
      split at h
      · cases h
      · rename_i digits
        rw [if_neg digits]
        cases h
        rfl
    · rename_i mark
      rw [if_neg mark] at h
      cases h
      rfl

theorem takeNumeral_append {negative : Bool} {t : NumeralText}
    (h : takeNumeral negative bs = some (t, rest)) :
    takeNumeral negative (bs ++ r) = some (t, rest ++ r) := by
  simp only [takeNumeral, takeDigits_append _ stop.digits] at h ⊢
  split at h
  · cases h
  · rename_i whole
    obtain ⟨⟨fraction, rest₁⟩, front, h⟩ := Option.bind_eq_some_iff.mp h
    obtain ⟨⟨exponent, rest₂⟩, back, h⟩ := Option.bind_eq_some_iff.mp h
    cases h
    rw [if_neg whole, takeFraction_append stop front]
    simp only [Option.bind_eq_bind, Option.bind_some, takeExponent_append stop back]

theorem readNumeral_append {negative : Bool} {v : Option Numeral}
    (h : readNumeral negative bs = (.num v, rest)) :
    readNumeral negative (bs ++ r) = (.num v, rest ++ r) := by
  unfold readNumeral at h ⊢
  split at h
  · rename_i found
    rw [takeNumeral_append stop found]
    cases h
    rfl
  · cases h

end numerals

end FieldQuery.Draft

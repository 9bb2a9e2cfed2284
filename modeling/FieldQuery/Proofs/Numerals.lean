import FieldQuery.Json.Faithful
import FieldQuery.Proofs.Answers
import FieldQuery.Proofs.JsonTokens
import FieldQuery.Proofs.WholeText

/-!
# Numerals read back

A whole number of 64 bits is read from its digits. A small whole number in floating point is written
with all its digits and one zero behind the point; the reader forms ten times the number and divides
by ten, both without rounding.
-/
namespace FieldQuery

open Text

namespace Draft

theorem readDocument_ok_iff {α : Type} {read : Origin → Draft → Draft.Read α} {bs : Octets}
    {a : α} : readDocument read bs = .ok a ↔
      (Draft.read bs).2 = true ∧ read .text (Draft.read bs).1 = .ok a := by
  unfold readDocument
  obtain ⟨d, clean⟩ := Draft.read bs
  cases found : read .text d with
  | error fault =>
    simp only [found, reduceCtorEq, and_false, iff_false]
    exact nofun
  | ok b => cases clean <;> simp [found, Bind.bind, Except.bind]

theorem digit_octet {c : Char} (h : c.isDigit = true) :
    Utf8.encodeChar c = [Utf8.octet c.toNat] ∧ isDigit (Utf8.octet c.toNat) = true ∧
      Char.ofNat (Utf8.octet c.toNat).toNat = c := by
  have range : 48 ≤ c.toNat ∧ c.toNat ≤ 57 := by
    simpa [Char.isDigit, UInt32.le_iff_toNat_le] using h
  have value : (Utf8.octet c.toNat).toNat = c.toNat := Utf8.octet_toNat (by omega)
  refine ⟨if_pos (by omega), ?_, ?_⟩
  · simp only [isDigit, value, Bool.and_eq_true, decide_eq_true_eq]
    omega
  · rw [value, Char.ofNat_toNat]

theorem takeDigits_encode {ds : List Char} (h : ∀ c ∈ ds, c.isDigit = true) :
    takeDigits (Utf8.encode ds) = (ds, []) := by
  induction ds with
  | nil => rfl
  | cons c rest ih =>
    obtain ⟨octets, digit, back⟩ := digit_octet (h c List.mem_cons_self)
    have more := ih fun x hx => h x (List.mem_cons_of_mem c hx)
    simp only [takeDigits, Prod.mk.injEq] at more
    have whole : Utf8.encode (c :: rest) = Utf8.octet c.toNat :: Utf8.encode rest := by
      rw [Utf8.encode, List.flatMap_cons, octets]
      rfl
    rw [whole, takeDigits, List.takeWhile_cons_of_pos digit, List.dropWhile_cons_of_pos digit,
      more.2]
    exact congrArg (·, []) (congrArg₂ List.cons back more.1)

theorem digit_begins {b : UInt8} (h : isDigit b = true) :
    isSpace b = false ∧ isChar b '[' = false ∧ isChar b '\x7b' = false ∧ isChar b '"' = false ∧
      isChar b '-' = false := by
  simp only [isDigit, Bool.and_eq_true, decide_eq_true_eq] at h
  have other (c : Char) (far : c.toNat < 0x30 ∨ 0x39 < c.toNat) : isChar b c = false := by
    simp only [isChar, beq_eq_false_iff_ne]
    omega
  refine ⟨?_, other _ (by decide), other _ (by decide), other _ (by decide), other _ (by decide)⟩
  rw [isSpace, other _ (by decide), other _ (by decide), other _ (by decide), other _ (by decide)]
  rfl

/-- The digits of a natural before what cannot be one of them. -/
theorem takeNumeral_decimalDigits (negative : Bool) (n : Nat) {r : Octets}
    (stop : ∀ b ∈ r.head?, isDigit b = false) :
    takeNumeral negative (Utf8.encode (decimalDigits n) ++ r) = (do
      let (fraction, rest) ← takeFraction r
      let (exponent, rest) ← takeExponent rest
      some (⟨negative, decimalDigits n, fraction, exponent⟩, rest)) := by
  have digits : takeDigits (Utf8.encode (decimalDigits n) ++ r) = (decimalDigits n, r) := by
    rw [takeDigits_append _ stop, takeDigits_encode fun _ => isDigit_of_mem_decimalDigits]
    rfl
  have first : ((decimalDigits n).isEmpty ||
      ((decimalDigits n).head? == some '0' && (decimalDigits n).length != 1)) = false := by
    have nonempty : (decimalDigits n).isEmpty = false :=
      List.isEmpty_eq_false_iff.mpr (decimalDigits_ne_nil n)
    by_cases zero : n = 0
    · subst zero
      decide
    · rw [nonempty, beq_false_of_ne (head?_decimalDigits zero)]
      rfl
  rw [takeNumeral, digits]
  simp only [first, Bool.false_eq_true, if_false]

theorem encode_decimalDigits (n : Nat) (tail : List Char) : ∃ b rest,
    Utf8.encode (decimalDigits n ++ tail) = b :: rest ∧ isDigit b = true := by
  obtain ⟨c, cs, digits⟩ := List.exists_cons_of_ne_nil (decimalDigits_ne_nil n)
  have digit : c.isDigit = true := by
    refine isDigit_of_mem_decimalDigits (n := n) ?_
    rw [digits]
    exact List.mem_cons_self
  obtain ⟨octets, first, -⟩ := digit_octet digit
  refine ⟨Utf8.octet c.toNat, Utf8.encode (cs ++ tail), ?_, first⟩
  rw [digits, List.cons_append, Utf8.encode, List.flatMap_cons, octets]
  rfl

/-- A text that is one scalar and nothing else. -/
theorem readsBack_of_scalar {n : Numeral} {b : UInt8} {rest : Octets}
    (octets : Utf8.encode n.text.toList = b :: rest) (space : isSpace b = false)
    (bracket : isChar b '[' = false) (brace : isChar b '\x7b' = false)
    (read : readScalar b rest = (.num (some n), [])) : n.ReadsBack := by
  have here : skipSpace (b :: rest) = b :: rest := List.dropWhile_cons_of_neg (by simp [space])
  have compact : (Json.num n).text.toList = n.text.toList := String.toList_ofList
  have document : Draft.read (b :: rest) = (.num (some n), true) := by
    rw [Draft.read, readValue, here]
    simp only [bracket, brace, Bool.false_eq_true, if_false, read]
    rfl
  refine readDocument_ok_iff.mpr ?_
  rw [compact, octets, document]
  exact ⟨rfl, rfl⟩

/-- A text that is a sign and a numeral. -/
theorem readsBack_of_takeNumeral {n : Numeral} {negative : Bool} {k : Nat} {tail : List Char}
    {t : NumeralText}
    (text : n.text.toList = (if negative then ['-'] else []) ++ (decimalDigits k ++ tail))
    (taken : takeNumeral negative (Utf8.encode (decimalDigits k ++ tail)) = some (t, []))
    (value : t.value? = some n) : n.ReadsBack := by
  have read : readNumeral negative (Utf8.encode (decimalDigits k ++ tail)) =
      (.num (some n), []) := by
    rw [readNumeral, taken]
    simp only [value]
  cases negative with
  | true =>
    have octets : Utf8.encode n.text.toList = 0x2D :: Utf8.encode (decimalDigits k ++ tail) := by
      rw [text]
      rfl
    exact readsBack_of_scalar octets (by decide) (by decide) (by decide) read
  | false =>
    obtain ⟨b, rest, octets, digit⟩ := encode_decimalDigits k tail
    obtain ⟨space, bracket, brace, quote, minus⟩ := digit_begins digit
    rw [octets] at read
    refine readsBack_of_scalar (text ▸ octets) space bracket brace ?_
    simp only [readScalar, quote, minus, digit, Bool.false_eq_true, if_false, if_true, read]

end Draft

theorem Numeral.readsBack_int {n : Int} (h : (Numeral.int n).Faithful) :
    (Numeral.int n).ReadsBack := by
  obtain ⟨low, high⟩ := h
  have text : (Numeral.int n).text.toList =
      (if decide (n < 0) then ['-'] else []) ++ (decimalDigits n.natAbs ++ []) := by
    have toList : (Numeral.int n).text.toList =
        if n < 0 then '-' :: decimalDigits n.natAbs else decimalDigits n.natAbs :=
      String.toList_ofList
    rw [toList, List.append_nil]
    by_cases negative : n < 0 <;> simp [negative]
  have taken : Draft.takeNumeral (decide (n < 0)) (Utf8.encode (decimalDigits n.natAbs ++ [])) =
      some (⟨decide (n < 0), decimalDigits n.natAbs, none, none⟩, []) := by
    rw [Utf8.encode, List.flatMap_append]
    exact Draft.takeNumeral_decimalDigits _ _ Draft.endsNumeral_nil.digits
  refine Draft.readsBack_of_takeNumeral text taken ?_
  have limits : intLimit < wordLimit := by decide
  unfold NumeralText.value?
  simp only [digitsValue_decimalDigits, Option.isNone_none, Bool.true_and]
  rw [if_pos (by simp; omega)]
  by_cases negative : n < 0
  · rw [if_neg (by simpa using negative), if_neg (by simp; omega)]
    congr 2
    omega
  · rw [if_pos (by simpa using negative)]
    congr 2
    omega

namespace NumeralText

/-- Ten times a natural, scaled down by ten. -/
theorem scale_tenfold {n : Nat} (small : 10 * n ≤ 2 ^ 54) :
    scale (10 * n) (-1) = some (if n = 0 then ⟨false, 0⟩ else Number.whole false n) := by
  by_cases zero : n = 0
  · subst zero
    decide
  · have tenfold := Number.fits_ten_mul zero small
    have nonzero : (Number.ofInt ((10 * n : Nat) : Int)).isZero = false := by
      have bounds := tenfold.significand_bounds.1
      rw [tenfold.ofInt_natCast]
      simp only [Number.isZero, Number.whole, beq_eq_false_iff_ne]
      unfold Number.binade at *
      omega
    have quotient : scaleDown 4 (Number.ofInt ((10 * n : Nat) : Int)) (-1) =
        (Number.ofInt ((10 * n : Nat) : Int)).div (Number.ofDecimal false 1 1) := by
      rw [scaleDown, nonzero]
      rfl
    rw [if_neg zero, ← Number.div_ten zero small, ← quotient]
    rfl

/-- A zero behind the point makes the reader divide the tenfold by ten. -/
theorem value?_pointZero (negative : Bool) {n : Nat} (small : 10 * n ≤ 2 ^ 54) :
    value? ⟨negative, decimalDigits n, some ['0'], none⟩ =
      some (.real (if n = 0 then ⟨negative, 0⟩ else Number.whole negative n)) := by
  have limit : 2 ^ 54 < wordLimit := by decide
  have front : takeFitting 0 (decimalDigits n) = (n, []) := by
    have value : (decimalDigits n).foldl (fun n c => 10 * n + digitValue c) 0 = n :=
      digitsValue_decimalDigits n
    rw [takeFitting_all (by rw [value]; omega), value]
  have back : takeFitting n ['0'] = (10 * n, []) :=
    takeFitting_all (show 10 * n < wordLimit by omega)
  have size : size? ⟨negative, decimalDigits n, some ['0'], none⟩ =
      some (if n = 0 then ⟨false, 0⟩ else Number.whole false n) := by
    rw [← scale_tenfold small, size?]
    simp only [front, Option.getD_some, back]
    rfl
  unfold value?
  simp only [Option.isNone_some, Bool.false_and, Bool.false_eq_true, if_false, size,
    Option.map_some]
  by_cases zero : n = 0 <;> cases negative <;> simp [zero, Number.neg, Number.whole]

end NumeralText

/-- The text of a small whole number, zero included. -/
theorem text_smallWhole (negative : Bool) {n : Nat} (small : 10 * n ≤ 2 ^ 54) :
    (Numeral.real (if n = 0 then ⟨negative, 0⟩ else Number.whole negative n)).text.toList =
      (if negative then ['-'] else []) ++ (decimalDigits n ++ ['.', '0']) := by
  by_cases zero : n = 0
  · subst zero
    cases negative <;> decide
  · have bits : n.log2 < 52 := (Nat.log2_lt zero).mpr (by omega)
    have text := render_whole (Number.fits_of_lt zero (by omega)) negative bits
    rw [if_neg zero, Numeral.text, text, String.toList_ofList, List.append_assoc]

theorem Numeral.readsBack_smallWhole {x : Number} (h : x.isSmallWhole = true) :
    (Numeral.real x).ReadsBack := by
  obtain ⟨k, int, small⟩ : ∃ k : Int, x.toInt? = some k ∧ 10 * k.natAbs ≤ 2 ^ 54 := by
    cases int : x.toInt? with
    | none =>
      rw [Number.isSmallWhole, int] at h
      cases h
    | some k =>
      rw [Number.isSmallWhole, int] at h
      exact ⟨k, rfl, of_decide_eq_true h⟩
  have value : x = if k.natAbs = 0 then ⟨x.negative, 0⟩ else Number.whole x.negative k.natAbs := by
    by_cases zero : k.natAbs = 0
    · obtain rfl := Int.natAbs_eq_zero.mp zero
      rw [if_pos zero, ← Number.code_of_toInt?_zero int]
    · rw [if_neg zero]
      exact Number.eq_whole_of_toInt? int (by omega) (by omega)
  have taken : Draft.takeNumeral x.negative (Utf8.encode (decimalDigits k.natAbs ++ ['.', '0'])) =
      some (⟨x.negative, decimalDigits k.natAbs, some ['0'], none⟩, []) := by
    have point : ∀ b ∈ (Utf8.encode ['.', '0']).head?, Draft.isDigit b = false := by
      intro b mem
      cases mem
      rfl
    rw [Utf8.encode, List.flatMap_append]
    exact Draft.takeNumeral_decimalDigits _ _ point
  have text := text_smallWhole x.negative small
  have read := NumeralText.value?_pointZero x.negative small
  rw [← value] at text read
  exact Draft.readsBack_of_takeNumeral text taken read

/-- The text of a numeral that text is faithful to is read as the numeral. -/
theorem Numeral.Faithful.readsBack {n : Numeral} (h : n.Faithful) : n.ReadsBack := by
  cases n with
  | int n => exact readsBack_int h
  | real x =>
    rcases h with small | back
    · exact readsBack_smallWhole small
    · exact back

end FieldQuery

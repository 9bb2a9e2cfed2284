import FieldQuery.Request.Parameter
import FieldQuery.Request.Transport

/-!
# Both alphabets

A reader tries the standard alphabet before the one that is safe in an address. What was written in
the first is read back whether or not its two special signs were exchanged on the way.
-/
namespace FieldQuery.Text.Base64

open Parameter (safeSign)

theorem value?_safeSign {c : Char} {n : Nat} (h : Alphabet.standard.value? c = some n) :
    Alphabet.urlSafe.value? (safeSign c) = some n := by
  by_cases plus : c = '+'
  · subst plus
    exact h
  · by_cases slash : c = '/'
    · subst slash
      exact h
    · rw [safeSign, if_neg plus, if_neg slash]
      have others : Alphabet.standard.digit62 = '+' ∧ Alphabet.standard.digit63 = '/' := ⟨rfl, rfl⟩
      unfold Alphabet.value? at h ⊢
      rw [others.1, others.2, if_neg plus, if_neg slash] at h
      split at h
      · rwa [if_pos ‹_›]
      · rw [if_neg ‹_›]
        split at h
        · rwa [if_pos ‹_›]
        · rw [if_neg ‹_›]
          split at h
          · rwa [if_pos ‹_›]
          · cases h

theorem safeSign_eq_pad (c : Char) : safeSign c = '=' ↔ c = '=' := by
  unfold safeSign
  split
  · rename_i plus
    subst plus
    decide
  · split
    · rename_i slash
      subst slash
      decide
    · rfl

theorem decodeQuad_safeSign {c d e f : Char} {bs : List UInt8}
    (h : decodeQuad .standard c d e f = some bs) :
    decodeQuad .urlSafe (safeSign c) (safeSign d) (safeSign e) (safeSign f) = some bs := by
  obtain ⟨x, hx, h⟩ := Option.bind_eq_some_iff.mp h
  obtain ⟨y, hy, h⟩ := Option.bind_eq_some_iff.mp h
  obtain ⟨z, hz, h⟩ := Option.bind_eq_some_iff.mp h
  obtain ⟨w, hw, h⟩ := Option.bind_eq_some_iff.mp h
  simp only [decodeQuad, value?_safeSign hx, value?_safeSign hy, value?_safeSign hz,
    value?_safeSign hw, Option.bind_eq_bind, Option.bind_some]
  exact h

theorem decodePadded_safeSign {c d e f : Char} {bs : List UInt8}
    (h : decodePadded .standard c d e f = some bs) :
    decodePadded .urlSafe (safeSign c) (safeSign d) (safeSign e) (safeSign f) = some bs := by
  unfold decodePadded at h ⊢
  simp only [ne_eq, safeSign_eq_pad]
  split at h
  · cases h
  · rw [if_neg ‹_›]
    split at h
    · rw [if_pos ‹_›]
      obtain ⟨x, hx, h⟩ := Option.bind_eq_some_iff.mp h
      obtain ⟨y, hy, h⟩ := Option.bind_eq_some_iff.mp h
      simp only [value?_safeSign hx, value?_safeSign hy, Option.bind_eq_bind, Option.bind_some]
      exact h
    · rw [if_neg ‹_›]
      obtain ⟨x, hx, h⟩ := Option.bind_eq_some_iff.mp h
      obtain ⟨y, hy, h⟩ := Option.bind_eq_some_iff.mp h
      obtain ⟨z, hz, h⟩ := Option.bind_eq_some_iff.mp h
      simp only [value?_safeSign hx, value?_safeSign hy, value?_safeSign hz, Option.bind_eq_bind,
        Option.bind_some]
      exact h

/-- What the last four signs of a padded text are. -/
theorem signs_of_decodePadded {a : Alphabet} {c d e f : Char} {bs : List UInt8}
    (h : decodePadded a c d e f = some bs) :
    f = '=' ∧ (a.value? c).isSome = true ∧ (a.value? d).isSome = true ∧
      (e = '=' ∨ (a.value? e).isSome = true) := by
  unfold decodePadded at h
  split at h
  · cases h
  rename_i pad
  refine ⟨Decidable.not_not.mp pad, ?_⟩
  split at h
  · obtain ⟨x, hx, h⟩ := Option.bind_eq_some_iff.mp h
    obtain ⟨y, hy, -⟩ := Option.bind_eq_some_iff.mp h
    exact ⟨Option.isSome_of_eq_some hx, Option.isSome_of_eq_some hy, .inl ‹_›⟩
  · obtain ⟨x, hx, h⟩ := Option.bind_eq_some_iff.mp h
    obtain ⟨y, hy, h⟩ := Option.bind_eq_some_iff.mp h
    obtain ⟨z, hz, -⟩ := Option.bind_eq_some_iff.mp h
    exact ⟨Option.isSome_of_eq_some hx, Option.isSome_of_eq_some hy,
      .inr (Option.isSome_of_eq_some hz)⟩

/-- A text of the standard alphabet with its special signs exchanged is read in the other one. -/
theorem decode?_map_safeSign {s : List Char} {bs : List UInt8} (h : decode? .standard s = some bs) :
    decode? .urlSafe (s.map safeSign) = some bs := by
  fun_induction decode? .standard s generalizing bs with
  | case1 => exact h
  | case2 c d e f =>
    rw [List.map_cons, List.map_cons, List.map_cons, List.map_cons, List.map_nil, decode?]
    rcases Option.or_eq_some_iff.mp h with quad | ⟨noQuad, padded⟩
    · rw [decodeQuad_safeSign quad]
      rfl
    · obtain ⟨rfl, -⟩ := signs_of_decodePadded padded
      have pad : safeSign '=' = '=' := rfl
      have again := decodePadded_safeSign padded
      rw [pad] at again ⊢
      rw [decodeQuad_pad, Option.none_or]
      exact again
  | case3 c d e f rest nonempty ih =>
    obtain ⟨front, quad, h⟩ := Option.bind_eq_some_iff.mp h
    obtain ⟨back, more, h⟩ := Option.bind_eq_some_iff.mp h
    rw [List.map_cons, List.map_cons, List.map_cons, List.map_cons, decode?,
      decodeQuad_safeSign quad, ih more]
    · exact h
    · exact fun empty => nonempty (List.map_eq_nil_iff.mp empty)
  | case4 => cases h

theorem value?_of_decodeQuad {a : Alphabet} {c d e f x : Char} {bs : List UInt8}
    (h : decodeQuad a c d e f = some bs) (mem : x ∈ [c, d, e, f]) : (a.value? x).isSome = true := by
  obtain ⟨p, hp, h⟩ := Option.bind_eq_some_iff.mp h
  obtain ⟨q, hq, h⟩ := Option.bind_eq_some_iff.mp h
  obtain ⟨r, hr, h⟩ := Option.bind_eq_some_iff.mp h
  obtain ⟨s, hs, h⟩ := Option.bind_eq_some_iff.mp h
  simp only [List.mem_cons, List.not_mem_nil, or_false] at mem
  rcases mem with rfl | rfl | rfl | rfl
  · exact Option.isSome_of_eq_some hp
  · exact Option.isSome_of_eq_some hq
  · exact Option.isSome_of_eq_some hr
  · exact Option.isSome_of_eq_some hs

/-- A text that is read holds only signs of its alphabet and padding. -/
theorem value?_of_decode? {a : Alphabet} {s : List Char} {bs : List UInt8}
    (h : decode? a s = some bs) {x : Char} (mem : x ∈ s) :
    x = '=' ∨ (a.value? x).isSome = true := by
  fun_induction decode? a s generalizing bs with
  | case1 => cases mem
  | case2 c d e f =>
    rcases Option.or_eq_some_iff.mp h with quad | ⟨-, padded⟩
    · exact .inr (value?_of_decodeQuad quad mem)
    · obtain ⟨rfl, first, second, third⟩ := signs_of_decodePadded padded
      simp only [List.mem_cons, List.not_mem_nil, or_false] at mem
      rcases mem with rfl | rfl | rfl | rfl
      · exact .inr first
      · exact .inr second
      · exact third
      · exact .inl rfl
  | case3 c d e f rest nonempty ih =>
    obtain ⟨front, quad, h⟩ := Option.bind_eq_some_iff.mp h
    obtain ⟨back, more, h⟩ := Option.bind_eq_some_iff.mp h
    rcases List.mem_append.mp (show x ∈ [c, d, e, f] ++ rest from mem) with now | later
    · exact .inr (value?_of_decodeQuad quad now)
    · exact ih more later
  | case4 => cases h

theorem safeSign_of_standard {c : Char}
    (h : safeSign c = '=' ∨ (Alphabet.standard.value? (safeSign c)).isSome = true) :
    safeSign c = c := by
  by_cases plus : c = '+'
  · subst plus
    exact absurd h (by decide)
  · by_cases slash : c = '/'
    · subst slash
      exact absurd h (by decide)
    · rw [safeSign, if_neg plus, if_neg slash]

/-- Whether or not the special signs were exchanged, one of the alphabets reads what was written. -/
theorem decode?_of_encode {bs : List UInt8} {signs : List Char}
    (h : signs ∈ [encode bs, (encode bs).map safeSign]) :
    (decode? .standard signs <|> decode? .urlSafe signs) = some bs := by
  have written : decode? .standard (encode bs) = some bs := decode?_encode bs
  simp only [List.mem_cons, List.not_mem_nil, or_false] at h
  rcases h with rfl | rfl
  · rw [written]
    rfl
  · cases read : decode? .standard ((encode bs).map safeSign) with
    | none =>
      rw [decode?_map_safeSign written]
      rfl
    | some other =>
      have same : (encode bs).map safeSign = encode bs := by
        refine (List.map_congr_left (g := id) fun c mem => ?_).trans (List.map_id _)
        exact safeSign_of_standard (value?_of_decode? read (List.mem_map_of_mem mem))
      rw [same, written] at read
      rw [← read]
      rfl

theorem toNat_lt_of_value? {a : Alphabet} {c : Char} (h : (a.value? c).isSome = true) :
    c.toNat < 0x80 := by
  have bound : ∀ d : Char, d.toNat < 0x80 → c ≤ d → c.toNat < 0x80 :=
    fun d small le => Nat.lt_of_le_of_lt (UInt32.le_iff_toNat_le.mp (Char.le_def.mp le)) small
  unfold Alphabet.value? at h
  split at h
  · exact bound 'Z' (by decide) (And.right ‹_›)
  split at h
  · exact bound 'z' (by decide) (And.right ‹_›)
  split at h
  · exact bound '9' (by decide) (And.right ‹_›)
  split at h
  · rename_i same
    rw [same]
    cases a <;> decide
  split at h
  · rename_i same
    rw [same]
    cases a <;> decide
  · cases h

theorem head?_encode (b : UInt8) (bs : List UInt8) :
    (encode (b :: bs)).head? = some (Alphabet.standard.digit (b.toNat / 4)) := by
  obtain _ | ⟨y, _ | ⟨z, rest⟩⟩ := bs
  · rfl
  · have hy := y.toNat_lt
    simp only [encode, List.head?_cons]
    congr 2
    omega
  · have hy := y.toNat_lt
    have hz := z.toNat_lt
    simp only [encode, List.head?_cons]
    congr 2
    omega

theorem getLast?_encode {bs : List UInt8} {b : UInt8} (h : bs.getLast? = some b) :
    (encode bs).getLast? = some '=' ∨
      (encode bs).getLast? = some (Alphabet.standard.digit (b.toNat % 64)) := by
  fun_induction encode bs with
  | case1 => cases h
  | case2 x n => exact .inl rfl
  | case3 x y n => exact .inl rfl
  | case4 x y z rest n ih =>
    cases rest with
    | nil =>
      obtain rfl : z = b := Option.some.inj h
      refine .inr (congrArg (some ∘ Alphabet.standard.digit) ?_)
      omega
    | cons w rest =>
      have back (front : List Char) : (front ++ encode (w :: rest)).getLast? =
          (encode (w :: rest)).getLast? := by
        rw [List.getLast?_append]
        rcases ih h with last | last <;> rw [last] <;> rfl
      rcases ih h with last | last
      · exact .inl ((back [_, _, _, _]).trans last)
      · exact .inr ((back [_, _, _, _]).trans last)

end FieldQuery.Text.Base64

/-!
# UTF-8

Characters as sequences of octets, and the reading of octets as characters. A fault in the octets
is described by where it begins and how many octets are at fault, none if the text merely ends too
early. Main statement: the octets of a text are read back as the text.
-/
namespace FieldQuery.Text.Utf8

def octet (n : Nat) : UInt8 := UInt8.ofNat n

/-- The octets of one character. -/
def encodeChar (c : Char) : List UInt8 :=
  let n := c.toNat
  if n < 0x80 then [octet n]
  else if n < 0x800 then [octet (0xC0 + n / 0x40), octet (0x80 + n % 0x40)]
  else if n < 0x10000 then
    [octet (0xE0 + n / 0x1000), octet (0x80 + n / 0x40 % 0x40), octet (0x80 + n % 0x40)]
  else
    [octet (0xF0 + n / 0x40000), octet (0x80 + n / 0x1000 % 0x40),
      octet (0x80 + n / 0x40 % 0x40), octet (0x80 + n % 0x40)]

def encode (s : List Char) : List UInt8 := s.flatMap encodeChar

def size (s : List Char) : Nat := (encode s).length

/-- The first octet of a character: its share of the code point, and the least and the greatest
value of each octet that must follow. -/
def lead (b : Nat) : Option (Nat × List (Nat × Nat)) :=
  let tail := (0x80, 0xBF)
  if b < 0x80 then some (b, [])
  else if 0xC2 ≤ b ∧ b ≤ 0xDF then some (b - 0xC0, [tail])
  else if b = 0xE0 then some (0, [(0xA0, 0xBF), tail])
  else if b = 0xED then some (0xD, [(0x80, 0x9F), tail])
  else if 0xE1 ≤ b ∧ b ≤ 0xEF then some (b - 0xE0, [tail, tail])
  else if b = 0xF0 then some (0, [(0x90, 0xBF), tail, tail])
  else if 0xF1 ≤ b ∧ b ≤ 0xF3 then some (b - 0xF0, [tail, tail, tail])
  else if b = 0xF4 then some (4, [(0x80, 0x8F), tail, tail])
  else none

/-- What reading the octets after the first may lead to. -/
inductive Rest where
  | complete (code : Nat) (rest : List UInt8)
  /-- The octets end before the character does. -/
  | cut
  /-- An octet cannot continue the character, `good` octets after the first having fitted. -/
  | bad (good : Nat)

/-- Reads the octets that must follow the first. -/
def follow : Nat → Nat → List (Nat × Nat) → List UInt8 → Rest
  | code, _, [], rest => .complete code rest
  | _, _, _ :: _, [] => .cut
  | code, good, (low, high) :: more, b :: rest =>
    if low ≤ b.toNat ∧ b.toNat ≤ high then
      follow (code * 0x40 + (b.toNat - 0x80)) (good + 1) more rest
    else .bad good

/-- Where octets stop being UTF-8. -/
structure Fault where
  validUpTo : Nat
  /-- Number of octets at fault; none if more octets could have completed the character. -/
  length : Option Nat
deriving DecidableEq, Repr

/-- Reads characters; `fuel` bounds their number and `behind` counts the octets already read. -/
def decodeFrom : Nat → Nat → List UInt8 → Except Fault (List Char)
  | _, _, [] => .ok []
  | 0, behind, _ :: _ => .error ⟨behind, none⟩
  | fuel + 1, behind, b :: rest =>
    match lead b.toNat with
    | none => .error ⟨behind, some 1⟩
    | some (code, more) =>
      match follow code 0 more rest with
      | .cut => .error ⟨behind, none⟩
      | .bad good => .error ⟨behind, some (good + 1)⟩
      | .complete code rest' =>
        (decodeFrom fuel (behind + more.length + 1) rest').map (Char.ofNat code :: ·)

def decode (bs : List UInt8) : Except Fault (List Char) := decodeFrom bs.length 0 bs

theorem octet_toNat {n : Nat} (h : n < 256) : (octet n).toNat = n := by
  simp [octet, Nat.mod_eq_of_lt h]

/-- Octets that read as one character and leave the rest as it is. -/
def ReadsAs (code : Nat) (bs : List UInt8) : Prop :=
  ∃ b tail share more, bs = b :: tail ∧ lead b.toNat = some (share, more) ∧
    ∀ rest, follow share 0 more (tail ++ rest) = .complete code rest

theorem readsAs_one {n : Nat} (h : n < 0x80) : ReadsAs n [octet n] :=
  ⟨octet n, [], n, [], rfl, by rw [octet_toNat (by omega), lead, if_pos h], fun _ => rfl⟩

theorem readsAs_two {n : Nat} (low : 0x80 ≤ n) (high : n < 0x800) :
    ReadsAs n [octet (0xC0 + n / 0x40), octet (0x80 + n % 0x40)] := by
  refine ⟨_, _, n / 0x40, [(0x80, 0xBF)], rfl, ?_, fun rest => ?_⟩
  · rw [octet_toNat (by omega), lead, if_neg (by omega), if_pos (by omega)]
    simp
  · simp only [List.cons_append, List.nil_append, follow,
      octet_toNat (show 0x80 + n % 0x40 < 256 by omega)]
    rw [if_pos (by omega)]
    exact congrArg (Rest.complete · rest) (by omega)

/-- Surrogates have no octets of their own; the bounds of the second octet keep them out. -/
theorem readsAs_three {n : Nat} (low : 0x800 ≤ n) (high : n < 0x10000)
    (whole : n < 0xD800 ∨ 0xDFFF < n) :
    ReadsAs n [octet (0xE0 + n / 0x1000), octet (0x80 + n / 0x40 % 0x40),
      octet (0x80 + n % 0x40)] := by
  have second : (octet (0x80 + n / 0x40 % 0x40)).toNat = 0x80 + n / 0x40 % 0x40 :=
    octet_toNat (by omega)
  have third : (octet (0x80 + n % 0x40)).toNat = 0x80 + n % 0x40 := octet_toNat (by omega)
  have finish : ∀ l h rest, l ≤ 0x80 + n / 0x40 % 0x40 → 0x80 + n / 0x40 % 0x40 ≤ h →
      follow (n / 0x1000) 0 [(l, h), (0x80, 0xBF)]
        ([octet (0x80 + n / 0x40 % 0x40), octet (0x80 + n % 0x40)] ++ rest) = .complete n rest := by
    intro l h rest hl hh
    simp only [List.cons_append, List.nil_append, follow, second, third]
    rw [if_pos ⟨hl, hh⟩, if_pos (by omega)]
    exact congrArg (Rest.complete · rest) (by omega)
  by_cases first : n / 0x1000 = 0
  · refine ⟨_, _, n / 0x1000, [(0xA0, 0xBF), (0x80, 0xBF)], rfl, ?_,
      fun rest => finish _ _ rest (by omega) (by omega)⟩
    rw [octet_toNat (by omega), first]
    rfl
  · by_cases last : n / 0x1000 = 0xD
    · refine ⟨_, _, n / 0x1000, [(0x80, 0x9F), (0x80, 0xBF)], rfl, ?_,
        fun rest => finish _ _ rest (by omega) (by omega)⟩
      rw [octet_toNat (by omega), last]
      rfl
    · refine ⟨_, _, n / 0x1000, [(0x80, 0xBF), (0x80, 0xBF)], rfl, ?_,
        fun rest => finish _ _ rest (by omega) (by omega)⟩
      rw [octet_toNat (by omega), lead, if_neg (by omega), if_neg (by omega),
        if_neg (by omega), if_neg (by omega), if_pos (by omega)]
      simp

theorem readsAs_four {n : Nat} (low : 0x10000 ≤ n) (high : n < 0x110000) :
    ReadsAs n [octet (0xF0 + n / 0x40000), octet (0x80 + n / 0x1000 % 0x40),
      octet (0x80 + n / 0x40 % 0x40), octet (0x80 + n % 0x40)] := by
  have second : (octet (0x80 + n / 0x1000 % 0x40)).toNat = 0x80 + n / 0x1000 % 0x40 :=
    octet_toNat (by omega)
  have third : (octet (0x80 + n / 0x40 % 0x40)).toNat = 0x80 + n / 0x40 % 0x40 :=
    octet_toNat (by omega)
  have fourth : (octet (0x80 + n % 0x40)).toNat = 0x80 + n % 0x40 := octet_toNat (by omega)
  have finish : ∀ l h rest, l ≤ 0x80 + n / 0x1000 % 0x40 → 0x80 + n / 0x1000 % 0x40 ≤ h →
      follow (n / 0x40000) 0 [(l, h), (0x80, 0xBF), (0x80, 0xBF)]
        ([octet (0x80 + n / 0x1000 % 0x40), octet (0x80 + n / 0x40 % 0x40),
          octet (0x80 + n % 0x40)] ++ rest) = .complete n rest := by
    intro l h rest hl hh
    simp only [List.cons_append, List.nil_append, follow, second, third, fourth]
    rw [if_pos ⟨hl, hh⟩, if_pos (by omega), if_pos (by omega)]
    exact congrArg (Rest.complete · rest) (by omega)
  by_cases first : n / 0x40000 = 0
  · refine ⟨_, _, n / 0x40000, [(0x90, 0xBF), (0x80, 0xBF), (0x80, 0xBF)], rfl, ?_,
      fun rest => finish _ _ rest (by omega) (by omega)⟩
    rw [octet_toNat (by omega), first]
    rfl
  · by_cases last : n / 0x40000 = 4
    · refine ⟨_, _, n / 0x40000, [(0x80, 0x8F), (0x80, 0xBF), (0x80, 0xBF)], rfl, ?_,
        fun rest => finish _ _ rest (by omega) (by omega)⟩
      rw [octet_toNat (by omega), last]
      rfl
    · refine ⟨_, _, n / 0x40000, [(0x80, 0xBF), (0x80, 0xBF), (0x80, 0xBF)], rfl, ?_,
        fun rest => finish _ _ rest (by omega) (by omega)⟩
      rw [octet_toNat (by omega), lead, if_neg (by omega), if_neg (by omega), if_neg (by omega),
        if_neg (by omega), if_neg (by omega), if_neg (by omega), if_pos (by omega)]
      simp

theorem readsAs_encodeChar (c : Char) : ReadsAs c.toNat (encodeChar c) := by
  have valid : c.toNat < 0xD800 ∨ (0xDFFF < c.toNat ∧ c.toNat < 0x110000) := c.valid
  unfold encodeChar
  simp only
  split
  · exact readsAs_one ‹_›
  · split
    · exact readsAs_two (by omega) ‹_›
    · split
      · exact readsAs_three (by omega) ‹_› (by omega)
      · exact readsAs_four (by omega) (by omega)

theorem decodeFrom_encode (s : List Char) (fuel behind : Nat) (enough : (encode s).length ≤ fuel) :
    decodeFrom fuel behind (encode s) = .ok s := by
  induction s generalizing fuel behind with
  | nil => cases fuel <;> rfl
  | cons c rest ih =>
    obtain ⟨b, tail, share, more, octets, first, others⟩ := readsAs_encodeChar c
    have whole : encode (c :: rest) = b :: (tail ++ encode rest) := by simp [encode, octets]
    rw [whole] at enough ⊢
    simp only [List.length_cons, List.length_append] at enough
    cases fuel with
    | zero => omega
    | succ fuel =>
      simp only [decodeFrom, first, others]
      rw [ih fuel _ (by omega)]
      simp [Except.map, Char.ofNat_toNat]

/-- The octets of a text are read back. -/
theorem decode_encode (s : List Char) : decode (encode s) = .ok s :=
  decodeFrom_encode s _ _ (Nat.le_refl _)

def Fault.message (f : Fault) : String :=
  match f.length with
  | some n => s!"invalid utf-8 sequence of {n} bytes from index {f.validUpTo}"
  | none => s!"incomplete utf-8 byte sequence from index {f.validUpTo}"

end FieldQuery.Text.Utf8

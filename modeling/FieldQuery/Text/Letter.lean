import FieldQuery.Text.LetterTable

/-!
# Letter case

Lowering and raising of characters and texts. A text is lowered character by character, except
that a capital sigma at the end of a word takes the final form.
-/
namespace FieldQuery.Text

def isLower (c : Char) : Bool := inRuns lowerRuns c.toNat

def isUpper (c : Char) : Bool := inRuns upperRuns c.toNat

def isCased (c : Char) : Bool := isLower c || isUpper c || inRuns titleRuns c.toNat

def isCaseIgnorable (c : Char) : Bool := inRuns caseIgnorableRuns c.toNat

/-- The lower-case form of one character; only the dotted capital I has two characters. -/
def lowerChar (c : Char) : List Char :=
  if c.toNat < 0x80 then [c.toLower]
  else if c = '\u0130' then ['i', '\u0307']
  else match shiftOf lowerShifts c.toNat with
    | some d => [shifted c d]
    | none => [c]

/-- The upper-case form of one character. -/
def upperChar (c : Char) : List Char :=
  if c.toNat < 0x80 then [c.toUpper]
  else match upperExpansions.find? (·.1 == c.toNat) with
    | some (_, cs) => cs.map Char.ofNat
    | none => match shiftOf upperShifts c.toNat with
      | some d => [shifted c d]
      | none => [c]

/-- Whether a letter comes first, past characters that case rules ignore. -/
def leadsToCased (s : List Char) : Bool :=
  ((s.dropWhile isCaseIgnorable).head?.map isCased).getD false

/-- Lowers a text whose beginning, reversed, is already behind. -/
def lowerFrom : List Char → List Char → List Char
  | _, [] => []
  | behind, c :: ahead =>
    if c = 'Σ' then
      (if leadsToCased behind && !leadsToCased ahead then 'ς' else 'σ') ::
        lowerFrom (c :: behind) ahead
    else lowerChar c ++ lowerFrom (c :: behind) ahead

def lower (s : List Char) : List Char := lowerFrom [] s

def lowerString (s : String) : String := String.ofList (lower s.toList)

/-- Raises a text character by character. -/
def upper (s : List Char) : List Char := s.flatMap upperChar

def asciiLower (s : List Char) : List Char := s.map Char.toLower

def asciiUpper (s : List Char) : List Char := s.map Char.toUpper

/-- Equality up to the case of ASCII letters. -/
def eqIgnoreAsciiCase (s t : String) : Bool := asciiLower s.toList == asciiLower t.toList

variable {c d : Char}

theorem toLower_of_not_ascii (high : ¬c.toNat < 0x80) : c.toLower = c := by
  unfold Char.toLower
  split
  · rename_i capital
    have last : c.val ≤ 90 := capital.2
    exact absurd (Nat.lt_of_le_of_lt (UInt32.le_iff_toNat_le.mp last) (by decide)) high
  · rfl

theorem ascii_toLower (ascii : c.toNat < 0x80) :
    c.toLower.toNat < 0x80 ∧ c.toLower.toLower = c.toLower := by
  have each : ∀ n < 0x80, (Char.ofNat n).toLower.toNat < 0x80 ∧
      (Char.ofNat n).toLower.toLower = (Char.ofNat n).toLower := by decide
  have here := each c.toNat ascii
  rwa [Char.ofNat_toNat] at here

theorem toLower_toLower (c : Char) : c.toLower.toLower = c.toLower := by
  by_cases ascii : c.toNat < 0x80
  · exact (ascii_toLower ascii).2
  · rw [toLower_of_not_ascii ascii, toLower_of_not_ascii ascii]

/-- Only the character itself has one outside of ASCII as its lower-case form. -/
theorem eq_of_toLower_eq (high : ¬c.toNat < 0x80) (h : d.toLower = c) : d = c := by
  by_cases ascii : d.toNat < 0x80
  · exact absurd (h ▸ (ascii_toLower ascii).1) high
  · exact (toLower_of_not_ascii ascii).symm.trans h

theorem asciiLower_asciiLower (s : List Char) : asciiLower (asciiLower s) = asciiLower s := by
  unfold asciiLower
  rw [List.map_map]
  exact List.map_congr_left fun c _ => toLower_toLower c

end FieldQuery.Text

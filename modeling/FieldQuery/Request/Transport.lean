import FieldQuery.Text.Blank

/-!
# Transport of parameters

What may become of a parameter on its way: characters are percent-escaped, plus signs turn into
blanks, the two signs of the alphabet are exchanged for those that are safe in an address, and
blanks are put around the whole.
-/
namespace FieldQuery.Parameter

def IsHexDigit (value : Nat) (c : Char) : Prop :=
  value < 16 ∧ (c = value.digitChar ∨ c = value.digitChar.toUpper)

/-- What a character may turn into on its way. -/
inductive Carried : Char → List Char → Prop where
  | same (c : Char) : Carried c [c]
  | escaped {c high low : Char} (h : IsHexDigit (c.toNat / 16) high)
      (l : IsHexDigit (c.toNat % 16) low) : Carried c ['%', high, low]
  | blank : Carried '+' [' ']

inductive CarriedText : List Char → List Char → Prop where
  | nil : CarriedText [] []
  | cons {c : Char} {s cs rest : List Char} (h : Carried c cs) (r : CarriedText s rest) :
      CarriedText (c :: s) (cs ++ rest)

/-- The signs that are safe in an address. -/
def safeSign (c : Char) : Char := if c = '+' then '-' else if c = '/' then '_' else c

/-- Whether a parameter may arrive as a text. -/
def Arrives (sent received : List Char) : Prop :=
  ∃ signs ∈ [sent, sent.map safeSign], ∃ body before after,
    CarriedText signs body ∧ received = before ++ body ++ after ∧
      (∀ c ∈ before ++ after, Text.isBlank c = true)

end FieldQuery.Parameter

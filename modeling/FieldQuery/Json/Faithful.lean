import FieldQuery.Json.Reader
import FieldQuery.Json.Writer

/-!
# Values that text is faithful to

Which values can be told from their text. Whole numbers have to fit 64 bits and an object has each
key once, as in every value that was read. Another number is scaled by the reader in floating point,
so one with many digits may come back as its neighbour; it has to be small and whole, or else to
read back.
-/
namespace FieldQuery

/-- Whether the text of a numeral is read as the numeral. -/
def Numeral.ReadsBack (n : Numeral) : Prop := Json.parse (Json.num n).text = .ok (.num n)

/-- Whether a number is whole and its tenfold, which the reader forms, has a code of its own: up to
`2 ^ 54` every even number has one. -/
def Number.isSmallWhole (x : Number) : Bool := x.toInt?.any fun n => 10 * n.natAbs ≤ Nat.pow 2 54

def Numeral.Faithful : Numeral → Prop
  | .int n => -(intLimit : Int) ≤ n ∧ n < wordLimit
  | .real x => x.isSmallWhole = true ∨ (Numeral.real x).ReadsBack

namespace Json

/-- Values that text is faithful to. -/
inductive Faithful : Json → Prop where
  | null : Faithful .null
  | bool (b : Bool) : Faithful (.bool b)
  | num {n : Numeral} (h : n.Faithful) : Faithful (.num n)
  | str (s : String) : Faithful (.str s)
  | arr {items : List Json} (h : ∀ j ∈ items, Faithful j) : Faithful (.arr items)
  | obj {members : List (String × Json)} (distinct : (members.map (·.1)).Nodup)
      (h : ∀ p ∈ members, Faithful p.2) : Faithful (.obj members)

mutual

def nesting : Json → Nat
  | arr items => nestingItems items + 1
  | obj members => nestingMembers members + 1
  | _ => 0

def nestingItems : List Json → Nat
  | [] => 0
  | j :: rest => max (nesting j) (nestingItems rest)

def nestingMembers : List (String × Json) → Nat
  | [] => 0
  | (_, v) :: rest => max (nesting v) (nestingMembers rest)

end

end Json

end FieldQuery

/-!
# Runs of characters

A character property is held as ascending runs of code points, each with a step, so that
alternating alphabets stay short. Main statement: membership in a table is membership in one run.
-/
namespace FieldQuery.Text

/-- The code points `first`, `first + step`, … up to `last`. -/
structure Run where
  first : Nat
  last : Nat
  step : Nat
deriving DecidableEq, Repr

def Run.has (r : Run) (n : Nat) : Bool :=
  r.first ≤ n && n ≤ r.last && (n - r.first) % r.step == 0

def inRuns (rs : List Run) (n : Nat) : Bool := rs.any (·.has n)

/-- The distance of the first run that holds the code point. -/
def shiftOf (shifts : List (Run × Int)) (n : Nat) : Option Int :=
  (shifts.find? (·.1.has n)).map (·.2)

def shifted (c : Char) (d : Int) : Char := Char.ofNat ((c.toNat : Int) + d).toNat

end FieldQuery.Text

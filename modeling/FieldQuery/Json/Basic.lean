import FieldQuery.Number.Decimal

/-!
# JSON values

Values of the data format that requests and records arrive in. Whole numbers and other numbers are
told apart, and an object keeps its members in order of arrival.
-/
namespace FieldQuery

/-- A number as written: whole, or binary floating point. -/
inductive Numeral where
  | int (n : Int)
  | real (x : Number)
deriving DecidableEq, Repr

inductive Json where
  | null
  | bool (b : Bool)
  | num (n : Numeral)
  | str (s : String)
  | arr (items : List Json)
  | obj (members : List (String × Json))
deriving Repr, Inhabited

/-- The number that a numeral stands for, rounded if a whole number is too long. -/
def Numeral.toNumber : Numeral → Number
  | int n => Number.ofInt n
  | real x => x

def intText (n : Int) : String :=
  String.ofList (if n < 0 then '-' :: decimalDigits n.natAbs else decimalDigits n.natAbs)

def Numeral.text : Numeral → String
  | int n => intText n
  | real x => Number.jsonStyle.render x

namespace Json

/-- Writes a member: a key already there keeps its place and takes the new value. -/
def put (key : String) (value : Json) : List (String × Json) → List (String × Json)
  | [] => [(key, value)]
  | (k, v) :: rest => if k = key then (k, value) :: rest else (k, v) :: put key value rest

def get? (j : Json) (key : String) : Option Json :=
  match j with
  | obj members => (members.find? (·.1 = key)).map (·.2)
  | _ => none

def int (n : Int) : Json := num (.int n)

def nat (n : Nat) : Json := int n

end Json

end FieldQuery

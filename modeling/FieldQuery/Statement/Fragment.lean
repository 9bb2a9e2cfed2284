import FieldQuery.Statement.Value

/-!
# Fragments of statements

A fragment is text with places for values. Places are numbered from left to right when the text is
written out, so that values and placeholders cannot fall out of step. Raw fragments come from the
caller with `?` for every value.
-/
namespace FieldQuery

/-- The placeholder for the value at a position, counted from 1. -/
def Dialect.placeholder (d : Dialect) (n : Nat) : String :=
  match d with
  | sqlite => "?"
  | postgres => String.ofList ('$' :: decimalDigits n)

inductive Piece where
  | text (s : String)
  | place (v : SqlValue)
deriving DecidableEq, Repr

abbrev Fragment := List Piece

namespace Fragment

def ofText (s : String) : Fragment := [.text s]

instance : Coe String Fragment := ⟨ofText⟩

def values : Fragment → List SqlValue
  | [] => []
  | .text _ :: rest => values rest
  | .place v :: rest => v :: values rest

/-- The text of a fragment, `bound` values having been placed before it. -/
def write (d : Dialect) (bound : Nat) : Fragment → String
  | [] => ""
  | .text s :: rest => s ++ write d bound rest
  | .place _ :: rest => d.placeholder (bound + 1) ++ write d (bound + 1) rest

def join (sep : String) : List Fragment → Fragment
  | [] => []
  | [f] => f
  | f :: rest => f ++ ofText sep ++ join sep rest

def enclosed (f : Fragment) : Fragment := ofText "(" ++ f ++ ofText ")"

@[simp] theorem values_append (f g : Fragment) : values (f ++ g) = values f ++ values g := by
  induction f with
  | nil => rfl
  | cons p rest ih => cases p <;> simp [values, ih]

/-- What stands after a fragment is numbered on from its values. -/
theorem write_append (d : Dialect) (n : Nat) (f g : Fragment) :
    write d n (f ++ g) = write d n f ++ write d (n + (values f).length) g := by
  induction f generalizing n with
  | nil => simp [write, values]
  | cons p rest ih =>
    cases p with
    | text s => simp [write, values, ih, String.append_assoc]
    | place v => simp [write, values, ih, String.append_assoc, Nat.add_assoc, Nat.add_comm 1]

@[simp] theorem values_join (sep : String) (fs : List Fragment) :
    (join sep fs).values = fs.flatMap values := by
  induction fs with
  | nil => rfl
  | cons f rest ih =>
    cases rest with
    | nil => simp [join]
    | cons g rest => simp [join, ofText, values, ih]

end Fragment

/-- A statement fragment as the caller wrote it, with the values for its placeholders. -/
structure RawQuery where
  sql : String
  params : List SqlValue
deriving DecidableEq, Repr

namespace RawQuery

/-- Cuts raw text at the placeholders outside of literals. The fragment goes as far as values
last. -/
def cut : Bool → List Char → List SqlValue → Fragment × Option ParameterFault
  | _, [], params => ([], if params.isEmpty then none else some .tooManyParameters)
  | inLiteral, c :: rest, params =>
    if c = '\'' then
      let (f, fault) := cut (!inLiteral) rest params
      (.text "'" :: f, fault)
    else if c = '?' && !inLiteral then
      match params with
      | [] => ([], some .tooManyPlaceholders)
      | v :: params =>
        let (f, fault) := cut inLiteral rest params
        (.place v :: f, fault)
    else
      let (f, fault) := cut inLiteral rest params
      (.text (String.singleton c) :: f, fault)

/-- The fragment, and the fault if values and placeholders differ in number. -/
def pieces (q : RawQuery) : Fragment × Option ParameterFault := cut false q.sql.toList q.params

/-- The fragment of a query whose values and placeholders agree. -/
def fragment (q : RawQuery) : Answer Fragment :=
  match q.pieces with
  | (f, none) => .ok f
  | (_, some fault) => .error (.parameter "raw query" fault)

end RawQuery

end FieldQuery

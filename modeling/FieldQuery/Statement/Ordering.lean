import FieldQuery.Statement.Formula

/-!
# Orders as a database reads them

One item of an order is something to compare, or a formula in parentheses, and a direction. How an
item puts rows is a matter of what it was read as. Where null stands among the values is left open,
as databases do not agree on it.
-/
namespace FieldQuery

inductive SortSubject where
  | scalar (a : Scalar)
  | formula (p : Formula)
deriving DecidableEq, Repr

structure SortItem where
  subject : SortSubject
  direction : Direction
deriving DecidableEq, Repr

/-- Rows that do not meet a formula come before those that do. -/
def SortSubject.value (r : SqlRules) (row : TableRow) : SortSubject → Datum
  | scalar a => a.value r row
  | formula p =>
    match p.truth r row with
    | some met => .int (if met then 1 else 0)
    | none => .null

/-- An order of stored values in which null may stand on either side. -/
structure PlacesNull (order : Datum → Datum → Ordering) : Prop where
  present : ∀ {x y : Datum}, x ≠ .null → y ≠ .null → order x y = x.sortCompare y
  null : order .null .null = .eq

theorem placesNull_sortCompare : PlacesNull Datum.sortCompare where
  present _ _ := rfl
  null := rfl

/-- The order of two rows by several items, each by an order of values. -/
def SortItem.compareRows (order : Datum → Datum → Ordering) (r : SqlRules) (a b : TableRow) :
    List SortItem → Ordering
  | [] => .eq
  | i :: rest =>
    let o := order (i.subject.value r a) (i.subject.value r b)
    (match i.direction with
      | .asc => o
      | .desc => o.swap).then (compareRows order r a b rest)

namespace Statement

variable (d : Dialect) (params : List SqlValue)

def sortSubject (ls : List Lexeme) : Option (SortSubject × List Lexeme) :=
  (part d params (formula d params ls.length) ls).map (fun (p, rest) => (.formula p, rest)) <|>
  (operand d params ls).map fun (a, rest) => (.scalar a, rest)

def sortDirection : List Lexeme → Option Direction
  | [] => some .asc
  | [l] => if l.isKeyword "ASC" then some .asc else if l.isKeyword "DESC" then some .desc else none
  | _ => none

end Statement

/-- The item that a text is, placed in a statement after so many bound values. -/
def SortItem.read (d : Dialect) (bound : Nat) (params : List SqlValue) (text : String) :
    Option SortItem := do
  let ls ← Statement.lexemes text.toList
  let (subject, rest) ← Statement.sortSubject d params (Statement.numbered d bound ls)
  let direction ← Statement.sortDirection rest
  some ⟨subject, direction⟩

example : SortItem.read .postgres 0 [] "(\"t\".\"x\" IS NULL) DESC" =
    some ⟨.formula (.isNull (.column ⟨"t", "x"⟩) false), .desc⟩ := by decide +kernel

end FieldQuery

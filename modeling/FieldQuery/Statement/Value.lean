import FieldQuery.Field.Kind
import FieldQuery.Filter.Predicate
import FieldQuery.Statement.Identifier

/-!
# Values bound to statements

Values never stand in the text of a statement; they are bound to its placeholders.
-/
namespace FieldQuery

inductive SqlValue where
  | null
  | int (n : Int)
  | number (x : Number)
  | text (s : String)
  | bool (b : Bool)
  | instant (m : Moment)
deriving DecidableEq, Repr

namespace SqlValue

/-- A number is bound as an integer if it is one and its neighbours are too. -/
def ofNumber (x : Number) : SqlValue :=
  match x.toInt? with
  | some n => if n.natAbs < 2 * Number.binade then int n else number x
  | none => number x

/-- Arrays and objects cannot be bound. -/
def ofJson? : Json → Option SqlValue
  | .null => some null
  | .bool b => some (bool b)
  | .num (.int n) => some (if n < intLimit then int n else number (Number.ofInt n))
  | .num (.real x) => some (number x)
  | .str s => some (text s)
  | .arr _ => none
  | .obj _ => none

/-- The value of an operand. SQLite keeps instants as text, so they are bound as text with
milliseconds there. -/
def ofOperand (d : Dialect) : Operand → SqlValue
  | .number x => ofNumber x
  | .text s => text s
  | .bool b => bool b
  | .instant m =>
    match d with
    | .sqlite => text (String.ofList m.milliText)
    | .postgres => instant m
  | .clock t => text (String.ofList t.shortText)

def display : SqlValue → String
  | null => "NULL"
  | int n => intText n
  | number x => x.display
  | text s => Statement.literal s
  | bool true => "true"
  | bool false => "false"
  | instant m => Statement.literal (String.ofList m.zonedText)

end SqlValue

end FieldQuery

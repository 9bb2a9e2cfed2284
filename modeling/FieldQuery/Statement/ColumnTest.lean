import FieldQuery.Calendar.Reader
import FieldQuery.Statement.Fragment

/-!
# Tests on columns

Besides filters, rows can be looked up by plain tests `column operator value`, with operators as
statements write them.
-/
namespace FieldQuery

inductive ColumnOperator where
  | eq | ne | gt | gte | lt | lte
  | oneOf | noneOf | like | isNull | isNotNull
deriving DecidableEq, Repr

namespace ColumnOperator

def sign : ColumnOperator → String
  | eq => "="
  | ne => "<>"
  | gt => ">"
  | gte => ">="
  | lt => "<"
  | lte => "<="
  | oneOf => "IN"
  | noneOf => "NOT IN"
  | like => "LIKE"
  | isNull => "IS NULL"
  | isNotNull => "IS NOT NULL"

def all : List ColumnOperator :=
  [eq, ne, gt, gte, lt, lte, oneOf, noneOf, like, isNull, isNotNull]

/-- The operator of each spelling: its sign, and a second sign for two of them. -/
def spellings : List (String × ColumnOperator) :=
  all.map (fun op => (op.sign, op)) ++ [("==", eq), ("!=", ne)]

/-- A text in capitals with one space between words. -/
def normalized (s : String) : String :=
  String.ofList (Text.upper (List.intercalate [' '] (Text.words s.toList)))

/-- Reads an operator in any case and spacing. -/
def parse (s : String) : Answer ColumnOperator :=
  match spellings.find? (·.1 = normalized s) with
  | some (_, op) => .ok op
  | none => .error (.parameter "operator" (.unknownOperator s))

end ColumnOperator

/-- A test on the column that a path leads to. -/
structure ColumnFilter where
  field : String
  operator : ColumnOperator := .eq
  value : Json := .null
deriving Repr

/-- A test whose value is ready to be bound. -/
inductive ColumnTest where
  | null (negated : Bool)
  /-- Membership in no values at all is settled at once. -/
  | constant (outcome : Bool)
  | member (values : List SqlValue) (negated : Bool)
  | compare (op : ColumnOperator) (value : SqlValue)
deriving DecidableEq, Repr

/-- The value to bind for a column of a kind: a text for an instant is read as one. -/
def FieldKind.bind (k : FieldKind) (j : Json) : Answer SqlValue :=
  match k, j with
  | .timestamp, .str s =>
    match Timestamp.read? s.toList with
    | some t => .ok (.instant t.utc)
    | none => .ok (.text s)
  | _, j =>
    match SqlValue.ofJson? j with
    | some v => .ok v
    | none => .error (.parameter "value" (.notBindable j))

namespace ColumnTest

def items (op : ColumnOperator) : Json → Answer (List Json)
  | .arr items => .ok items
  | _ => .error (.parameter "value" (.listExpected op.sign))

/-- The test of an operator and a value on a column of a kind. -/
def ofOperator (k : FieldKind) (op : ColumnOperator) (value : Json) : Answer ColumnTest :=
  match op with
  | .isNull => .ok (null false)
  | .isNotNull => .ok (null true)
  | .oneOf | .noneOf => do
    let js ← items op value
    if js.isEmpty then .ok (constant (op == .noneOf))
    else
      let vs ← js.mapM k.bind
      .ok (member vs (op == .noneOf))
  | op => (compare op) <$> k.bind value

def fragment (column : String) : ColumnTest → Fragment
  | null negated => [.text (column ++ if negated then " IS NOT NULL" else " IS NULL")]
  | constant outcome => [.text (if outcome then "1 = 1" else "1 = 0")]
  | member values negated =>
    [.text (column ++ if negated then " NOT IN (" else " IN (")] ++
      Fragment.join ", " (values.map fun v => [.place v]) ++ [.text ")"]
  | compare op value => [.text s!"{column} {op.sign} ", .place value]

end ColumnTest

end FieldQuery

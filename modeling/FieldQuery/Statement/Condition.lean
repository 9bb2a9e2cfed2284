import FieldQuery.Statement.Fragment

/-!
# Conditions on rows

A predicate on a column becomes a condition on rows: a small tree of tests over expressions, which
is then written as a fragment. What a test means can be said of the tree, and how it is spelled in
either dialect is said here.
-/
namespace FieldQuery

/-- What is compared in a test. -/
inductive SqlExpr where
  /-- A column, as its text. -/
  | column (text : String)
  /-- Hours, minutes and seconds of a column. -/
  | timeOfDay (column : String)
  /-- An instant in the form in which instants are bound. -/
  | instant (column : String)
  | lower (e : SqlExpr)
  | bound (v : SqlValue)
deriving DecidableEq, Repr

inductive SqlTest where
  | compare (op : Comparison) (left right : SqlExpr)
  | between (e low high : SqlExpr)
  /-- Below the first bound or above the second. -/
  | outside (e low high : SqlExpr)
  | like (e : SqlExpr) (pattern : SqlValue) (negated : Bool)
  | isNull (e : SqlExpr)
  | isNotNull (e : SqlExpr)
  /-- Null or the empty text. -/
  | isBlank (e : SqlExpr)
  /-- Neither null nor the empty text. -/
  | isNotBlank (e : SqlExpr)
deriving DecidableEq, Repr

namespace SqlExpr

def fragment (d : Dialect) : SqlExpr → Fragment
  | column c => [.text c]
  | timeOfDay c =>
    match d with
    | .sqlite => [.text s!"time({c})"]
    | .postgres => [.text s!"to_char({c}, 'HH24:MI:SS')"]
  | instant c =>
    match d with
    | .sqlite => [.text s!"strftime('%Y-%m-%d %H:%M:%f', {c})"]
    | .postgres => [.text c]
  | lower e => [.text "LOWER("] ++ fragment d e ++ [.text ")"]
  | bound v => [.place v]

def folded (foldCase : Bool) (e : SqlExpr) : SqlExpr := if foldCase then lower e else e

end SqlExpr

def SqlTest.fragment (d : Dialect) : SqlTest → Fragment
  | compare op l r => l.fragment d ++ [.text s!" {op.sign} "] ++ r.fragment d
  | between e low high =>
    e.fragment d ++ [.text " BETWEEN "] ++ low.fragment d ++ [.text " AND "] ++ high.fragment d
  | outside e low high =>
    [.text "("] ++ e.fragment d ++ [.text " < "] ++ low.fragment d ++ [.text " OR "] ++
      e.fragment d ++ [.text " > "] ++ high.fragment d ++ [.text ")"]
  | like e pattern negated =>
    [.text "LOWER("] ++ e.fragment d ++ [.text (if negated then ") NOT LIKE " else ") LIKE "),
      .place pattern, .text " ESCAPE '\\'"]
  | isNull e => e.fragment d ++ [.text " IS NULL"]
  | isNotNull e => e.fragment d ++ [.text " IS NOT NULL"]
  | isBlank e =>
    [.text "("] ++ e.fragment d ++ [.text " IS NULL OR "] ++ e.fragment d ++ [.text " = '')"]
  | isNotBlank e =>
    [.text "("] ++ e.fragment d ++ [.text " IS NOT NULL AND "] ++ e.fragment d ++
      [.text " != '')"]

namespace Condition

/-- Whether instants are compared, so that the column must take their form. -/
def comparesInstants : Condition → Bool
  | compare _ (.instant _) _ => true
  | between (.instant _) _ _ => true
  | outside (.instant _) _ _ => true
  | _ => false

end Condition

def Placement.pattern (p : Placement) (needle : String) : String :=
  let escaped := Statement.escapePattern needle
  match p with
  | anywhere => "%" ++ escaped ++ "%"
  | atStart => escaped ++ "%"
  | atEnd => "%" ++ escaped

namespace Predicate

def expr (p : Predicate) (column : String) : SqlExpr :=
  match p.projection with
  | .timeOfDay => .timeOfDay column
  | .value => if p.condition.comparesInstants then .instant column else .column column

def test (d : Dialect) (p : Predicate) (column : String) : SqlTest :=
  let e := p.expr column
  let operand (o : Operand) (foldCase : Bool) : SqlExpr :=
    (SqlExpr.bound (.ofOperand d o)).folded foldCase
  match p.condition with
  | .compare op o foldCase => .compare op (e.folded foldCase) (operand o foldCase)
  | .between low high foldCase =>
    .between (e.folded foldCase) (operand low foldCase) (operand high foldCase)
  | .outside low high foldCase =>
    .outside (e.folded foldCase) (operand low foldCase) (operand high foldCase)
  | .like placement needle negated => .like e (.text (placement.pattern needle)) negated
  | .empty negated blankText =>
    match blankText, negated with
    | true, false => .isBlank e
    | true, true => .isNotBlank e
    | false, false => .isNull e
    | false, true => .isNotNull e

/-- A predicate on a column, written out. -/
def fragment (d : Dialect) (p : Predicate) (column : String) : Fragment :=
  (p.test d column).fragment d

end Predicate

end FieldQuery

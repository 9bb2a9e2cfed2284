import FieldQuery.Number.Reader
import FieldQuery.Statement.Lexeme
import FieldQuery.Statement.Meaning

/-!
# Conditions as a database reads them

The text of a condition is read as a formula: parentheses go first, then tests, then `AND`, and `OR`
comes last. Placeholders are replaced by the values that were bound to them, functions are known by
their names. What a formula says of a row is a matter of the formula alone, whatever wrote the text.
-/
namespace FieldQuery

inductive Scalar where
  | column (c : ColumnRef)
  | literal (s : String)
  | bound (v : SqlValue)
  | lower (a : Scalar)
  /-- Hours, minutes and seconds. -/
  | timeOfDay (a : Scalar)
  /-- An instant in the form in which instants are bound. -/
  | instant (a : Scalar)
deriving DecidableEq, Repr

inductive Formula where
  | compare (op : Comparison) (a b : Scalar)
  | between (a low high : Scalar)
  /-- A backslash takes away what the next character of the pattern means. -/
  | like (a pattern : Scalar) (negated : Bool)
  | isNull (a : Scalar) (negated : Bool)
  | and (p q : Formula)
  | or (p q : Formula)
deriving DecidableEq, Repr

def Scalar.value (r : SqlRules) (row : TableRow) : Scalar → Datum
  | column c => row c
  | literal s => .text s
  | bound v => .ofValue v
  | lower a => r.lower (a.value r row)
  | timeOfDay a => r.timeOfDay (a.value r row)
  | instant a => r.instant (a.value r row)

/-- Whether a row meets a formula, if that is known. -/
def Formula.truth (r : SqlRules) (row : TableRow) : Formula → Option Bool
  | compare op a b => SqlTest.compares op (a.value r row) (b.value r row)
  | between a low high =>
    Truth.and (SqlTest.compares .gte (a.value r row) (low.value r row))
      (SqlTest.compares .lte (a.value r row) (high.value r row))
  | like a pattern negated =>
    (r.like? (a.value r row) (pattern.value r row)).map (· != negated)
  | isNull a negated => some ((a.value r row = .null : Bool) != negated)
  | and p q => Truth.and (p.truth r row) (q.truth r row)
  | or p q => Truth.or (p.truth r row) (q.truth r row)

namespace Statement

/-- The placeholder that stands for the value at a position. -/
def numberedPlace (n : Nat) : Lexeme := .word ('$' :: decimalDigits n)

/-- Gives placeholders that have no number the numbers that follow on the last one. -/
def numbered (d : Dialect) (bound : Nat) : List Lexeme → List Lexeme
  | [] => []
  | l :: rest =>
    if d = .sqlite ∧ l = .sign '?' then numberedPlace (bound + 1) :: numbered d (bound + 1) rest
    else l :: numbered d bound rest

def valueAt (params : List SqlValue) : Nat → Option SqlValue
  | 0 => none
  | n + 1 => params[n]?

def keywords : List String → List Lexeme → Option (List Lexeme)
  | [], ls => some ls
  | _ :: _, [] => none
  | k :: ks, l :: rest => if l.isKeyword k then keywords ks rest else none

/-- What the functions make of their arguments. -/
def apply (d : Dialect) (f : Lexeme) (args : List Scalar) : Option Scalar :=
  match args with
  | [a] =>
    if f.isKeyword "LOWER" then some (.lower a)
    else if d = .sqlite ∧ f.isKeyword "TIME" = true then some (.timeOfDay a)
    else none
  | [a, b] =>
    if d = .sqlite ∧ f.isKeyword "STRFTIME" = true ∧ a = .literal "%Y-%m-%d %H:%M:%f" then
      some (.instant b)
    else if d = .postgres ∧ f.isKeyword "TO_CHAR" = true ∧ b = .literal "HH24:MI:SS" then
      some (.timeOfDay a)
    else none
  | _ => none

/-- Arguments with commas between them, up to the closing parenthesis. There are at most as many as
the first number says. -/
def arguments (item : List Lexeme → Option (Scalar × List Lexeme)) :
    Nat → List Lexeme → Option (List Scalar × List Lexeme)
  | 0, _ => none
  | n + 1, ls => do
    match ← item ls with
    | (a, .sign ')' :: rest) => some ([a], rest)
    | (a, .sign ',' :: rest) =>
      let (args, rest) ← arguments item n rest
      some (a :: args, rest)
    | _ => none

/-- Reads what is compared, with calls inside of calls down to some depth. -/
def scalar (d : Dialect) (params : List SqlValue) :
    Nat → List Lexeme → Option (Scalar × List Lexeme)
  | 0, _ => none
  | depth + 1, ls =>
    match ls with
    | .name s :: .sign '.' :: .name c :: rest =>
      some (.column ⟨String.ofList s, String.ofList c⟩, rest)
    | .literal s :: rest => some (.literal (String.ofList s), rest)
    | .word ('$' :: digits) :: rest =>
      (valueAt params (digitsValue digits)).map fun v => (.bound v, rest)
    | .word f :: .sign '(' :: rest => do
      let (args, rest) ← arguments (scalar d params depth) rest.length rest
      let a ← apply d (.word f) args
      some (a, rest)
    | _ => none

def comparison : List Lexeme → Option (Comparison × List Lexeme)
  | .sign '=' :: rest => some (.eq, rest)
  | .sign '!' :: .sign '=' :: rest => some (.ne, rest)
  | .sign '<' :: .sign '>' :: rest => some (.ne, rest)
  | .sign '<' :: .sign '=' :: rest => some (.lte, rest)
  | .sign '<' :: rest => some (.lt, rest)
  | .sign '>' :: .sign '=' :: rest => some (.gte, rest)
  | .sign '>' :: rest => some (.gt, rest)
  | _ => none

section Tests

variable (d : Dialect) (params : List SqlValue)

def operand (ls : List Lexeme) : Option (Scalar × List Lexeme) := scalar d params ls.length ls

/-- Reads what a pattern test goes on with. The escape character is the backslash. -/
def patternTest (a : Scalar) (negated : Bool) (ls : List Lexeme) :
    Option (Formula × List Lexeme) := do
  let (pattern, rest) ← operand d params ls
  let rest ← keywords ["ESCAPE"] rest
  match rest with
  | .literal ['\\'] :: rest => some (.like a pattern negated, rest)
  | _ => none

def rangeTest (a : Scalar) (ls : List Lexeme) : Option (Formula × List Lexeme) := do
  let (low, rest) ← operand d params ls
  let rest ← keywords ["AND"] rest
  let (high, rest) ← operand d params rest
  some (.between a low high, rest)

def comparisonTest (a : Scalar) (ls : List Lexeme) : Option (Formula × List Lexeme) := do
  let (op, rest) ← comparison ls
  let (b, rest) ← operand d params rest
  some (.compare op a b, rest)

def test (ls : List Lexeme) : Option (Formula × List Lexeme) := do
  let (a, rest) ← operand d params ls
  (keywords ["IS", "NULL"] rest).map (Formula.isNull a false, ·) <|>
  (keywords ["IS", "NOT", "NULL"] rest).map (Formula.isNull a true, ·) <|>
  (keywords ["BETWEEN"] rest >>= rangeTest d params a) <|>
  (keywords ["LIKE"] rest >>= patternTest d params a false) <|>
  (keywords ["NOT", "LIKE"] rest >>= patternTest d params a true) <|>
  comparisonTest d params a rest

/-- Reads parts with a keyword between them. There are at most as many as the number says. -/
def chain (k : String) (join : Formula → Formula → Formula)
    (part : List Lexeme → Option (Formula × List Lexeme)) :
    Nat → List Lexeme → Option (Formula × List Lexeme)
  | 0, _ => none
  | n + 1, ls => do
    let (p, rest) ← part ls
    match keywords [k] rest with
    | none => some (p, rest)
    | some rest =>
      let (q, rest) ← chain k join part n rest
      some (join p q, rest)

/-- Reads a test, or what stands in parentheses. -/
def part (inner : List Lexeme → Option (Formula × List Lexeme)) (ls : List Lexeme) :
    Option (Formula × List Lexeme) :=
  test d params ls <|>
  match ls with
  | .sign '(' :: rest => do
    match ← inner rest with
    | (p, .sign ')' :: rest) => some (p, rest)
    | _ => none
  | _ => none

def conjunction (inner : List Lexeme → Option (Formula × List Lexeme)) (ls : List Lexeme) :
    Option (Formula × List Lexeme) :=
  chain "AND" .and (part d params inner) ls.length ls

/-- Reads a formula, with parentheses inside of parentheses down to some depth. -/
def formula : Nat → List Lexeme → Option (Formula × List Lexeme)
  | 0, _ => none
  | depth + 1, ls => chain "OR" .or (conjunction d params (formula depth)) ls.length ls

end Tests

end Statement

/-- The formula that a text is, placed in a statement after so many bound values. -/
def Formula.read (d : Dialect) (bound : Nat) (params : List SqlValue) (text : String) :
    Option Formula := do
  let ls ← Statement.lexemes text.toList
  match Statement.formula d params (ls.length + 1) (Statement.numbered d bound ls) with
  | some (p, []) => some p
  | _ => none

/-- Parts that are joined by `AND` go together before those joined by `OR`. -/
example : Formula.read .sqlite 1 [.int 7, .text "a", .text "b"]
    "\"t\".\"x\" = ? OR (LOWER(\"t\".\"x\") > ? OR \"t\".\"x\" = '') AND \"t\".\"y\" IS NOT NULL" =
      some (.or (.compare .eq (.column ⟨"t", "x"⟩) (.bound (.text "a")))
        (.and (.or (.compare .gt (.lower (.column ⟨"t", "x"⟩)) (.bound (.text "b")))
          (.compare .eq (.column ⟨"t", "x"⟩) (.literal "")))
          (.isNull (.column ⟨"t", "y"⟩) true))) := by decide +kernel

end FieldQuery

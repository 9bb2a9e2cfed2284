import FieldQuery.Statement.Fragment
import FieldQuery.Text.Blank

/-!
# Reading statements

The text of a statement as a database reads it: names between double quotes, literals between
single quotes, words and signs. Inside of quotes a doubled quote stands for one. Texts with comments
are not read. Main statement: text is read piece by piece, the state after one piece being where the
next one begins.
-/
namespace FieldQuery.Statement

inductive Lexeme where
  | name (s : List Char)
  | literal (s : List Char)
  | word (s : List Char)
  | sign (c : Char)
deriving DecidableEq, Repr

/-- Where the reader is, with what it has read of the lexeme so far, backwards. -/
inductive LexState where
  | between
  /-- After a sign that begins a comment together with a second one. -/
  | sign (c : Char)
  | word (read : List Char)
  | name (read : List Char)
  /-- After a quote inside a name: it was the closing one unless a second one follows. -/
  | nameQuote (read : List Char)
  | literal (read : List Char)
  | literalQuote (read : List Char)
  | comment
deriving DecidableEq, Repr

/-- Letters beyond ASCII belong to words. -/
def isWordChar (c : Char) : Bool := c.isAlphanum || c == '_' || c == '$' || 0x80 ≤ c.toNat

/-- Whether two signs begin a comment. -/
def beginsComment (c d : Char) : Bool := (c == '-' && d == '-') || (c == '/' && d == '*')

namespace LexState

def begin (c : Char) : LexState × List Lexeme :=
  if c = '"' then (name [], [])
  else if c = '\'' then (literal [], [])
  else if isWordChar c then (word [c], [])
  else if Text.isBlank c then (between, [])
  else if c = '-' || c = '/' then (sign c, [.sign c])
  else (between, [.sign c])

/-- Ends the lexeme that was being read, unless it is still open. -/
def close : LexState → Option (List Lexeme)
  | between | sign _ => some []
  | word s => some [.word s.reverse]
  | nameQuote s => some [.name s.reverse]
  | literalQuote s => some [.literal s.reverse]
  | name _ | literal _ | comment => none

/-- Takes in one character, and gives the lexemes that end with it. -/
def take (state : LexState) (c : Char) : LexState × List Lexeme :=
  let next (ended : Lexeme) : LexState × List Lexeme := ((begin c).1, ended :: (begin c).2)
  match state with
  | between => begin c
  | sign d => if beginsComment d c then (comment, []) else begin c
  | word s => if isWordChar c then (word (c :: s), []) else next (.word s.reverse)
  | name s => if c = '"' then (nameQuote s, []) else (name (c :: s), [])
  | nameQuote s => if c = '"' then (name ('"' :: s), []) else next (.name s.reverse)
  | literal s => if c = '\'' then (literalQuote s, []) else (literal (c :: s), [])
  | literalQuote s => if c = '\'' then (literal ('\'' :: s), []) else next (.literal s.reverse)
  | comment => (comment, [])

def takeAll (state : LexState) : List Char → LexState × List Lexeme
  | [] => (state, [])
  | c :: rest =>
    let (state, ended) := state.take c
    let (last, more) := takeAll state rest
    (last, ended ++ more)

theorem takeAll_append (state : LexState) (s t : List Char) :
    state.takeAll (s ++ t) =
      (((state.takeAll s).1.takeAll t).1,
        (state.takeAll s).2 ++ ((state.takeAll s).1.takeAll t).2) := by
  induction s generalizing state with
  | nil => simp [takeAll]
  | cons c rest ih => simp [takeAll, ih, List.append_assoc]

end LexState

/-- The lexemes of a text; none if quotes are left open or there are comments. -/
def lexemes (text : List Char) : Option (List Lexeme) :=
  let (last, read) := LexState.between.takeAll text
  last.close.map (read ++ ·)

namespace Lexeme

/-- Whether a lexeme is a keyword, in any case of letters. -/
def isKeyword (k : String) : Lexeme → Bool
  | word s => Text.asciiUpper s == k.toList
  | _ => false

end Lexeme

/-- The lexemes with their depths of parentheses, if these are balanced. The parentheses themselves
count as outside. -/
def nesting : Nat → List Lexeme → Option (List (Nat × Lexeme))
  | 0, [] => some []
  | _ + 1, [] => none
  | depth, l :: rest =>
    if l = .sign '(' then (nesting (depth + 1) rest).map ((depth, l) :: ·)
    else if l = .sign ')' then
      match depth with
      | 0 => none
      | outer + 1 => (nesting outer rest).map ((outer, l) :: ·)
    else (nesting depth rest).map ((depth, l) :: ·)

/-- Reads lexemes as far as the first conjunct goes, and then the other conjuncts. An `AND` outside
of parentheses sets conjuncts apart, unless a `BETWEEN` before it still waits for its own. -/
def conjunctsFrom (waiting : Bool) : List (Nat × Lexeme) → List Lexeme × List (List Lexeme)
  | [] => ([], [])
  | (depth, l) :: rest =>
    if depth = 0 ∧ l.isKeyword "AND" = true ∧ waiting = false then
      let (first, others) := conjunctsFrom false rest
      ([], first :: others)
    else
      let waiting := if depth = 0 then l.isKeyword "BETWEEN" || (waiting && !l.isKeyword "AND")
        else waiting
      let (first, others) := conjunctsFrom waiting rest
      (l :: first, others)

/-- The conjuncts of a condition that has no disjunction outside of parentheses. -/
def splitConjuncts (nested : List (Nat × Lexeme)) : List (List Lexeme) :=
  (conjunctsFrom false nested).1 :: (conjunctsFrom false nested).2

/-- The rest of a name after its opening quote, and what follows the name. -/
def takeInner : List Char → Option (List Char × List Char)
  | [] => none
  | '"' :: '"' :: rest => (takeInner rest).map fun (s, after) => ('"' :: s, after)
  | '"' :: rest => some ([], rest)
  | c :: rest => (takeInner rest).map fun (s, after) => (c :: s, after)

/-- A quoted name is read back, whatever follows it except a quote. -/
theorem takeInner_doubleQuotes (s rest : List Char) (h : ∀ r, rest ≠ '"' :: r) :
    takeInner (doubleQuotes s ++ '"' :: rest) = some (s, rest) := by
  induction s with
  | nil =>
    cases rest with
    | nil => rfl
    | cons c rest =>
      have hc : c ≠ '"' := fun e => h rest (by rw [e])
      rw [doubleQuotes, List.nil_append, takeInner.eq_def]
      split <;> simp_all [eq_comm]
  | cons c s ih =>
    by_cases hc : c = '"'
    · subst hc
      simp [doubleQuotes, takeInner, ih]
    · rw [doubleQuotes, if_neg hc, List.cons_append, takeInner.eq_def]
      split <;> simp_all

/-- Reads a quoted name from the front of a text. -/
def takeName : List Char → Option (List Char × List Char)
  | '"' :: rest => takeInner rest
  | _ => none

/-- Reads two quoted names with a dot between them, and no third one, from the front of a text. -/
def takeQualified (text : List Char) : Option ((List Char × List Char) × List Char) :=
  match takeName text with
  | some (table, '.' :: rest) =>
    match takeName rest with
    | some (_, '.' :: _) => none
    | some (column, after) => some ((table, column), after)
    | none => none
  | _ => none

end FieldQuery.Statement

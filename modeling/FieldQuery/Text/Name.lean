import FieldQuery.Text.Letter

/-!
# Spellings of names

The same name is spelled `created_at` in a table, `createdAt` in a request and `CreatedAt` as the
name of a relation. `snake` and `pascal` turn one spelling into another.
-/
namespace FieldQuery.Text

/-- Whether a word begins at a capital, given the characters on either side of it: after a small
letter or a digit it does, after another capital only if a small letter follows. -/
def startsWord (before : Option Char) (after : Option Char) : Bool :=
  match before with
  | none => false
  | some p =>
    if p = '_' then false
    else if isLower p || p.isDigit then true
    else if isUpper p then (after.map isLower).getD false
    else false

def snakeFrom : Option Char → List Char → List Char
  | _, [] => []
  | before, c :: rest =>
    (if isUpper c then
      (if startsWord before rest.head? then ['_'] else []) ++ lowerChar c
    else [c]) ++ snakeFrom (some c) rest

/-- Small letters with words set apart by underscores. -/
def snake (s : String) : String := String.ofList (snakeFrom none s.toList)

/-- The pieces between the separators, empty ones included. -/
def pieces (sep : Char) : List Char → List (List Char)
  | [] => [[]]
  | c :: rest =>
    if c = sep then [] :: pieces sep rest
    else match pieces sep rest with
      | [] => [[c]]
      | p :: ps => (c :: p) :: ps

def capitalize : List Char → List Char
  | [] => []
  | c :: rest => upperChar c ++ rest

/-- Words joined without underscores, each with its first character raised. -/
def pascal (s : String) : String :=
  String.ofList (((pieces '_' s.toList).filter (!·.isEmpty)).flatMap capitalize)

end FieldQuery.Text

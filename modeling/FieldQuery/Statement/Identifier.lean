/-!
# Names and patterns in statements

Names of tables and columns are written between double quotes, inner quotes doubled. In a pattern
the two wildcards and the escape character itself are escaped.
-/
namespace FieldQuery.Statement

/-- The inside of a quoted name. -/
def doubleQuotes : List Char → List Char
  | [] => []
  | c :: rest => if c = '"' then '"' :: '"' :: doubleQuotes rest else c :: doubleQuotes rest

def quoteIdent (name : String) : String :=
  String.ofList ('"' :: (doubleQuotes name.toList ++ ['"']))

def qualify (table column : String) : String := quoteIdent table ++ "." ++ quoteIdent column

def escapePatternChar (c : Char) : List Char :=
  if c = '\\' || c = '%' || c = '_' then ['\\', c] else [c]

/-- A text as a pattern that matches just this text. -/
def escapePattern (s : String) : String := String.ofList (s.toList.flatMap escapePatternChar)

/-- A text as a literal, inner single quotes doubled. -/
def doubleApostrophes : List Char → List Char
  | [] => []
  | c :: rest =>
    if c = '\'' then '\'' :: '\'' :: doubleApostrophes rest else c :: doubleApostrophes rest

def literal (s : String) : String := String.ofList ('\'' :: (doubleApostrophes s.toList ++ ['\'']))

end FieldQuery.Statement

import FieldQuery.Json.Basic

/-!
# Writing JSON

The compact text has no blanks. The indented text puts every element and member on a line of its
own, two blanks deeper than what holds it; empty arrays and objects stay closed.
-/
namespace FieldQuery.Json

def hexDigit (n : Nat) : Char :=
  if n < 10 then Char.ofNat ('0'.toNat + n) else Char.ofNat ('a'.toNat + (n - 10))

/-- One character inside quotes: quotes, backslashes and controls are escaped. -/
def escapeChar (c : Char) : List Char :=
  if c = '"' then ['\\', '"']
  else if c = '\\' then ['\\', '\\']
  else if c = '\x08' then ['\\', 'b']
  else if c = '\x0c' then ['\\', 'f']
  else if c = '\n' then ['\\', 'n']
  else if c = '\r' then ['\\', 'r']
  else if c = '\t' then ['\\', 't']
  else if c.toNat < 0x20 then
    ['\\', 'u', '0', '0', hexDigit (c.toNat / 16), hexDigit (c.toNat % 16)]
  else [c]

def quote (s : String) : List Char := ['"'] ++ s.toList.flatMap escapeChar ++ ['"']

def scalarText : Json → List Char
  | bool true => "true".toList
  | bool false => "false".toList
  | num n => n.text.toList
  | str s => quote s
  | _ => "null".toList

mutual

def compact : Json → List Char
  | arr items => ['['] ++ compactItems items ++ [']']
  | obj members => ['\x7b'] ++ compactMembers members ++ ['\x7d']
  | j => scalarText j

def compactItems : List Json → List Char
  | [] => []
  | [j] => compact j
  | j :: rest => compact j ++ [','] ++ compactItems rest

def compactMembers : List (String × Json) → List Char
  | [] => []
  | [(k, v)] => quote k ++ [':'] ++ compact v
  | (k, v) :: rest => quote k ++ [':'] ++ compact v ++ [','] ++ compactMembers rest

end

def text (j : Json) : String := String.ofList j.compact

def newLine (depth : Nat) : List Char := '\n' :: List.replicate (2 * depth) ' '

mutual

/-- The text with one element or member a line, at a depth of nesting. -/
def indented (depth : Nat) : Json → List Char
  | arr [] => ['[', ']']
  | arr (j :: rest) =>
    ['['] ++ newLine (depth + 1) ++ indented (depth + 1) j ++ indentedItems (depth + 1) rest ++
      newLine depth ++ [']']
  | obj [] => ['\x7b', '\x7d']
  | obj ((k, v) :: rest) =>
    ['\x7b'] ++ newLine (depth + 1) ++ quote k ++ [':', ' '] ++ indented (depth + 1) v ++
      indentedMembers (depth + 1) rest ++ newLine depth ++ ['\x7d']
  | j => scalarText j

def indentedItems (depth : Nat) : List Json → List Char
  | [] => []
  | j :: rest => [','] ++ newLine depth ++ indented depth j ++ indentedItems depth rest

def indentedMembers (depth : Nat) : List (String × Json) → List Char
  | [] => []
  | (k, v) :: rest =>
    [','] ++ newLine depth ++ quote k ++ [':', ' '] ++ indented depth v ++
      indentedMembers depth rest

end

def pretty (j : Json) : String := String.ofList (j.indented 0)

end FieldQuery.Json

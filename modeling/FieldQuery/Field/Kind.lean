import FieldQuery.Text.Letter
import FieldQuery.Text.Search

/-!
# Kinds of fields

What a field of a record or a column of a table holds, and what becomes of a filter on a field that
is not known.
-/
namespace FieldQuery

inductive FieldKind where
  | integer | real | text | bool | timestamp | date | time | other
deriving DecidableEq, Repr

namespace FieldKind

def all : List FieldKind := [integer, real, text, bool, timestamp, date, time, other]

def name : FieldKind → String
  | integer => "integer"
  | real => "real"
  | text => "text"
  | bool => "bool"
  | timestamp => "timestamp"
  | date => "date"
  | time => "time"
  | other => "other"

/-- The spelling of a kind as a constructor. -/
def constructorName : FieldKind → String
  | integer => "Integer"
  | real => "Real"
  | text => "Text"
  | bool => "Bool"
  | timestamp => "Timestamp"
  | date => "Date"
  | time => "Time"
  | other => "Other"

/-- The kind of a column by its declared type. Types are recognised by parts of their names, in any
case; the first rule that applies decides. -/
def ofDeclaredType (declared : String) : FieldKind :=
  let upper := Text.asciiUpper declared.toList
  let has (part : String) : Bool := Text.occursIn part.toList upper
  if has "BOOL" then bool
  else if has "INT" then integer
  else if has "DATETIME" || has "TIMESTAMP" then timestamp
  else if upper = "DATE".toList then date
  else if upper = "TIME".toList then time
  else if has "CHAR" || has "CLOB" || has "TEXT" then text
  else if has "REAL" || has "FLOA" || has "DOUB" || has "NUMERIC" || has "DECIMAL" then real
  else other

end FieldKind

/-- What becomes of a filter or sort on a field that is not known. -/
inductive UnknownFields where
  /-- It is left out. -/
  | skip
  /-- The request is refused. -/
  | reject
deriving DecidableEq, Repr

inductive Dialect where
  | sqlite | postgres
deriving DecidableEq, Repr

inductive NameFault where
  | dialect (name : String)
  | unknownFields (name : String)
deriving DecidableEq, Repr

def NameFault.message : NameFault → String
  | dialect name => s!"Invalid dialect '{name}'. Valid options: sqlite, postgres"
  | unknownFields name => s!"Invalid unknown-field policy '{name}'. Valid options: skip, reject"

namespace UnknownFields

def name : UnknownFields → String
  | skip => "skip"
  | reject => "reject"

/-- Reads a name in any case. -/
def parse (s : String) : Except NameFault UnknownFields :=
  match Text.lowerString s with
  | "skip" => .ok skip
  | "reject" => .ok reject
  | _ => .error (.unknownFields s)

end UnknownFields

namespace Dialect

def name : Dialect → String
  | sqlite => "sqlite"
  | postgres => "postgres"

def parse (s : String) : Except NameFault Dialect :=
  match Text.lowerString s with
  | "sqlite" => .ok sqlite
  | "postgres" | "postgresql" => .ok postgres
  | _ => .error (.dialect s)

end Dialect

end FieldQuery

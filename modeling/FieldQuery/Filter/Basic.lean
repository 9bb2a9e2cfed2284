import FieldQuery.Json.Basic
import FieldQuery.Calendar.Reader
import FieldQuery.Text.Letter

/-!
# Filters

A filter is a list of terms under one logic, with sort fields and names of collections to fetch
along. A term compares a field, given by a dotted path, with a value in one of seventeen modes. How
the value is understood depends on its data type, which is declared or detected.
-/
namespace FieldQuery

inductive Mode where
  | equal | nequal
  | contains | ncontains | startsWith | endsWith
  | isEmpty | isNotEmpty
  | gt | gte | lt | lte
  | range | before | after | inside | outside
deriving DecidableEq, Repr

namespace Mode

def all : List Mode :=
  [equal, nequal, contains, ncontains, startsWith, endsWith, isEmpty, isNotEmpty, gt, gte, lt, lte,
    range, before, after, inside, outside]

def name : Mode → String
  | equal => "equal"
  | nequal => "nequal"
  | contains => "contains"
  | ncontains => "ncontains"
  | startsWith => "startswith"
  | endsWith => "endswith"
  | isEmpty => "isempty"
  | isNotEmpty => "isnotempty"
  | gt => "gt"
  | gte => "gte"
  | lt => "lt"
  | lte => "lte"
  | range => "range"
  | before => "before"
  | after => "after"
  | inside => "inside"
  | outside => "outside"

/-- Modes whose value is a pair of bounds. -/
def takesRange : Mode → Bool
  | range | inside | outside => true
  | _ => false

/-- Modes that ask whether a field is empty and ignore the value. -/
def asksEmptiness : Mode → Bool
  | isEmpty | isNotEmpty => true
  | _ => false

def searchesText : Mode → Bool
  | contains | ncontains | startsWith | endsWith => true
  | _ => false

end Mode

inductive DataType where
  | number | text | bool | date | time
deriving DecidableEq, Repr

namespace DataType

def name : DataType → String
  | number => "number"
  | text => "text"
  | bool => "bool"
  | date => "date"
  | time => "time"

def supports : DataType → Mode → Bool
  | text, _ => true
  | number, m => m.takesRange || m.asksEmptiness || m ∈ [Mode.equal, .nequal, .gt, .gte, .lt, .lte]
  | bool, m => m.asksEmptiness || m ∈ [Mode.equal, .nequal]
  | date, m => !m.searchesText
  | time, m => !m.searchesText

mutual

/-- The type that a value suggests: a text that reads as an instant is a date, one that reads as a
time of day is a time; a range or list is of the type of its first bound or element. -/
def detect : Json → DataType
  | .null => text
  | .bool _ => bool
  | .num _ => number
  | .str s =>
    if (Timestamp.read? s.toList).isSome then date
    else if (Clock.read? s.toList).isSome then time
    else text
  | .arr items => detectItems items
  | .obj members => detectMembers members

def detectItems : List Json → DataType
  | [] => text
  | j :: _ => detect j

def detectMembers : List (String × Json) → DataType
  | [] => text
  | (k, v) :: rest => if Text.eqIgnoreAsciiCase k "from" then detect v else detectMembers rest

end

end DataType

inductive Logic where
  | and | or
deriving DecidableEq, Repr

namespace Logic

/-- `or` in any case is a disjunction, anything else a conjunction. -/
def parse (s : String) : Logic :=
  if Text.asciiLower (Text.trim s.toList) = ['o', 'r'] then or else and

def name : Logic → String
  | and => "AND"
  | or => "OR"

end Logic

inductive Direction where
  | asc | desc
deriving DecidableEq, Repr

namespace Direction

/-- Exactly `desc` is descending. -/
def parse (s : String) : Direction := if s = "desc" then desc else asc

def name : Direction → String
  | asc => "asc"
  | desc => "desc"

def keyword : Direction → String
  | asc => "ASC"
  | desc => "DESC"

end Direction

structure Term where
  field : String
  value : Json := .null
  mode : Mode
  declared : Option DataType := none
deriving Repr

/-- The declared data type, or the one that the value suggests. -/
def Term.dataType (t : Term) : DataType := t.declared.getD (DataType.detect t.value)

structure SortField where
  field : String
  direction : Direction := .asc
deriving DecidableEq, Repr

structure Filter where
  terms : List Term := []
  sort : List SortField := []
  logic : Logic := .and
  preload : List String := []
deriving Repr, Inhabited

end FieldQuery

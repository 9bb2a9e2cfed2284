import FieldQuery.Filter.Basic
import FieldQuery.Json.Writer
import FieldQuery.Text.Utf8

/-!
# Faults

Why a request cannot be answered. Each fault is a cause; `QueryFault.message` gives its wording.
-/
namespace FieldQuery

inductive RangeFault where
  /-- Neither an object nor an array of two. -/
  | shape (value : Json)
  | missingFrom
  | missingTo
  /-- The bounds, as messages show them. -/
  | reversed (low high : String)
deriving Repr

def RangeFault.message : RangeFault → String
  | shape value => "expected \x7bfrom, to\x7d, got " ++ value.text
  | missingFrom => "missing 'from'"
  | missingTo => "missing 'to'"
  | reversed low high => s!"'from' ({low}) is after 'to' ({high})"

inductive IntegerFault where
  | empty | invalidDigit | tooLarge | tooSmall
deriving DecidableEq, Repr

def IntegerFault.message : IntegerFault → String
  | empty => "cannot parse integer from empty string"
  | invalidDigit => "invalid digit found in string"
  | tooLarge => "number too large to fit in target type"
  | tooSmall => "number too small to fit in target type"

inductive ParameterFault where
  | tooLarge (limit : Nat)
  | urlEncoding (fault : Text.Utf8.Fault)
  | notBase64
  | notJson
  | tooManyTerms (limit got : Nat)
  | tooManySorts (limit got : Nat)
  | notInteger (part : String) (fault : IntegerFault)
  | unknownOperator (operator : String)
  | listExpected (operator : String)
  | notBindable (value : Json)
  | tooManyPlaceholders
  | tooManyParameters
  | unknownTable (table : String)
deriving Repr

def ParameterFault.message : ParameterFault → String
  | tooLarge limit => s!"parameter too large (max {limit} bytes)"
  | urlEncoding fault => s!"invalid URL encoding: {fault.message}"
  | notBase64 => "invalid base64"
  | notJson => "invalid JSON"
  | tooManyTerms limit got => s!"too many filter terms (max {limit}, got {got})"
  | tooManySorts limit got => s!"too many sort fields (max {limit}, got {got})"
  | notInteger part fault => s!"'{part}': {fault.message}"
  | unknownOperator operator => s!"unsupported operator '{operator}'"
  | listExpected operator => s!"{operator} expects an array"
  | notBindable value => s!"cannot bind {value.text}"
  | tooManyPlaceholders => "more placeholders than parameters"
  | tooManyParameters => "more parameters than placeholders"
  | unknownTable table => s!"unknown table '{table}'"

/-- Why a request cannot be answered. -/
inductive QueryFault where
  /-- A path leads to no field of a record type or table. -/
  | unknownField (path scope : String)
  /-- A value, as shown, cannot be taken for a type. -/
  | notCoercible (value expected : String)
  | unsupported (mode : Mode) (dataType : DataType)
  | range (fault : RangeFault)
  | parameter (name : String) (fault : ParameterFault)
  /-- The database refused a statement. -/
  | execution (operation : String) (filters : Nat)
  /-- A fault of one item, counted from 0. -/
  | atItem (index : Nat) (source : QueryFault)
  | cancelled
  | exportFailed (reason : String)
  /-- A day begins or ends outside of the calendar. No caller is told, for the program stops. -/
  | calendarOverrun
deriving Repr

namespace QueryFault

def message : QueryFault → String
  | unknownField path scope => s!"Invalid field path '{path}' for {scope}"
  | notCoercible value expected => s!"Cannot coerce {value} to {expected}"
  | unsupported mode dataType =>
    s!"Mode '{mode.name}' is not supported for data type '{dataType.name}'"
  | range fault => s!"Invalid range value: {fault.message}"
  | parameter name fault => s!"{name} processing failed: {fault.message}"
  | execution operation filters => s!"{operation} failed with {filters} filter(s)"
  | atItem index source => s!"Item at index {index}: {source.message}"
  | cancelled => "Operation cancelled"
  | exportFailed reason => s!"Export failed: {reason}"
  | calendarOverrun => "calendar overrun"

/-- Whether the request is at fault, rather than the data or the database. -/
def isClientFault : QueryFault → Bool
  | unknownField _ _ | notCoercible _ _ | unsupported _ _ | range _ | parameter _ _ => true
  | atItem _ source => source.isClientFault
  | execution _ _ | cancelled | exportFailed _ | calendarOverrun => false

def isUnknownField : QueryFault → Bool
  | unknownField _ _ => true
  | _ => false

/-- A text between single quotes, for messages. -/
def shown (s : String) : String := s!"'{s}'"

end QueryFault

/-- What a request yields, or why it cannot be answered. -/
abbrev Answer := Except QueryFault

end FieldQuery

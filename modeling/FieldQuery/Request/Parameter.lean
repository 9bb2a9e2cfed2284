import FieldQuery.Filter.Fault
import FieldQuery.Filter.Wire
import FieldQuery.Text.Base64
import FieldQuery.Text.Blank
import FieldQuery.Text.Percent

/-!
# Parameters of a request

A filter or a list of sort fields travels as the base 64 form of its JSON text, with escapes and
blanks that transport puts in. Limits on size and on the number of terms are checked here, the size
before anything is decoded.
-/
namespace FieldQuery

structure Limits where
  /-- The most octets of a parameter. -/
  paramSize : Nat := 64 * 1024
  /-- The most terms of a filter, and the most sort fields. -/
  terms : Nat := 50
deriving DecidableEq, Repr

namespace Parameter

open Text

/-- The octets behind a parameter. -/
def octets (name : String) (text : List Char) : Answer (List UInt8) := do
  let unescaped ← match Percent.decode text with
    | .ok cs => .ok cs
    | .error fault => .error (.parameter name (.urlEncoding fault))
  let encoded := unescaped.map fun c => if c = ' ' then '+' else c
  match Base64.decode? .standard encoded <|> Base64.decode? .urlSafe encoded with
  | some bs => .ok bs
  | none => .error (.parameter name .notBase64)

/-- The value behind a parameter; none if it is blank. -/
def decode {α : Type} (read : Origin → Draft → Draft.Read α) (limits : Limits) (name : String)
    (param : String) : Answer (Option α) := do
  let text := trim param.toList
  if text.isEmpty then .ok none
  else if limits.paramSize < Utf8.size text then
    .error (.parameter name (.tooLarge limits.paramSize))
  else
    let bs ← octets name text
    match readDocument read bs with
    | .ok a => .ok (some a)
    | .error _ => .error (.parameter name .notJson)

/-- Accepts sort fields unless there are too many. -/
def checkSort (limits : Limits) (name : String) (sort : List SortField) :
    Answer (List SortField) :=
  if limits.terms < sort.length then
    .error (.parameter name (.tooManySorts limits.terms sort.length))
  else .ok sort

/-- Accepts a filter unless it has too many terms or sort fields. -/
def checkFilter (limits : Limits) (f : Filter) : Answer Filter :=
  if limits.terms < f.terms.length then
    .error (.parameter "filter" (.tooManyTerms limits.terms f.terms.length))
  else (checkSort limits "filter" f.sort).map fun _ => f

/-- The filter behind a parameter; a blank one is the filter that all meet. -/
def decodeFilter (limits : Limits) (param : String) : Answer Filter := do
  match ← decode Filter.read limits "filter" param with
  | none => .ok {}
  | some f => checkFilter limits f

def decodeSort (limits : Limits) (param : String) : Answer (List SortField) := do
  let sort ← decode (fun o => Draft.readList o SortField.read) limits "sort" param
  checkSort limits "sort" (sort.getD [])

/-- Reads the digits of an integer of 64 bits; the first digit that is none, or that makes the
number too long, is the fault. -/
def readDigits (negative : Bool) : Nat → List Char → Except IntegerFault Int
  | n, [] => .ok (if negative then -(n : Int) else n)
  | n, c :: rest =>
    if !c.isDigit then .error .invalidDigit
    else
      let n := 10 * n + digitValue c
      if negative then if intLimit < n then .error .tooSmall else readDigits negative n rest
      else if intLimit ≤ n then .error .tooLarge else readDigits negative n rest

/-- Reads an integer of 64 bits, with or without a sign. -/
def readInteger (s : List Char) : Except IntegerFault Int :=
  if s.isEmpty then .error .empty
  else match takeSign s with
    | (_, []) => .error .invalidDigit
    | (negative, ds) => readDigits negative 0 ds

/-- The page number behind a parameter; a blank one is zero. -/
def decodeNumber (name : String) (param : String) : Answer Int :=
  let part := trim param.toList
  if part.isEmpty then .ok 0
  else match readInteger part with
    | .ok n => .ok n
    | .error fault => .error (.parameter name (.notInteger (String.ofList part) fault))

def decodePageIndex (param : String) : Answer Int := decodeNumber "pageIndex" param

def decodePageSize (param : String) : Answer Int := decodeNumber "pageSize" param

def encode (j : Json) : String :=
  String.ofList (Base64.encode (Utf8.encode j.compact))

def encodeFilter (f : Filter) : String := encode f.toJson

def encodeSort (sort : List SortField) : String := encode (SortField.listJson sort)

end Parameter

end FieldQuery

import FieldQuery.Filter.Basic
import FieldQuery.Json.Reader

/-!
# Filters as JSON

A filter is written as an object with the members `fieldFilters`, `sortFields`, `logic` and, unless
empty, `preload`. Reading also accepts shorter names, arrays of members in order, and choices
written as objects; members with other names are ignored.
-/
namespace FieldQuery

open Draft

def Mode.choices : List (String × Mode) := Mode.all.map fun m => (m.name, m)

def DataType.choices : List (String × DataType) :=
  [("number", number), ("text", text), ("bool", bool), ("boolean", bool), ("date", date),
    ("time", time)]

namespace Term

/-- A term as read so far. -/
structure Partial where
  field : String := ""
  value : Json := .null
  mode : Option Mode := none
  declared : Option DataType := none

def shape : Shape Partial where
  title := "FieldFilter"
  start := {}
  members := [
    .of ["field"] .required (fun _ => readText) (fun x s => { s with field := x }),
    .of ["value"] .optional readAny (fun x s => { s with value := x }),
    .of ["mode"] .required (fun o => readChoice o Mode.choices)
      (fun x s => { s with mode := some x }),
    .of ["dataType"] .optional (fun o => readOptional (readChoice o DataType.choices))
      (fun x s => { s with declared := x })]

def read (o : Origin) (d : Draft) : Draft.Read Term := do
  let p ← shape.read o d
  match p.mode with
  | some mode => .ok ⟨p.field, p.value, mode, p.declared⟩
  | none => .error .malformed

def toJson (t : Term) : Json :=
  .obj <| [("field", .str t.field), ("value", t.value), ("mode", .str t.mode.name)] ++
    match t.declared with
    | some d => [("dataType", .str d.name)]
    | none => []

end Term

namespace SortField

def shape : Shape SortField where
  title := "SortField"
  start := ⟨"", .asc⟩
  members := [
    .of ["field"] .required (fun _ => readText) (fun x s => { s with field := x }),
    .of ["order"] .optional (fun _ => readOptional readText)
      (fun x s => { s with direction := (x.map Direction.parse).getD .asc })]

def read : Origin → Draft → Draft.Read SortField := shape.read

def toJson (s : SortField) : Json :=
  .obj [("field", .str s.field), ("order", .str s.direction.name)]

def listJson (sort : List SortField) : Json := .arr (sort.map toJson)

end SortField

namespace Filter

def shape : Shape Filter where
  title := "StructuredFilter"
  start := {}
  members := [
    .of ["fieldFilters", "filters"] .optional (fun o => readList o Term.read)
      (fun x s => { s with terms := x }),
    .of ["sortFields", "sort"] .optional (fun o => readList o SortField.read)
      (fun x s => { s with sort := x }),
    .of ["logic"] .optional (fun _ => readOptional readText)
      (fun x s => { s with logic := (x.map Logic.parse).getD .and }),
    .of ["preload"] .optional (fun o => readList o (fun _ => readText))
      (fun x s => { s with preload := x })]

def read : Origin → Draft → Draft.Read Filter := shape.read

def toJson (f : Filter) : Json :=
  .obj <| [("fieldFilters", .arr (f.terms.map Term.toJson)),
      ("sortFields", SortField.listJson f.sort), ("logic", .str f.logic.name)] ++
    if f.preload.isEmpty then [] else [("preload", .arr (f.preload.map .str))]

/-- Reads a filter from the octets of a JSON text. -/
def ofOctets (bs : List UInt8) : Draft.Read Filter := readDocument read bs

def ofText (s : String) : Draft.Read Filter := ofOctets (Text.Utf8.encode s.toList)

def ofJson (j : Json) : Draft.Read Filter := read .value (.ofJson j)

end Filter

end FieldQuery

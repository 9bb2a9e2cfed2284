import FieldQuery.Calendar.Writer
import FieldQuery.Field.Kind
import FieldQuery.Json.Basic

/-!
# Values of record fields

What a field of a record in memory holds, and the types of fields whose kind is known beforehand.
-/
namespace FieldQuery

inductive FieldValue where
  | null
  | int (n : Int)
  | uint (n : Nat)
  | float (x : Number)
  | bool (b : Bool)
  | text (s : String)
  | instant (m : Moment)
  | date (d : Day)
  | clock (t : Clock)
deriving DecidableEq, Repr

namespace FieldValue

def display : FieldValue → String
  | null => ""
  | int n => intText n
  | uint n => intText n
  | float x => x.display
  | bool true => "true"
  | bool false => "false"
  | text s => s
  | instant m => String.ofList m.zonedText
  | date d => String.ofList d.text
  | clock t => String.ofList t.text

/-- The kind that values of this form have; null is of every kind. -/
def kind? : FieldValue → Option FieldKind
  | null => none
  | int _ | uint _ => some .integer
  | float _ => some .real
  | bool _ => some .bool
  | text _ => some .text
  | instant _ => some .timestamp
  | date _ => some .date
  | clock _ => some .time

end FieldValue

class FieldType (α : Type) where
  kind : FieldKind
  nullable : Bool
  value : α → FieldValue

instance : FieldType Int := ⟨.integer, false, .int⟩

instance : FieldType Nat := ⟨.integer, false, .uint⟩

instance : FieldType Number := ⟨.real, false, .float⟩

instance : FieldType Bool := ⟨.bool, false, .bool⟩

instance : FieldType String := ⟨.text, false, .text⟩

/-- Instants without an offset are taken as they are. -/
instance : FieldType Moment := ⟨.timestamp, false, .instant⟩

instance : FieldType Timestamp := ⟨.timestamp, false, fun t => .instant t.utc⟩

instance : FieldType Day := ⟨.date, false, .date⟩

instance : FieldType Clock := ⟨.time, false, .clock⟩

/-- A value that may be missing. -/
instance {α : Type} [FieldType α] : FieldType (Option α) where
  kind := FieldType.kind α
  nullable := true
  value
    | some a => FieldType.value a
    | none => .null

end FieldQuery

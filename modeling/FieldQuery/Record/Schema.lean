import FieldQuery.Filter.Fault
import FieldQuery.Record.Value
import FieldQuery.Text.Name

/-!
# Records

A record type has fields, relations that lead to at most one record of another type, and embedded
records whose fields count as its own. Record types may refer to each other in circles, so relations
name their targets; embedded records are part of the record itself. A dotted path names relations
and, last, a field; finding it gives a descriptor that reads the field off a record.
-/
namespace FieldQuery

/-- An entry of a record type `R`, among types of records `Item`. Fields and relations may have a
second name for use outside. -/
inductive RecordEntry {Kind : Type} (Item : Kind → Type) (R : Type) where
  | field (name : String) (external : Option String) (kind : FieldKind) (nullable : Bool)
      (get : R → FieldValue)
  | relation (name : String) (external : Option String) (target : Kind)
      (get : R → Option (Item target))
  | embed (entries : List (RecordEntry Item R))

structure RecordModel where
  Kind : Type
  Item : Kind → Type
  /-- The name of a record type in messages. -/
  title : Kind → String
  entries : (k : Kind) → List (RecordEntry Item (Item k))

variable {Kind : Type} {Item : Kind → Type} {R S : Type}

namespace RecordEntry

def ofField {α : Type} [FieldType α] (name : String) (get : R → α) : RecordEntry Item R :=
  field name none (FieldType.kind α) (FieldType.nullable α) fun r => FieldType.value (get r)

/-- A relation without a second name. -/
def toOne (name : String) (target : Kind) (get : R → Option (Item target)) :
    RecordEntry Item R := relation name none target get

def renamed (external : String) : RecordEntry Item R → RecordEntry Item R
  | field name _ kind nullable get => field name (some external) kind nullable get
  | relation name _ target get => relation name (some external) target get
  | embed entries => embed entries

def name? : RecordEntry Item R → Option String
  | field name _ _ _ _ => some name
  | relation name _ _ _ => some name
  | embed _ => none

def external? : RecordEntry Item R → Option String
  | field _ external _ _ _ => external
  | relation _ external _ _ => external
  | embed _ => none

mutual

/-- An entry of a record that is part of another one. -/
def through (part : R → S) : RecordEntry Item S → RecordEntry Item R
  | field name external kind nullable get => field name external kind nullable (get ∘ part)
  | relation name external target get => relation name external target (get ∘ part)
  | embed entries => embed (throughEach part entries)

def throughEach (part : R → S) : List (RecordEntry Item S) → List (RecordEntry Item R)
  | [] => []
  | e :: rest => through part e :: throughEach part rest

end

/-- The entry that makes the fields of a part count as fields of the whole. -/
def ofPart (part : R → S) (entries : List (RecordEntry Item S)) : RecordEntry Item R :=
  embed (throughEach part entries)

end RecordEntry

/-- What reads a field that a path led to. -/
structure FieldDescriptor (R : Type) where
  /-- The position of the entry at each step. -/
  path : List Nat
  kind : FieldKind
  nullable : Bool
  get : R → FieldValue

namespace FieldDescriptor

def display (d : FieldDescriptor R) : String :=
  let path := ", ".intercalate (d.path.map fun (i : Nat) => intText i)
  "FieldDescriptor \x7b path: [" ++ path ++ "], kind: " ++ d.kind.constructorName ++
    ", nullable: " ++ (if d.nullable then "true" else "false") ++ " \x7d"

/-- The descriptor of a field of a related record, which may be missing. -/
def related (get : R → Option S) (d : FieldDescriptor S) : FieldDescriptor R where
  path := d.path
  kind := d.kind
  nullable := true
  get r :=
    match get r with
    | some s => d.get s
    | none => .null

/-- The descriptor with one more step before its path. -/
def under (i : Nat) (d : FieldDescriptor R) : FieldDescriptor R := { d with path := i :: d.path }

end FieldDescriptor

namespace RecordEntry

/-- The first entry that meets a condition, with its position. -/
def firstWhere (p : RecordEntry Item R → Bool) :
    Nat → List (RecordEntry Item R) → Option (Nat × RecordEntry Item R)
  | _, [] => none
  | i, e :: rest => if p e then some (i, e) else firstWhere p (i + 1) rest

/-- Whether a name is there and is the wanted one, in any case. -/
def isNamed (wanted : String) (name : Option String) : Bool :=
  (name.map (Text.eqIgnoreAsciiCase · wanted)).getD false

/-- The entry of a name. Second names come before first names. -/
def named (wanted : String) (entries : List (RecordEntry Item R)) :
    Option (Nat × RecordEntry Item R) :=
  firstWhere (fun e => isNamed wanted e.external?) 0 entries <|>
    firstWhere (fun e => isNamed wanted e.name?) 0 entries

/-- Searches embedded records, one after the other, for an entry of a name that can be used. Inside
an embedded record its own entries come before those embedded in it. -/
def searchParts (wanted : String) (use : RecordEntry Item R → Option (FieldDescriptor R)) :
    Nat → List (RecordEntry Item R) → Option (FieldDescriptor R)
  | _, [] => none
  | i, embed entries :: rest =>
    (match named wanted entries with
      | some (j, e) => (use e).map fun d => (d.under j).under i
      | none => (searchParts wanted use 0 entries).map (·.under i)) <|>
      searchParts wanted use (i + 1) rest
  | i, field _ _ _ _ _ :: rest => searchParts wanted use (i + 1) rest
  | i, relation _ _ _ _ :: rest => searchParts wanted use (i + 1) rest

/-- Searches entries for one of a name: those of the record itself, and only if there is none, those
of embedded records. -/
def search (wanted : String) (use : RecordEntry Item R → Option (FieldDescriptor R))
    (entries : List (RecordEntry Item R)) : Option (FieldDescriptor R) :=
  match named wanted entries with
  | some (i, e) => (use e).map (·.under i)
  | none => searchParts wanted use 0 entries

end RecordEntry

namespace RecordModel

variable (M : RecordModel)

/-- The field that the segments of a path lead to. A path ends at a field, and goes on only at a
relation. -/
def find : List String → (k : M.Kind) → Option (FieldDescriptor (M.Item k))
  | [], _ => none
  | head :: rest, k =>
    if head.isEmpty then none
    else RecordEntry.search head (fun e =>
      match e, rest with
      | .field _ _ kind nullable get, [] => some ⟨[], kind, nullable, get⟩
      | .relation _ _ target get, _ :: _ => (find rest target).map (.related get)
      | _, _ => none) (M.entries k)

/-- The field of a record type that a path leads to. -/
def locate (k : M.Kind) (path : String) : Answer (FieldDescriptor (M.Item k)) :=
  match M.find ((Text.pieces '.' path.toList).map String.ofList) k with
  | some d => .ok d
  | none => .error (.unknownField path (M.title k))

end RecordModel

end FieldQuery

import FieldQuery.Record.Schema

/-!
# Routes through records

A descriptor names the position of an entry at each step. A route follows such positions from a
record, step by step: into a related record where the entry is a relation, into a part where it is
embedded, and ends at a field. A related record that is missing makes everything beyond it null.
-/
namespace FieldQuery.RecordModel

variable (M : RecordModel)

/-- The value at the end of a route; none if the positions lead to no field. -/
def valueAt : List Nat → {R : Type} → List (RecordEntry M.Item R) → R → Option FieldValue
  | [], _, _, _ => none
  | i :: rest, _, entries, r =>
    match entries[i]?, rest with
    | some (.field _ _ _ _ get), [] => some (get r)
    | some (.relation _ _ target get), _ :: _ =>
      match get r with
      | some s => valueAt rest (M.entries target) s
      | none => some .null
    | some (.embed parts), _ :: _ => valueAt rest parts r
    | _, _ => none

/-- The kind of the field at the end of a route, and whether the field itself may hold null. -/
def leafAt : List Nat → {R : Type} → List (RecordEntry M.Item R) → Option (FieldKind × Bool)
  | [], _, _ => none
  | i :: rest, _, entries =>
    match entries[i]?, rest with
    | some (.field _ _ kind nullable _), [] => some (kind, nullable)
    | some (.relation _ _ target _), _ :: _ => leafAt rest (M.entries target)
    | some (.embed parts), _ :: _ => leafAt rest parts
    | _, _ => none

def crossesAt : List Nat → {R : Type} → List (RecordEntry M.Item R) → Bool
  | [], _, _ => false
  | i :: rest, _, entries =>
    match entries[i]? with
    | some (.relation _ _ _ _) => true
    | some (.embed parts) => crossesAt rest parts
    | _ => false

/-- Whether a relation on a route has no record. -/
def missingAt : List Nat → {R : Type} → List (RecordEntry M.Item R) → R → Bool
  | [], _, _, _ => false
  | i :: rest, _, entries, r =>
    match entries[i]? with
    | some (.relation _ _ target get) =>
      match get r with
      | some s => missingAt rest (M.entries target) s
      | none => true
    | some (.embed parts) => missingAt rest parts r
    | _ => false

/-- The resolution of the segments of a path among the entries of a record type, as a finite tree of
calls: a relation resolves the other segments at its target, and an embedded record all of them
among its own entries, the first that has a result deciding. -/
inductive Resolves : {R : Type} → List (RecordEntry M.Item R) → List String →
    Option (FieldDescriptor R) → Prop where
  | blank {R : Type} {entries : List (RecordEntry M.Item R)} {rest : List String} :
    Resolves entries ("" :: rest) none
  | field {R : Type} {entries : List (RecordEntry M.Item R)} {head : String} {i : Nat}
      {name : String} {external : Option String} {kind : FieldKind} {nullable : Bool}
      {get : R → FieldValue} (spelled : head ≠ "")
      (named : RecordEntry.named head entries = some (i, .field name external kind nullable get)) :
    Resolves entries [head] (some ⟨[i], kind, nullable, get⟩)
  | beyondField {R : Type} {entries : List (RecordEntry M.Item R)} {head next : String}
      {rest : List String} {i : Nat} {name : String} {external : Option String} {kind : FieldKind}
      {nullable : Bool} {get : R → FieldValue} (spelled : head ≠ "")
      (named : RecordEntry.named head entries = some (i, .field name external kind nullable get)) :
    Resolves entries (head :: next :: rest) none
  | relation {R : Type} {entries : List (RecordEntry M.Item R)} {head next : String}
      {rest : List String} {i : Nat} {name : String} {external : Option String} {target : M.Kind}
      {get : R → Option (M.Item target)} {found : Option (FieldDescriptor (M.Item target))}
      (spelled : head ≠ "")
      (named : RecordEntry.named head entries = some (i, .relation name external target get))
      (beyond : Resolves (M.entries target) (next :: rest) found) :
    Resolves entries (head :: next :: rest) (found.map fun d => (d.related get).under i)
  | atRelation {R : Type} {entries : List (RecordEntry M.Item R)} {head : String} {i : Nat}
      {name : String} {external : Option String} {target : M.Kind}
      {get : R → Option (M.Item target)} (spelled : head ≠ "")
      (named : RecordEntry.named head entries = some (i, .relation name external target get)) :
    Resolves entries [head] none
  | embedded {R : Type} {entries parts : List (RecordEntry M.Item R)} {head : String}
      {rest : List String} {i : Nat} {d : FieldDescriptor R} (spelled : head ≠ "")
      (unnamed : RecordEntry.named head entries = none) (there : entries[i]? = some (.embed parts))
      (found : Resolves parts (head :: rest) (some d))
      (before : ∀ (j : Nat) (others : List (RecordEntry M.Item R)), j < i →
        entries[j]? = some (.embed others) → Resolves others (head :: rest) none) :
    Resolves entries (head :: rest) (some (d.under i))
  | nowhere {R : Type} {entries : List (RecordEntry M.Item R)} {head : String}
      {rest : List String} (spelled : head ≠ "") (unnamed : RecordEntry.named head entries = none)
      (all : ∀ (j : Nat) (others : List (RecordEntry M.Item R)),
        entries[j]? = some (.embed others) → Resolves others (head :: rest) none) :
    Resolves entries (head :: rest) none

end FieldQuery.RecordModel

namespace FieldQuery.FieldType

/-- The types of fields that come with the library. -/
inductive BuiltIn : (α : Type) → [FieldType α] → Prop where
  | int : BuiltIn Int
  | nat : BuiltIn Nat
  | number : BuiltIn Number
  | bool : BuiltIn Bool
  | string : BuiltIn String
  | moment : BuiltIn Moment
  | timestamp : BuiltIn Timestamp
  | day : BuiltIn Day
  | clock : BuiltIn Clock
  | option {α : Type} [FieldType α] (inner : BuiltIn α) : BuiltIn (Option α)

end FieldQuery.FieldType

namespace FieldQuery.RecordEntry

/-- The entries that record types are made of: fields of built-in types, relations and embedded
records, and each of these under a second name. -/
inductive Registered {Kind : Type} {Item : Kind → Type} :
    {R : Type} → RecordEntry Item R → Prop where
  | field {R α : Type} [FieldType α] (builtIn : FieldType.BuiltIn α) (name : String)
      (get : R → α) : Registered (ofField name get)
  | relation {R : Type} (name : String) (target : Kind) (get : R → Option (Item target)) :
    Registered (toOne name target get)
  | renamed {R : Type} {e : RecordEntry Item R} (external : String) (plain : Registered e) :
    Registered (e.renamed external)
  | part {R S : Type} {entries : List (RecordEntry Item S)} (part : R → S)
      (all : ∀ e ∈ entries, Registered e) : Registered (ofPart part entries)

/-- Entries whose fields hold what they say: values of their kind, and null only where they may. -/
inductive Typed {Kind : Type} {Item : Kind → Type} {R : Type} : RecordEntry Item R → Prop where
  | field {name : String} {external : Option String} {kind : FieldKind} {nullable : Bool}
      {get : R → FieldValue} (missing : ∀ r, get r = .null → nullable = true)
      (held : ∀ r k, (get r).kind? = some k → k = kind) :
      Typed (.field name external kind nullable get)
  | relation {name : String} {external : Option String} {target : Kind}
      {get : R → Option (Item target)} : Typed (.relation name external target get)
  | embed {entries : List (RecordEntry Item R)} (all : ∀ e ∈ entries, Typed e) :
      Typed (.embed entries)

end FieldQuery.RecordEntry

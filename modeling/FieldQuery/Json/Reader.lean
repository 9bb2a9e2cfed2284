import FieldQuery.Json.Draft
import FieldQuery.Text.Quoted

/-!
# Making sense of drafts

Typed values are read from a draft from left to right, and the first fault met is the answer: the
text breaks the grammar, or it says something of the wrong kind. A `Shape` describes a structure
written as an object of named members or as an array of members in order.
-/
namespace FieldQuery

inductive ReadFault where
  /-- The text breaks the grammar. -/
  | malformed
  /-- The text is JSON, but not what was expected. -/
  | mismatch (message : String)
deriving DecidableEq, Repr

/-- Where a draft comes from. Text may nest only so deep, counted by `depth`, and a fault at the end
of an array or of a choice is one of grammar there; a finished value has no such limit. -/
structure Origin where
  isText : Bool
  depth : Nat
deriving DecidableEq, Repr

namespace Origin

/-- Text may nest this deep, less one. -/
def depthLimit : Nat := 128

def text : Origin := ⟨true, depthLimit⟩

def value : Origin := ⟨false, 0⟩

/-- The origin of what an array or object holds. -/
def inner (o : Origin) : Except ReadFault Origin :=
  if !o.isText then .ok o
  else if o.depth ≤ 1 then .error .malformed
  else .ok ⟨true, o.depth - 1⟩

end Origin

namespace Draft

abbrev Read := Except ReadFault

def describe : Draft → Read String
  | null => .ok "null"
  | bool true => .ok "boolean `true`"
  | bool false => .ok "boolean `false`"
  | num (some (.int n)) => .ok s!"integer `{intText n}`"
  | num (some (.real x)) => .ok s!"floating point `{Number.jsonStyle.render x}`"
  | str (some s) => .ok s!"string {Text.quoted s}"
  | arr _ _ => .ok "sequence"
  | obj _ _ => .ok "map"
  | _ => .error .malformed

def unexpected {α : Type} (d : Draft) (expected : String) : Read α := do
  let found ← d.describe
  .error (.mismatch s!"invalid type: {found}, expected {expected}")

def readText : Draft → Read String
  | str (some s) => .ok s
  | d => d.unexpected "a string"

/-- Reads a value, null standing for none. -/
def readOptional {α : Type} (read : Draft → Read α) : Draft → Read (Option α)
  | null => .ok none
  | d => (read d).map some

def readEach {α : Type} (read : Draft → Read α) (closed : Bool) : List Draft → Read (List α)
  | [] => if closed then .ok [] else .error .malformed
  | d :: rest => do
    let a ← read d
    let as ← readEach read closed rest
    .ok (a :: as)

def readList {α : Type} (o : Origin) (read : Origin → Draft → Read α) : Draft → Read (List α)
  | arr items closed => do
    let inner ← o.inner
    readEach (read inner) closed items
  | d => d.unexpected "a sequence"

def readNat (bound : Nat) (kind : String) : Draft → Read Nat
  | num (some (.int n)) =>
    if 0 ≤ n && n < bound then .ok n.toNat
    else .error (.mismatch s!"invalid value: integer `{intText n}`, expected {kind}")
  | d => d.unexpected kind

mutual

/-- Reads any value. A key that comes again keeps its place and takes the later value. -/
def readAny : Origin → Draft → Read Json
  | _, null => .ok .null
  | _, bool b => .ok (.bool b)
  | _, num (some n) => .ok (.num n)
  | _, str (some s) => .ok (.str s)
  | o, arr items closed => do
    let inner ← o.inner
    let js ← readAnyItems inner closed items
    .ok (.arr js)
  | o, obj members closed => do
    let inner ← o.inner
    let ms ← readAnyMembers inner closed members
    .ok (.obj (ms.foldl (fun done (k, v) => Json.put k v done) []))
  | _, num none => .error .malformed
  | _, str none => .error .malformed
  | _, hole => .error .malformed

def readAnyItems : Origin → Bool → List Draft → Read (List Json)
  | _, closed, [] => if closed then .ok [] else .error .malformed
  | o, closed, d :: rest => do
    let j ← readAny o d
    let js ← readAnyItems o closed rest
    .ok (j :: js)

def readAnyMembers : Origin → Bool → List (Draft × Draft) → Read (List (String × Json))
  | _, closed, [] => if closed then .ok [] else .error .malformed
  | o, closed, (k, v) :: rest => do
    match k with
    | str (some key) =>
      let j ← readAny o v
      let ms ← readAnyMembers o closed rest
      .ok ((key, j) :: ms)
    | _ => .error .malformed

end

def listed (names : List String) : String :=
  ", ".intercalate (names.map fun n => s!"`{n}`")

def chosen {α : Type} (choices : List (String × α)) (name : String) : Read α :=
  match choices.find? (·.1 = name) with
  | some (_, a) => .ok a
  | none =>
    let known := listed (choices.map (·.1))
    .error (.mismatch s!"unknown variant `{name}`, expected one of {known}")

/-- Reads one of several names, written as a string or as an object whose only key it is and whose
value is null. -/
def readChoice {α : Type} (o : Origin) (choices : List (String × α)) : Draft → Read α
  | str (some s) => chosen choices s
  | obj ((key, v) :: rest) closed => do
    if !o.isText && !rest.isEmpty then
      .error (.mismatch "invalid value: map, expected map with a single key")
    else
      let _ ← o.inner
      let name ← match key with
        | str (some s) => .ok s
        | k => k.unexpected "variant identifier"
      let a ← chosen choices name
      match v with
      | null => if rest.isEmpty && closed then .ok a else .error .malformed
      | v => v.unexpected "unit"
  | obj [] closed =>
    if o.isText || !closed then .error .malformed
    else .error (.mismatch "invalid value: map, expected map with a single key")
  | d => if o.isText then .error .malformed else d.unexpected "string or map"

end Draft

/-- When a member of a structure must be there. -/
inductive Presence where
  | required
  /-- In an array of members, but not in an object. -/
  | inArray
  | optional
deriving DecidableEq, Repr

/-- One member of a structure: its names, the first of which messages use, whether it must be
there, and how it is read into the structure. -/
structure Member (σ : Type) where
  names : List String
  presence : Presence
  store : Origin → Draft → σ → Draft.Read σ

/-- A member that is stored as it is read. -/
def Member.of {σ α : Type} (names : List String) (presence : Presence)
    (read : Origin → Draft → Draft.Read α) (put : α → σ → σ) : Member σ :=
  ⟨names, presence, fun o d s => (read o d).map (put · s)⟩

/-- A structure that is read member by member into a value that starts out with defaults. -/
structure Shape (σ : Type) where
  title : String
  members : List (Member σ)
  start : σ

namespace Shape

open Draft

variable {σ : Type}

def wrongLength (sh : Shape σ) (n : Nat) : ReadFault :=
  .mismatch s!"invalid length {n}, expected struct {sh.title} with {sh.members.length} elements"

/-- Reads members in order from an array. Members that the array lacks keep their defaults if they
may. -/
def readInOrder (sh : Shape σ) (o : Origin) (closed : Bool) :
    Nat → List (Member σ) → List Draft → σ → Read σ
  | total, [], [], s =>
    if closed then .ok s else if o.isText then .error .malformed else .error (sh.wrongLength total)
  | total, [], _ :: rest, _ =>
    if o.isText then .error .malformed
    else .error (.mismatch
      s!"invalid length {total + rest.length + 1}, expected fewer elements in array")
  | total, m :: ms, [], s =>
    if !closed then .error .malformed
    else if m.presence != .optional then .error (sh.wrongLength total)
    else readInOrder sh o closed (total + 1) ms [] s
  | total, m :: ms, d :: rest, s => do
    let s ← m.store o d s
    readInOrder sh o closed (total + 1) ms rest s

/-- Reads named members from an object; `seen` holds the first names of members read before. -/
def readNamed (sh : Shape σ) (o : Origin) (closed : Bool) :
    List String → List (Draft × Draft) → σ → Read (List String × σ)
  | seen, [], s => if closed then .ok (seen, s) else .error .malformed
  | seen, (k, v) :: rest, s => do
    match k with
    | .str (some key) =>
      match sh.members.find? (key ∈ ·.names) with
      | none =>
        if v.grammatical then readNamed sh o closed seen rest s else .error .malformed
      | some m =>
        let name := m.names.headD ""
        if name ∈ seen then .error (.mismatch s!"duplicate field `{name}`")
        else
          let s ← m.store o v s
          readNamed sh o closed (name :: seen) rest s
    | _ => .error .malformed

def missing (sh : Shape σ) (seen : List String) : Option String :=
  let lacks (m : Member σ) : Bool := m.presence == .required && !(m.names.headD "" ∈ seen)
  (sh.members.find? lacks).map (·.names.headD "")

def read (sh : Shape σ) (o : Origin) : Draft → Read σ
  | .arr items closed => do
    let inner ← o.inner
    sh.readInOrder inner closed 0 sh.members items sh.start
  | .obj members closed => do
    let inner ← o.inner
    let (seen, s) ← sh.readNamed inner closed [] members sh.start
    match sh.missing seen with
    | some name => .error (.mismatch s!"missing field `{name}`")
    | none => .ok s
  | d => d.unexpected s!"struct {sh.title}"

end Shape

/-- Reads a typed value from a text that must hold nothing else. -/
def readDocument {α : Type} (read : Origin → Draft → Draft.Read α) (bs : List UInt8) :
    Draft.Read α := do
  let (d, clean) := Draft.read bs
  let a ← read .text d
  if clean then .ok a else .error .malformed

def Json.parse (s : String) : Draft.Read Json :=
  readDocument Draft.readAny (Text.Utf8.encode s.toList)

end FieldQuery

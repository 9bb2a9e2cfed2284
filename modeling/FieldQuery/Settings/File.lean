import FieldQuery.Json.Reader
import FieldQuery.Settings.Basic

/-!
# Settings files

A settings file is a JSON object with up to four sections. Sections, and settings within them, may
be missing or null; other members are ignored.
-/
namespace FieldQuery

open Draft

namespace SettingsLayer

def readWord : Draft → Draft.Read Nat := readNat wordLimit "u64"

def dialects : List (String × Dialect) := [("sqlite", .sqlite), ("postgres", .postgres)]

def policies : List (String × UnknownFields) := [("skip", .skip), ("reject", .reject)]

/-- A setting that may be null. In a section written as an array it has to be there. -/
def setting {α : Type} (name : String) (read : Origin → Draft → Draft.Read α)
    (put : Option α → SettingsLayer → SettingsLayer) : Member SettingsLayer :=
  .of [name] .inArray (fun o => readOptional (read o)) put

def paginationMembers : List (Member SettingsLayer) :=
  [setting "page_size" (fun _ => readWord) fun x l => { l with pageSize := x }]

def statementMembers : List (Member SettingsLayer) :=
  [setting "dialect" (fun o => readChoice o dialects) fun x l => { l with dialect := x },
    setting "unknown_fields" (fun o => readChoice o policies)
      fun x l => { l with statementFields := x }]

def memoryMembers : List (Member SettingsLayer) :=
  [setting "batch_size" (fun _ => readWord) fun x l => { l with batchSize := x },
    setting "max_workers" (fun _ => readWord) fun x l => { l with maxWorkers := x },
    setting "unknown_fields" (fun o => readChoice o policies)
      fun x l => { l with recordFields := x }]

def decodeMembers : List (Member SettingsLayer) :=
  [setting "max_param_size" (fun _ => readWord) fun x l => { l with paramSize := x },
    setting "max_terms" (fun _ => readWord) fun x l => { l with terms := x }]

/-- A section, which adds its settings to those read before. -/
def sectionOf (name : String) (members : List (Member SettingsLayer)) : Member SettingsLayer where
  names := [name]
  presence := .optional
  store o d l :=
    match d with
    | .null => .ok l
    | d => ({ title := name, members := members, start := l } : Shape SettingsLayer).read o d

def shape : Shape SettingsLayer where
  title := "settings"
  members :=
    [sectionOf "pagination" paginationMembers, sectionOf "sql" statementMembers,
      sectionOf "memory" memoryMembers, sectionOf "decode" decodeMembers]
  start := {}

/-- Reads members that have no meaning. -/
def readOther (o : Origin) : List (Draft × Draft) → Draft.Read Unit
  | [] => .ok ()
  | (.str (some key), v) :: rest =>
    if shape.members.any (key ∈ ·.names) then readOther o rest
    else do
      let _ ← readAny o v
      readOther o rest
  | _ :: _ => .error .malformed

def read (o : Origin) : Draft → Draft.Read SettingsLayer
  | .obj members closed => do
    let inner ← o.inner
    readOther inner members
    shape.read o (.obj members closed)
  | d => d.unexpected "an object"

def ofText (s : String) : Draft.Read SettingsLayer :=
  readDocument read (Text.Utf8.encode s.toList)

end SettingsLayer

/-- What is found under a path. -/
inductive FoundFile where
  | missing
  | unreadable
  | text (s : String)
deriving DecidableEq, Repr

namespace Settings

/-- The settings file that is looked for where none is named. -/
def usualFile : String := "sq.json"

/-- The layer of a file that is there. -/
def layerOf (path : String) : FoundFile → Except SettingsFault SettingsLayer
  | .missing => .error (.fileMissing path)
  | .unreadable => .error (.fileUnreadable path)
  | .text s =>
    match SettingsLayer.ofText s with
    | .ok l => .ok l
    | .error _ => .error (.fileMalformed path)

/-- The layer of the named file, which must be there, or of the usual one if it is there. -/
def fileLayer (files : String → FoundFile) (path : Option String) :
    Except SettingsFault SettingsLayer :=
  match path with
  | some path => layerOf path (files path)
  | none =>
    match files usualFile with
    | .missing => .ok {}
    | found => layerOf usualFile found

def load (files : String → FoundFile) (path : Option String) (given : SettingsLayer) :
    Except SettingsFault Settings := do
  let file ← fileLayer files path
  (ofLayer (given.over file)).check

end Settings

end FieldQuery

import FieldQuery.Record.Schema
import FieldQuery.Table.Schema

/-!
# Resolution cache

Paths are resolved once and remembered. An entry is known by the family of its source, the name of
the source and the path; entries stay for good, and paths that lead nowhere are not remembered.
-/
namespace FieldQuery

/-- What kind of source a path is resolved against. -/
inductive SourceFamily (Kind : Type) where
  | table
  | record (k : Kind)
deriving DecidableEq, Repr

/-- What paths lead to in a family. -/
def SourceFamily.Target (M : RecordModel) : SourceFamily M.Kind → Type
  | table => ResolvedColumn
  | record k => FieldDescriptor (M.Item k)

/-- A table, or a record type. -/
inductive Source (M : RecordModel) where
  | table (schema : TableSchema)
  | record (k : M.Kind)

namespace Source

variable {M : RecordModel}

def family : Source M → SourceFamily M.Kind
  | table _ => .table
  | record k => .record k

/-- The name under which the paths of a source are remembered. -/
def scope : Source M → String
  | table schema => schema.table
  | record k => M.title k

/-- What a path leads to, without remembering anything. -/
def locate : (s : Source M) → String → Answer (s.family.Target M)
  | table schema, path => schema.resolve path
  | record k, path => M.locate k path

end Source

structure ResolutionKey (Kind : Type) where
  family : SourceFamily Kind
  scope : String
  path : String
deriving DecidableEq

structure ResolutionEntry (M : RecordModel) where
  key : ResolutionKey M.Kind
  target : key.family.Target M

structure ResolutionCache (M : RecordModel) where
  entries : List (ResolutionEntry M) := []

namespace ResolutionCache

variable {M : RecordModel} [DecidableEq M.Kind]

/-- What is remembered under a key. -/
def findIn (key : ResolutionKey M.Kind) :
    List (ResolutionEntry M) → Option (key.family.Target M)
  | [] => none
  | e :: rest => if h : e.key = key then some (h ▸ e.target) else findIn key rest

def keyOf (s : Source M) (path : String) : ResolutionKey M.Kind := ⟨s.family, s.scope, path⟩

def find? (c : ResolutionCache M) (s : Source M) (path : String) :
    Option (s.family.Target M) := findIn (keyOf s path) c.entries

/-- What a path leads to: what is remembered, or else what the source says. -/
def answer (c : ResolutionCache M) (s : Source M) (path : String) :
    Answer (s.family.Target M) :=
  match c.find? s path with
  | some t => .ok t
  | none => s.locate path

/-- Remembers what a path leads to, unless it leads nowhere or is remembered already. -/
def learn (c : ResolutionCache M) (s : Source M) (path : String) : ResolutionCache M :=
  match c.find? s path with
  | some _ => c
  | none =>
    match s.locate path with
    | .ok t => ⟨⟨keyOf s path, t⟩ :: c.entries⟩
    | .error _ => c

/-- Resolves a path and remembers it. -/
def resolve (c : ResolutionCache M) (s : Source M) (path : String) :
    Answer (s.family.Target M) × ResolutionCache M := (c.answer s path, c.learn s path)

def learnAll (c : ResolutionCache M) (s : Source M) (paths : List String) : ResolutionCache M :=
  paths.foldl (·.learn s) c

theorem find?_learn_self {c : ResolutionCache M} {s : Source M} {path : String}
    {t : s.family.Target M} (h : s.locate path = .ok t) (new : c.find? s path = none) :
    (c.learn s path).find? s path = some t := by
  unfold learn
  split
  · rename_i known
    rw [new] at known
    exact absurd known (by simp)
  · rw [h]
    exact dif_pos rfl

omit [DecidableEq M.Kind] in
def size (c : ResolutionCache M) : Nat := c.entries.length

omit [DecidableEq M.Kind] in
def display (c : ResolutionCache M) : String :=
  "SchemaCache \x7b entries: " ++ intText c.size ++ " \x7d"

end ResolutionCache

end FieldQuery

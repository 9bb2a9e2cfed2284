import FieldQuery.Command.Run
import FieldQuery.Table.CatalogWire

/-!
# The program

Collects the words, variables and files that a command needs, and shows its outcome. A database is
described by a JSON file that lists its tables.
-/
namespace FieldQuery.Main

open FieldQuery

def findFile (path : String) : IO FoundFile := do
  try
    let s ← IO.FS.readFile path
    return .text s
  catch
    | .noFileOrDirectory _ _ _ => return .missing
    | _ => return .unreadable

/-- The values of all variables that stand for settings. -/
def findVariables : IO (List (String × Option String)) :=
  (Invocation.settingNames.filterMap (·.variableName)).mapM fun name => do
    return (name, ← IO.getEnv name)

def databaseOf : Invocation.Variables → List String → Option String
  | vars, words =>
    match Invocation.read vars words with
    | .run ⟨.explain database _ _ _ _ _, _, _⟩ => some database
    | _ => none

def settingsFileOf (vars : Invocation.Variables) (words : List String) : String :=
  match Invocation.read vars words with
  | .run i => i.settingsFile.getD Settings.usualFile
  | _ => Settings.usualFile

def findDatabase : Option String → IO (Option Catalog)
  | none => return none
  | some path => do
    match ← findFile path with
    | .text s => return (Json.parse s).toOption.map Catalog.ofJson
    | _ => return none

end FieldQuery.Main

open FieldQuery FieldQuery.Main in
/-- Runs a command line. -/
def main (words : List String) : IO UInt32 := do
  let found ← findVariables
  let vars : Invocation.Variables := fun name => (found.find? (·.1 = name)).bind (·.2)
  let path := settingsFileOf vars words
  let file ← findFile path
  let database ← findDatabase (databaseOf vars words)
  let env : Surroundings :=
    { files := fun p => if p = path then file else .missing
      databases := fun _ => database
      machine := 4 }
  let outcome := Outcome.ofWords env vars words
  IO.print outcome.output
  match outcome.message with
  | some message => IO.eprintln s!"\nError: {message}\n"
  | none => pure ()
  return UInt32.ofNat outcome.code

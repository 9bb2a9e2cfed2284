import FieldQuery.Command.Arguments
import FieldQuery.Request.Basic
import FieldQuery.Settings.Basic

/-!
# Invocations

What the words of a command line and the variables of the environment ask for. Settings may be
given before or after the name of the command; the later place counts, and a variable counts where
no option is given. A value that cannot be understood makes the whole invocation void, even where
another one would have counted instead.
-/
namespace FieldQuery

inductive Task where
  | decode (param : String)
  | encode (json : String)
  | parse (query : String)
  | explain (database table filter sort : String) (pageIndex size : Int)
  | config
deriving DecidableEq, Repr

structure Invocation where
  task : Task
  /-- The settings file that was named. -/
  settingsFile : Option String
  given : SettingsLayer
deriving DecidableEq, Repr

/-- What a command line comes to. -/
inductive Reading where
  | run (i : Invocation)
  | version
  | help
  /-- The command line breaks the rules. -/
  | misuse
deriving DecidableEq, Repr

namespace Invocation

abbrev Variables := String → Option String

/-- A natural of 64 bits in digits, perhaps after a plus sign. -/
def readWord (s : String) : Option Nat :=
  let ds := match s.toList with
    | '+' :: ds => ds
    | ds => ds
  if ds.isEmpty || !ds.all (·.isDigit) then none
  else
    let n := digitsValue ds
    if n < wordLimit then some n else none

def readInteger (s : String) : Option Int := (Parameter.readInteger s.toList).toOption

/-- A path must not be empty. -/
def readPath (s : String) : Option String := if s.isEmpty then none else some s

def readDialect (s : String) : Option Dialect := (Dialect.parse s).toOption

def readUnknownFields (s : String) : Option UnknownFields := (UnknownFields.parse s).toOption

/-- A setting as an option and as a variable. -/
structure SettingName where
  option : String
  variableName : Option String
  letter : Option Char := none
  admits : Option (String → Bool)

def readable {α : Type} (read : String → Option α) : Option (String → Bool) :=
  some fun s => (read s).isSome

def settingNames : List SettingName :=
  [{ option := "config", variableName := some "SQ_CONFIG", letter := some 'c'
     admits := readable readPath },
    { option := "log-json", variableName := none, admits := none },
    { option := "page-size", variableName := some "SQ_PAGE_SIZE", admits := readable readWord },
    { option := "batch-size", variableName := some "SQ_BATCH_SIZE", admits := readable readWord },
    { option := "max-workers", variableName := some "SQ_MAX_WORKERS", admits := readable readWord },
    { option := "dialect", variableName := some "SQ_DIALECT", admits := readable readDialect },
    { option := "sql-unknown-fields", variableName := some "SQ_SQL_UNKNOWN_FIELDS"
      admits := readable readUnknownFields },
    { option := "memory-unknown-fields", variableName := some "SQ_MEMORY_UNKNOWN_FIELDS"
      admits := readable readUnknownFields }]

def SettingName.shape (s : SettingName) : OptionShape := ⟨s.option, s.letter, s.admits, false⟩

def helpShape : OptionShape := ⟨"help", some 'h', none, true⟩

def versionShape : OptionShape := ⟨"version", some 'V', none, true⟩

def sharedShapes : List OptionShape := settingNames.map (·.shape) ++ [helpShape]

/-- A value that may be left out; nothing if it is there but not understood. -/
def readMaybe {α : Type} (read : String → Option α) : Option String → Option (Option α)
  | none => some none
  | some s => (read s).map some

/-- The settings of one place, which `value?` gives by option name. -/
structure PlaceSettings where
  file : Option String
  layer : SettingsLayer

def placeSettings (value? : String → Option String) : Option PlaceSettings := do
  let file ← readMaybe readPath (value? "config")
  let pageSize ← readMaybe readWord (value? "page-size")
  let batchSize ← readMaybe readWord (value? "batch-size")
  let maxWorkers ← readMaybe readWord (value? "max-workers")
  let dialect ← readMaybe readDialect (value? "dialect")
  let statementFields ← readMaybe readUnknownFields (value? "sql-unknown-fields")
  let recordFields ← readMaybe readUnknownFields (value? "memory-unknown-fields")
  some {
    file := file
    layer := {
      pageSize := pageSize, dialect := dialect, statementFields := statementFields
      batchSize := batchSize, maxWorkers := maxWorkers, recordFields := recordFields } }

def variableFor (vars : Variables) (option : String) : Option String := do
  let s ← settingNames.find? (·.option = option)
  let name ← s.variableName
  vars name

/-- The settings of both places: options after the command, then options before it, then variables.
Each place is understood with the variables under its options. -/
def bothPlaces (vars : Variables) (before after : Arguments) : Option PlaceSettings := do
  let _ ← placeSettings fun o => before.value? o <|> variableFor vars o
  let _ ← placeSettings fun o => after.value? o <|> variableFor vars o
  placeSettings fun o => after.value? o <|> before.value? o <|> variableFor vars o

def isCommand (word : String) : Bool :=
  word ∈ ["decode", "encode", "parse", "explain", "config", "help"]

def explainShapes : List OptionShape :=
  [{ name := "database", admits := readable readPath }, { name := "table" }, { name := "sort" },
    { name := "page-index", admits := readable readInteger },
    { name := "size", admits := readable readInteger }]

/-- What may be said before the name of a command. -/
def leading : Grammar := ⟨sharedShapes ++ [versionShape], isCommand, 0⟩

/-- What may be said after the name of a command. -/
def following (command : String) : Grammar :=
  { shapes := sharedShapes ++ if command = "explain" then explainShapes else []
    places := if command = "config" then 0 else 1 }

def taskOf (command : String) (a : Arguments) : Option Task :=
  match command, a.positional with
  | "decode", [param] => some (.decode param)
  | "encode", [json] => some (.encode json)
  | "parse", [query] => some (.parse query)
  | "config", [] => some .config
  | "explain", positional => do
    let filter ← match positional with
      | [] => some ""
      | [filter] => some filter
      | _ => none
    let database ← (a.value? "database").bind readPath
    let table ← a.value? "table"
    let index ← readMaybe readInteger (a.value? "page-index")
    let size ← readMaybe readInteger (a.value? "size")
    some (.explain database table filter ((a.value? "sort").getD "") (index.getD 0) (size.getD 0))
  | _, _ => none

/-- Whether words after `help` name what help is wanted for; no command has commands of its own. -/
def isHelpTopic : List String → Bool
  | [] => true
  | [word] => isCommand word
  | _ => false

/-- Understands the words after a command, given those before it. -/
def readCommand (vars : Variables) (before : Arguments) (command : String) (rest : List String) :
    Reading :=
  match Arguments.read (following command) {} rest with
  | none => .misuse
  | some after =>
    if after.last.isSome then .help
    else match before.settle with
      | none => .misuse
      | some before =>
        match taskOf command after, bothPlaces vars before after with
        | some task, some given => .run ⟨task, given.file, given.layer⟩
        | _, _ => .misuse

def read (vars : Variables) (words : List String) : Reading :=
  match Arguments.read leading {} words with
  | none => .misuse
  | some before =>
    match before.last, before.command with
    | some option, _ => if option = versionShape.name then .version else .help
    | none, none => .misuse
    | none, some (command, rest) =>
      if command = "help" then if isHelpTopic rest then .help else .misuse
      else readCommand vars before command rest

end Invocation

end FieldQuery

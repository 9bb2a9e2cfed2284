import FieldQuery.Field.Kind
import FieldQuery.Page.Window
import FieldQuery.Request.Parameter

/-!
# Settings

Settings come in layers: what is given on the command line or in the environment lies over what the
settings file says, and that over the built-in settings. Each layer may leave anything open.
-/
namespace FieldQuery

/-- What one source says of the settings. -/
structure SettingsLayer where
  pageSize : Option Nat := none
  dialect : Option Dialect := none
  statementFields : Option UnknownFields := none
  batchSize : Option Nat := none
  maxWorkers : Option Nat := none
  recordFields : Option UnknownFields := none
  paramSize : Option Nat := none
  terms : Option Nat := none
deriving DecidableEq, Repr

def SettingsLayer.over (top bottom : SettingsLayer) : SettingsLayer where
  pageSize := top.pageSize <|> bottom.pageSize
  dialect := top.dialect <|> bottom.dialect
  statementFields := top.statementFields <|> bottom.statementFields
  batchSize := top.batchSize <|> bottom.batchSize
  maxWorkers := top.maxWorkers <|> bottom.maxWorkers
  recordFields := top.recordFields <|> bottom.recordFields
  paramSize := top.paramSize <|> bottom.paramSize
  terms := top.terms <|> bottom.terms

structure Settings where
  pageSize : Nat := PageWindow.usualSize
  dialect : Dialect := .sqlite
  /-- What becomes of unknown fields in statements. -/
  statementFields : UnknownFields := .skip
  batchSize : Nat := 1000
  /-- The most batches worked on at once; nothing stands for what the machine offers. -/
  maxWorkers : Option Nat := none
  /-- What becomes of unknown fields of records. -/
  recordFields : UnknownFields := .reject
  limits : Limits := {}
deriving DecidableEq, Repr

inductive SettingsFault where
  | fileMissing (path : String)
  | fileUnreadable (path : String)
  | fileMalformed (path : String)
  /-- A number that must not be zero. -/
  | zero (name : String)
deriving DecidableEq, Repr

def SettingsFault.message : SettingsFault → String
  | fileMissing path => s!"Config file not found: {path}"
  | fileUnreadable path => s!"Failed to read config file: {path}"
  | fileMalformed path => s!"Failed to parse config file: {path}"
  | zero name => s!"{name} must be at least 1"

namespace Settings

/-- The settings of a layer over the built-in ones. -/
def ofLayer (l : SettingsLayer) : Settings :=
  let usual : Settings := {}
  { pageSize := l.pageSize.getD usual.pageSize
    dialect := l.dialect.getD usual.dialect
    statementFields := l.statementFields.getD usual.statementFields
    batchSize := l.batchSize.getD usual.batchSize
    maxWorkers := l.maxWorkers
    recordFields := l.recordFields.getD usual.recordFields
    limits :=
      { paramSize := l.paramSize.getD usual.limits.paramSize
        terms := l.terms.getD usual.limits.terms } }

/-- Accepts settings unless a size or number of workers is zero. -/
def check (s : Settings) : Except SettingsFault Settings :=
  if s.pageSize = 0 then .error (.zero "pagination.page_size")
  else if s.batchSize = 0 then .error (.zero "memory.batch_size")
  else if s.maxWorkers = some 0 then .error (.zero "memory.max_workers")
  else .ok s

/-- Settings as JSON, given what stands for the workers of the machine. -/
def toJson (machine : Json) (s : Settings) : Json :=
  .obj [("default_page_size", .nat s.pageSize),
    ("sql", .obj [("dialect", .str s.dialect.name),
      ("unknown_fields", .str s.statementFields.name)]),
    ("memory", .obj [("batch_size", .nat s.batchSize),
      ("max_workers", (s.maxWorkers.map .nat).getD machine),
      ("unknown_fields", .str s.recordFields.name)]),
    ("decode", .obj [("max_param_size", .nat s.limits.paramSize),
      ("max_terms", .nat s.limits.terms)])]

end Settings

end FieldQuery

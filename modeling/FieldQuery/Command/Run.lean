import FieldQuery.Command.Invocation
import FieldQuery.Json.Writer
import FieldQuery.Settings.File
import FieldQuery.Statement.Planning
import FieldQuery.Table.Catalog

/-!
# Running commands

A command prints a decoded or encoded filter, the statements for a page of a table, or the settings.
Files and databases are what the surroundings say they are, so that an outcome is a value.
-/
namespace FieldQuery

structure Surroundings where
  files : String → FoundFile
  /-- The tables of a database, if there is one under the path. -/
  databases : String → Option Catalog
  /-- How many workers the machine offers. -/
  machine : Nat

structure Outcome where
  code : Nat
  output : String
  /-- What went wrong. -/
  message : Option String
deriving DecidableEq, Repr

inductive TaskFault where
  | settings (fault : SettingsFault)
  | query (fault : QueryFault)
  | filterMalformed
  | databaseMissing (path : String)

def TaskFault.message : TaskFault → String
  | settings fault => fault.message
  | query fault => fault.message
  | filterMalformed => "Failed to parse filter JSON"
  | databaseMissing path => s!"Failed to open database {path}"

namespace Task

/-- The values of a plan as comments, with the placeholders they are bound to. -/
def valueLines (d : Dialect) : Nat → List SqlValue → List String
  | _, [] => []
  | n, v :: rest =>
    s!"-- #{intText n} {d.placeholder n} = {v.display}" :: valueLines d (n + 1) rest

/-- The statements for a page of a plan, and the values they need. -/
def explanation (p : Plan) (w : PageWindow) : List String :=
  [p.countText ++ ";", p.selectText (some w) false ++ ";"] ++ valueLines p.dialect 1 p.params

def requestJson (r : Request) : Json :=
  .obj [("filter", r.filter.toJson), ("pageIndex", .int r.pageIndex),
    ("pageSize", .int r.pageSize)]

/-- Gives a fault its place among the faults of tasks. -/
def ask {α : Type} (a : Answer α) : Except TaskFault α := a.mapError .query

/-- The lines that a task prints. -/
def lines (env : Surroundings) (s : Settings) : Task → Except TaskFault (List String)
  | decode param => do
    let f ← ask (Parameter.decodeFilter s.limits param)
    .ok [f.toJson.pretty]
  | encode json =>
    match Filter.ofText json with
    | .ok f => .ok [Parameter.encodeFilter f]
    | .error _ => .error .filterMalformed
  | parse query => do
    let r ← ask (Request.parse s.limits query)
    .ok [(requestJson r).pretty]
  | explain database table filter sort index size => do
    let f ← ask (Parameter.decodeFilter s.limits filter)
    let sort ← ask (Parameter.decodeSort s.limits sort)
    let w := PageWindow.ofRequest s.pageSize index size
    match env.databases database with
    | none => .error (.databaseMissing database)
    | some catalog => do
      let schema ← ask (catalog.schema table)
      let p ← ask (schema.plan schema.resolve ⟨s.dialect, s.statementFields⟩ (f.sortedBy sort) {}
        none)
      .ok (explanation p w)
  | config => .ok [(s.toJson (.nat env.machine)).pretty]

end Task

namespace Invocation

def lines (env : Surroundings) (i : Invocation) : Except TaskFault (List String) := do
  let s ← (Settings.load env.files i.settingsFile i.given).mapError .settings
  i.task.lines env s

end Invocation

namespace Outcome

/-- The outcome of a task. A program that stops on the way ends with a code of its own. -/
def ofLines : Except TaskFault (List String) → Outcome
  | .ok lines => ⟨0, String.join (lines.map (· ++ "\n")), none⟩
  | .error (.query .calendarOverrun) => ⟨101, "", none⟩
  | .error fault => ⟨1, "", some fault.message⟩

def ofWords (env : Surroundings) (vars : Invocation.Variables) (words : List String) : Outcome :=
  match Invocation.read vars words with
  | .run i => ofLines (i.lines env)
  | .version => ⟨0, "sq 0.3.0\n", none⟩
  | .help => ⟨0, "", none⟩
  | .misuse => ⟨2, "", none⟩

end Outcome

end FieldQuery

import FieldQuery.Proofs.Agreement
import FieldQuery.Proofs.Remembering

/-!
# Histories of a cache

One cache serves calls against any mix of tables and record types. What is remembered of a table
goes by its name, so a call answers for its own source as long as no other table of that name came
first. Main statement: `answers_own_source_iff`.
-/
namespace FieldQuery

structure AnsweredCall (M : RecordModel) where
  source : Source M
  path : String
  answer : Answer (source.family.Target M)

namespace ResolutionCache

variable {M : RecordModel} [DecidableEq M.Kind] {c : ResolutionCache M}
  {history done : List (Source M × String)}

def answers : ResolutionCache M → List (Source M × String) → List (AnsweredCall M)
  | _, [] => []
  | c, (s, path) :: rest =>
    let (answer, c) := c.resolve s path
    ⟨s, path, answer⟩ :: answers c rest

/-- The column that a call leads to if it is about a path of a table of some name. -/
def columnFor (name path : String) : Source M × String → Option ResolvedColumn
  | (.table schema, other) =>
    if schema.table = name ∧ other = path then (schema.resolve path).toOption else none
  | (.record _, _) => none

/-- The column that a path first led to among the tables of a name. -/
def firstColumn (name path : String) (history : List (Source M × String)) :
    Option ResolvedColumn := history.findSome? (columnFor name path)

omit [DecidableEq M.Kind] in
theorem firstColumn_concat (name path : String) (call : Source M × String) :
    firstColumn name path (history ++ [call]) =
      (firstColumn name path history).or (columnFor name path call) := by
  unfold firstColumn
  rw [List.findSome?_append, List.findSome?_singleton]

/-- What is remembered of a path under the name of a table. -/
def columnOf (c : ResolutionCache M) (name path : String) : Option ResolvedColumn :=
  findIn (⟨.table, name, path⟩ : ResolutionKey M.Kind) c.entries

theorem columnOf_cons_self (name path : String) (column : ResolvedColumn)
    (entries : List (ResolutionEntry M)) :
    columnOf ⟨⟨⟨.table, name, path⟩, column⟩ :: entries⟩ name path = some column :=
  dif_pos rfl

/-- After a call the cache remembers of tables what it did before, or else what the call led to. -/
theorem columnOf_learn (s : Source M) (p name path : String) :
    (c.learn s p).columnOf name path =
      (c.columnOf name path).or (columnFor name path (s, p)) := by
  by_cases same : keyOf s p = (⟨.table, name, path⟩ : ResolutionKey M.Kind)
  · cases s with
    | record k => exact nomatch congrArg (·.family) same
    | table schema =>
      obtain rfl : schema.table = name := congrArg (·.scope) same
      obtain rfl : p = path := congrArg (·.path) same
      rw [columnFor, if_pos ⟨rfl, rfl⟩]
      have known : c.find? (.table schema) p = c.columnOf schema.table p := rfl
      have located : (Source.table (M := M) schema).locate p = schema.resolve p := rfl
      unfold learn
      rw [known]
      cases remembered : c.columnOf schema.table p with
      | some column => exact remembered
      | none =>
        rw [located, Option.none_or]
        cases schema.resolve p with
        | error fault => exact remembered
        | ok column => exact columnOf_cons_self _ _ _ _
  · have unaffected : columnFor name path (s, p) = none := by
      cases s with
      | record k => rfl
      | table schema =>
        refine if_neg fun ⟨scope, path⟩ => same ?_
        subst scope path
        rfl
    rw [unaffected, Option.or_none]
    exact findIn_learn_of_ne same

/-- What a cache holds after calls: of tables what each path first led to under their name, and of
record types nothing that is not so. -/
structure Remembers (c : ResolutionCache M) (done : List (Source M × String)) : Prop where
  tables : ∀ name path, c.columnOf name path = firstColumn name path done
  records : ∀ k path, c.answer (.record k) path = M.locate k path

theorem Remembers.empty : Remembers (M := M) {} [] := ⟨fun _ _ => rfl, fun _ _ => rfl⟩

theorem Remembers.learn (h : Remembers c done) (s : Source M) (p : String) :
    Remembers (c.learn s p) (done ++ [(s, p)]) := by
  constructor
  · intro name path
    rw [columnOf_learn, h.tables, firstColumn_concat]
  · intro k path
    refine (answer_learn fun key => ?_).trans (h.records k path)
    cases s with
    | table schema => exact nomatch congrArg (·.family) key
    | record j => exact eq_of_keyOf_record key

/-- A table is answered for by the first of its name. -/
theorem Remembers.answer_table (h : Remembers c done) (schema : TableSchema) (path : String) :
    c.answer (.table schema) path =
      match firstColumn schema.table path done with
      | some column => .ok column
      | none => schema.resolve path := by
  have known : c.find? (.table schema) path = c.columnOf schema.table path := rfl
  rw [← h.tables]
  unfold answer
  cases remembered : c.columnOf schema.table path with
  | some column => rw [known.trans remembered]
  | none =>
    rw [known.trans remembered]
    rfl

theorem Remembers.answer_iff (h : Remembers c done) (s : Source M) (path : String) :
    c.answer s path = s.locate path ↔ ∀ schema column, s = .table schema →
      firstColumn schema.table path done = some column → schema.resolve path = .ok column := by
  cases s with
  | record k =>
    constructor
    · intro _ schema column table
      cases table
    · exact fun _ => h.records k path
  | table schema =>
    rw [h.answer_table]
    have located : (Source.table (M := M) schema).locate path = schema.resolve path := rfl
    rw [located]
    constructor
    · rintro own _ column ⟨⟩ first
      rw [first] at own
      exact own.symm
    · intro same
      cases first : firstColumn schema.table path done with
      | none => rfl
      | some column => exact (same schema column rfl first).symm

/-- Each call of a history is answered from what the calls before it have left. -/
theorem getElem?_answers (h : Remembers c done) {i : Nat} {s : Source M} {path : String}
    (call : history[i]? = some (s, path)) :
    ∃ d : ResolutionCache M, Remembers d (done ++ history.take i) ∧
      (answers c history)[i]? = some ⟨s, path, d.answer s path⟩ := by
  induction history generalizing c done i with
  | nil => cases call
  | cons first rest ih =>
    obtain ⟨t, p⟩ := first
    cases i with
    | zero =>
      cases call
      exact ⟨c, by rwa [List.take_zero, List.append_nil], rfl⟩
    | succ i =>
      obtain ⟨d, holds, answered⟩ := ih (h.learn t p) call
      exact ⟨d, by rwa [List.append_assoc] at holds, answered⟩

/-- A call is answered with what its own source says of the path, just when that is also what the
path first led to before, among the tables of the same name. For a record type it always is. -/
theorem answers_own_source_iff (history : List (Source M × String)) {i : Nat} {s : Source M}
    {path : String} (call : history[i]? = some (s, path)) :
    (answers {} history)[i]? = some ⟨s, path, s.locate path⟩ ↔
      ∀ schema column, s = .table schema →
        firstColumn schema.table path (history.take i) = some column →
          schema.resolve path = .ok column := by
  obtain ⟨d, holds, answered⟩ := getElem?_answers .empty call
  rw [List.nil_append] at holds
  rw [← holds.answer_iff s path, answered]
  constructor
  · intro same
    exact eq_of_heq (AnsweredCall.mk.inj (Option.some.inj same)).2.2
  · intro same
    rw [same]

end ResolutionCache

namespace Sample

/-- Two tables of one name that differ in a column, as of two databases. -/
def plainUsers : TableSchema :=
  ⟨"users", [⟨"id", .integer, false⟩, ⟨"age", .integer, false⟩], [], some "id", none, none⟩

def otherUsers : TableSchema :=
  ⟨"users", [⟨"id", .integer, false⟩, ⟨"age", .text, true⟩], [], some "id", none, none⟩

end Sample

open Sample ResolutionCache in
theorem answers_own_source_iff_users :
    ([(.table plainUsers, "id"), (.record (), "title"), (.table otherUsers, "id")] :
      List (Source shelf × String))[2]? = some (.table otherUsers, "id") ∧
    (answers {} ([(.table plainUsers, "id"), (.record (), "title"), (.table otherUsers, "id")] :
      List (Source shelf × String)))[2]? =
        some ⟨.table otherUsers, "id", otherUsers.resolve "id"⟩ := by
  refine ⟨rfl, (answers_own_source_iff _ rfl).mpr ?_⟩
  rintro _ column ⟨⟩ first
  have same : firstColumn (M := shelf) "users" "id"
      [(.table plainUsers, "id"), (.record (), "title")] =
      (otherUsers.resolve "id").toOption := by decide +kernel
  have found : (otherUsers.resolve "id").toOption = some column := same.symm.trans first
  cases own : otherUsers.resolve "id" with
  | error fault =>
    rw [own] at found
    cases found
  | ok other =>
    rw [own] at found
    exact congrArg Except.ok (Option.some.inj found)

open Sample ResolutionCache in
/-- A table of the same name that came before is answered for instead. -/
theorem namesake_answers :
    ¬ ∀ (history : List (Source shelf × String)) (i : Nat) (s : Source shelf) (path : String),
      history[i]? = some (s, path) →
        (answers {} history)[i]? = some ⟨s, path, s.locate path⟩ := by
  intro transparent
  let history : List (Source shelf × String) :=
    [(.table plainUsers, "age"), (.table otherUsers, "age")]
  have own := transparent history 1 (.table otherUsers) "age" rfl
  obtain ⟨d, holds, answered⟩ := getElem?_answers .empty (rfl : history[1]? = some _)
  have same := eq_of_heq (AnsweredCall.mk.inj (Option.some.inj (answered.symm.trans own))).2.2
  have known : (firstColumn "users" "age" (history.take 1)).isSome = true := by decide +kernel
  obtain ⟨column, first⟩ := Option.isSome_iff_exists.mp known
  have agrees := (holds.answer_iff _ _).mp same otherUsers column rfl first
  have apart : firstColumn "users" "age" (history.take 1) ≠
      (otherUsers.resolve "age").toOption := by decide +kernel
  refine apart ?_
  rw [first, agrees]
  rfl

end FieldQuery

import FieldQuery.Proofs.Alignment
import FieldQuery.Proofs.Clauses

/-!
# Scope

The condition of a plan is a conjunction of the tests of the filter, the test that keeps deleted
rows out and the conditions of the caller, each in parentheses. No name, value or condition can turn
it into anything else. Main statement: `scope_stands`.
-/
namespace FieldQuery

open Statement Fragment

variable {d : Dialect}

/-- The lexemes of a text with their depths of parentheses. -/
def nestedLexemes (text : String) : Option (List (Nat × Lexeme)) :=
  (lexemes text.toList).bind (nesting 0)

/-- The test that a row of a table has no value in a column. -/
def nullTest (c : ColumnRef) : List Lexeme :=
  [.name c.source.toList, .sign '.', .name c.column.toList, word "IS", word "NULL"]

namespace Conjunct

/-- How the clauses that a conjunct is read as come from it. A single test stands bare; otherwise
tests and conditions are in parentheses of their own, whose inside is balanced. -/
def Stands (d : Dialect) : Conjunct → List (List Lexeme) → Prop
  | group _ [t], parts => ∃ ls, parts = [ls] ∧ ReadAs d (t.fragment d) ls
  | group .and tests, parts =>
    List.Forall₂ (fun t ls => ∃ inner, ls = enclose inner ∧ Nests inner ∧
      ReadAs d (t.fragment d) inner) tests parts
  | group .or tests, parts => ∃ inner, parts = [enclose inner] ∧ Nests inner ∧
    ReadAs d (Fragment.join " OR " (tests.map (·.fragment d))) inner
  | notDeleted mark, parts => parts = [nullTest mark]
  | raw f, parts => ∃ inner, parts = [enclose inner] ∧ Nests inner ∧ ReadAs d f inner

/-- Conjuncts of clauses and balanced conditions. -/
def Sound (d : Dialect) : Conjunct → Prop
  | group _ tests => tests ≠ [] ∧ ∀ t ∈ tests, Reads d Clause (t.fragment d)
  | notDeleted _ => True
  | raw f => Reads d Nests f

/-- Clauses that a conjunct can be read as. -/
def IsReadAs (d : Dialect) (c : Conjunct) (parts : List (List Lexeme)) : Prop :=
  parts ≠ [] ∧ (∀ ls ∈ parts, Clause ls) ∧ c.Stands d parts

/-- Whatever is balanced is one clause once it is in parentheses. -/
theorem clause_of_enclosed {parts : List (List Lexeme)} {inner : List Lexeme}
    (h : parts = [enclose inner]) (balanced : Nests inner) : ∀ ls ∈ parts, Clause ls := by
  intro ls mem
  rw [h, List.mem_singleton] at mem
  rw [mem]
  exact .plain balanced.enclosed

theorem nests_of_clause {ls : List Lexeme} (h : Clause ls) : Nests ls := by
  obtain ⟨nested, read, -⟩ := h.read
  exact nests_iff.mpr ⟨nested, read⟩

theorem reads_and {tests : List RowTest} (nonempty : tests ≠ [])
    (sound : ∀ t ∈ tests, Reads d Clause (t.fragment d)) :
    Reads d (fun ls => ∃ parts, parts ≠ [] ∧ (∀ ls ∈ parts, Clause ls) ∧
        List.Forall₂ (fun t ls => ∃ inner, ls = enclose inner ∧ Nests inner ∧
          ReadAs d (t.fragment d) inner) tests parts ∧ ls = joined parts)
      (Fragment.join " AND " (tests.map fun t => (t.fragment d).enclosed)) := by
  have each : ∀ t ∈ tests, Reads d (fun ls => ∃ inner, ls = enclose inner ∧ Nests inner ∧
      ReadAs d (t.fragment d) inner) (t.fragment d).enclosed := fun t mem =>
    ((sound t mem).mono fun _ => nests_of_clause).known.enclosed
  refine (Reads.conjoined each).mono ?_
  rintro _ ⟨parts, stand, rfl⟩
  refine ⟨parts, ?_, ?_, stand, rfl⟩
  · rintro rfl
    cases stand
    exact nonempty rfl
  · intro ls mem
    obtain ⟨t, -, inner, rfl, balanced, -⟩ := exists_of_mem_right stand mem
    exact .plain balanced.enclosed

theorem Sound.reads {c : Conjunct} (h : c.Sound d) :
    Reads d (fun ls => ∃ parts, c.IsReadAs d parts ∧ ls = joined parts) (c.fragment d) := by
  cases c with
  | notDeleted mark =>
    have null : lexemes " IS NULL".toList = some [word "IS", word "NULL"] := rfl
    have read : Reads d (· = nullTest mark) [.text (mark.qualified ++ " IS NULL")] :=
      reads_text (lexemes_append (lexemes_qualify mark.source mark.column) null
        (.inr (by decide))) rfl
    refine read.mono ?_
    rintro _ rfl
    refine ⟨[nullTest mark], ⟨by simp, ?_, rfl⟩, rfl⟩
    intro ls mem
    rw [List.mem_singleton.mp mem]
    exact .plain rfl
  | raw f =>
    refine (Reads.known h).enclosed.mono ?_
    rintro _ ⟨inner, rfl, balanced, read⟩
    exact ⟨[enclose inner],
      ⟨by simp, clause_of_enclosed rfl balanced, inner, rfl, balanced, read⟩, rfl⟩
  | group logic tests =>
    obtain ⟨nonempty, sound⟩ := h
    cases tests with
    | nil => exact absurd rfl nonempty
    | cons t rest =>
      cases rest with
      | nil =>
        have single : Reads d (fun ls => ∃ parts, (group logic [t]).IsReadAs d parts ∧
            ls = joined parts) (t.fragment d) := by
          refine (sound t List.mem_cons_self).known.mono ?_
          rintro ls ⟨clause, read⟩
          refine ⟨[ls], ⟨by simp, by simpa using clause, ?_⟩, rfl⟩
          cases logic <;> exact ⟨ls, rfl, read⟩
        cases logic <;> exact single
      | cons u rest =>
        cases logic with
        | and =>
          refine (reads_and nonempty sound).mono ?_
          rintro _ ⟨parts, some_, clauses, stand, rfl⟩
          exact ⟨parts, ⟨some_, clauses, stand⟩, rfl⟩
        | or =>
          have either : Spaced " OR " [word "OR"] := by decide
          have inner := Reads.join (fun t mem => (sound t mem).mono fun _ => nests_of_clause)
            either (by decide)
          refine inner.known.enclosed.mono ?_
          rintro _ ⟨inner, rfl, balanced, read⟩
          exact ⟨[enclose inner],
            ⟨by simp, clause_of_enclosed rfl balanced, inner, rfl, balanced, read⟩, rfl⟩

end Conjunct

namespace Plan

def condition (p : Plan) : Fragment :=
  Fragment.join " AND " (p.conjuncts.map (·.fragment p.dialect))

/-- A database reads the condition as the conjunction that the plan means: parentheses are balanced,
no disjunction stands outside of them, and the conjuncts read are those of the plan, in order. -/
def IsReadAsConjunction (p : Plan) : Prop :=
  (if p.conjuncts = [] then p.whereFragment = []
    else p.whereFragment = .text " WHERE " :: p.condition) ∧
  ∀ bound, p.conjuncts ≠ [] → ∃ nested parts,
    nestedLexemes (p.condition.write p.dialect bound) = some nested ∧ NoOutsideOr nested ∧
    splitConjuncts nested = parts.flatten ∧ List.Forall₂ (·.Stands p.dialect) p.conjuncts parts

/-- A database reads a test among the conjuncts of the condition. -/
def Asks (p : Plan) (test : List Lexeme) : Prop :=
  ∀ bound, ∃ nested, nestedLexemes (p.condition.write p.dialect bound) = some nested ∧
    test ∈ splitConjuncts nested

variable {p : Plan}

/-- Conjuncts that are read one by one, each as clauses with `AND` between them. -/
theorem exists_parts {d : Dialect} {cs : List Conjunct} {texts : List (List Lexeme)}
    (h : List.Forall₂ (fun c ls => ∃ parts, c.IsReadAs d parts ∧ ls = joined parts) cs texts) :
    ∃ parts, texts = parts.map joined ∧ List.Forall₂ (·.IsReadAs d) cs parts := by
  induction h with
  | nil => exact ⟨[], rfl, .nil⟩
  | cons head _ ih =>
    obtain ⟨own, readAs, rfl⟩ := head
    obtain ⟨parts, rfl, each⟩ := ih
    exact ⟨own :: parts, rfl, .cons readAs each⟩

theorem read_condition (sound : ∀ c ∈ p.conjuncts, c.Sound p.dialect) (nonempty : p.conjuncts ≠ [])
    (bound : Nat) : ∃ nested parts,
      nestedLexemes (p.condition.write p.dialect bound) = some nested ∧ NoOutsideOr nested ∧
      splitConjuncts nested = parts.flatten ∧
      List.Forall₂ (·.Stands p.dialect) p.conjuncts parts := by
  have each : ∀ c ∈ p.conjuncts, Reads p.dialect
      (fun ls => ∃ parts, c.IsReadAs p.dialect parts ∧ ls = joined parts)
      (c.fragment p.dialect) := fun c mem => (sound c mem).reads
  obtain ⟨_, read, texts, stand, rfl⟩ := Reads.conjoined each bound
  obtain ⟨parts, rfl, readAs⟩ := exists_parts stand
  have some_ : ∀ g ∈ parts, g ≠ [] := by
    intro g mem
    obtain ⟨c, -, own, -⟩ := exists_of_mem_right readAs mem
    exact own
  have clauses : ∀ ls ∈ parts.flatten, Clause ls := by
    intro ls mem
    obtain ⟨g, there, mem⟩ := List.mem_flatten.mp mem
    obtain ⟨c, -, -, own, -⟩ := exists_of_mem_right readAs there
    exact own ls mem
  have whole : parts.flatten ≠ [] := by
    intro none
    obtain ⟨c, rest, split⟩ := List.exists_cons_of_ne_nil nonempty
    rw [split] at readAs
    cases readAs with
    | cons head _ => exact head.1 (List.append_eq_nil_iff.mp none).1
  obtain ⟨nested, nests, noOr, conjuncts⟩ := splitConjuncts_joined whole clauses
  refine ⟨nested, parts, ?_, noOr, conjuncts, readAs.imp fun _ _ h => h.2.2⟩
  unfold nestedLexemes condition
  rw [read]
  change nesting 0 (joined (parts.map joined)) = some nested
  rw [joined_flatten some_]
  exact nests

end Plan

theorem RowTest.reads_predicate (p : Predicate) (c : ColumnRef) :
    Reads d Clause ((RowTest.predicate (p.test d c.qualified)).fragment d) :=
  (p.qualified_test c).reads

theorem RowTest.reads_column (t : ColumnTest) (c : ColumnRef) :
    Reads d Clause ((RowTest.column c t).fragment d) := (t.reads_fragment c).mono fun _ => .plain

namespace TableSchema

variable (schema : TableSchema) {options : PlanOptions} (logic : Logic) {tests : List RowTest}
  {raws : List Fragment}

theorem sound_conjuncts (terms : ∀ t ∈ tests, Reads d Clause (t.fragment d))
    (balanced : ∀ f ∈ raws, Reads d Nests f) :
    ∀ c ∈ schema.conjuncts options logic tests raws, c.Sound d := by
  intro c mem
  unfold conjuncts at mem
  rcases List.mem_append.mp mem with mem | mem
  · rcases List.mem_append.mp mem with mem | mem
    · split at mem
      · cases mem
      · rename_i nonempty
        rw [List.mem_singleton.mp mem]
        refine ⟨?_, terms⟩
        rintro rfl
        exact nonempty rfl
    · split at mem
      · rw [List.mem_singleton.mp mem]
        trivial
      · cases mem
  · obtain ⟨f, there, rfl⟩ := List.mem_map.mp mem
    exact balanced f there

theorem notDeleted_mem_conjuncts (tests : List RowTest) (raws : List Fragment) {mark : String}
    (hides : options.unscoped = false) (marked : schema.deletedAt = some mark) :
    .notDeleted (schema.ref mark) ∈ schema.conjuncts options logic tests raws := by
  unfold conjuncts
  rw [hides, marked]
  exact List.mem_append_left _ (List.mem_append_right _ List.mem_cons_self)

end TableSchema

/-- Plans whose conjuncts are those of a table, with tests and conditions that can stand there. -/
theorem Plan.stands_of_conjuncts {p : Plan} {schema : TableSchema} {options : PlanOptions}
    {logic : Logic} {tests : List RowTest} {raws : List Fragment}
    (made : p.conjuncts = schema.conjuncts options logic tests raws)
    (terms : ∀ t ∈ tests, Reads p.dialect Clause (t.fragment p.dialect))
    (balanced : ∀ f ∈ raws, Reads p.dialect Nests f) :
    p.IsReadAsConjunction ∧ (options.unscoped = false → ∀ mark, schema.deletedAt = some mark →
      p.Asks (nullTest (schema.ref mark))) := by
  have sound : ∀ c ∈ p.conjuncts, c.Sound p.dialect := by
    rw [made]
    exact schema.sound_conjuncts logic terms balanced
  refine ⟨⟨?_, fun bound nonempty => read_condition sound nonempty bound⟩, ?_⟩
  · split
    · rename_i empty
      rw [whereFragment, empty]
      rfl
    · rename_i nonempty
      rw [whereFragment, if_neg (by simpa using nonempty)]
      rfl
  · intro hides mark marked bound
    have asked : .notDeleted (schema.ref mark) ∈ p.conjuncts := by
      rw [made]
      exact schema.notDeleted_mem_conjuncts logic tests raws hides marked
    obtain ⟨nested, parts, read, -, conjuncts, stand⟩ :=
      read_condition sound (List.ne_nil_of_mem asked) bound
    obtain ⟨g, there, own⟩ := exists_of_mem_left stand asked
    refine ⟨nested, read, ?_⟩
    rw [conjuncts]
    refine List.mem_flatten.mpr ⟨g, there, ?_⟩
    have single : g = [nullTest (schema.ref mark)] := own
    rw [single]
    exact List.mem_cons_self

/-- Raw conditions must have balanced quotes and parentheses and no comments. Whatever the names of
the table, the terms and their values are, the condition of a plan is then read as the conjunction
of the group of terms, the test for deleted rows and each raw condition in parentheses. -/
theorem scope_stands (schema : TableSchema) (lookup : ColumnLookup) (settings : PlanSettings)
    (target : Option String) :
    (∀ (f : Filter) (options : PlanOptions) (p : Plan),
      (∀ q ∈ options.conditions, q.Nested) →
      schema.plan lookup settings f options target = .ok p →
      (∃ terms raws, f.terms.mapM (Term.planned lookup settings.unknownFields) = .ok terms ∧
        List.Forall₂ (fun q r => q.fragment = .ok r) options.conditions raws ∧
        p.conjuncts = schema.conjuncts options f.logic
          ((restricting f.logic terms).map fun (c, q) =>
            .predicate (q.test settings.dialect c.qualified)) raws) ∧
      p.IsReadAsConjunction ∧
      (options.unscoped = false → ∀ mark, schema.deletedAt = some mark →
        p.Asks (nullTest (schema.ref mark)))) ∧
    (∀ (filters : List ColumnFilter) (sort : List SortField) (p : Plan),
      schema.planColumns lookup settings filters sort target = .ok p →
      (∃ tests, filters.mapM (TableSchema.plannedTest lookup settings.unknownFields) = .ok tests ∧
        p.conjuncts = schema.conjuncts {} .and
          ((tests.filterMap id).map fun (c, t) => .column c.toColumnRef t) []) ∧
      p.IsReadAsConjunction ∧
      ∀ mark, schema.deletedAt = some mark → p.Asks (nullTest (schema.ref mark))) := by
  constructor
  · intro f options p nested planned
    obtain ⟨base, terms, c, -, ht, hc, rfl⟩ := TableSchema.plan_ok_iff.mp planned
    have conditions := Completion.conditions_fragments hc
    refine ⟨⟨terms, c.conditions, ht, conditions, rfl⟩, Plan.stands_of_conjuncts rfl ?_ ?_⟩
    · intro t mem
      obtain ⟨⟨column, q⟩, -, rfl⟩ := List.mem_map.mp mem
      exact RowTest.reads_predicate q column.toColumnRef
    · intro r mem
      obtain ⟨q, there, ok⟩ := exists_of_mem_right conditions mem
      exact (nested q there).reads ok
  · intro filters sort p planned
    obtain ⟨tests, c, ht, hc, rfl⟩ := TableSchema.planColumns_ok_iff.mp planned
    have noConditions : c.conditions = [] :=
      List.forall₂_nil_left_iff.mp (Completion.conditions_fragments hc)
    have made : (c.plan schema settings {} (.ofTests tests)).conjuncts = schema.conjuncts {} .and
        ((tests.filterMap id).map fun (c, t) => .column c.toColumnRef t) [] := by
      rw [← noConditions]
      rfl
    obtain ⟨readAs, asks⟩ := Plan.stands_of_conjuncts made
      (fun t mem => by
        obtain ⟨⟨column, t⟩, -, rfl⟩ := List.mem_map.mp mem
        exact RowTest.reads_column t column.toColumnRef)
      nofun
    exact ⟨⟨tests, ht, made⟩, readAs, asks rfl⟩

namespace Sample

def articles : TableSchema :=
  ⟨"articles", [⟨"title", .text, false⟩, ⟨"pages", .integer, true⟩], [], some "id", none,
    some "deleted_at"⟩

def either : Filter :=
  { terms := [⟨"pages", .arr [.num (.int 1), .num (.int 9)], .range, none⟩,
      ⟨"title", .str "a) OR (b", .equal, none⟩]
    logic := .or }

/-- A condition that is a disjunction itself. -/
def loose : PlanOptions := { conditions := [⟨"pages < ? OR title = ')'", [.int 5]⟩] }

end Sample

open Sample in
theorem scope_stands_articles :
    (∀ q ∈ loose.conditions, q.Nested) ∧
    ∃ p, articles.plan articles.resolve {} either loose none = .ok p ∧
      p.conjuncts.length = 3 ∧ p.IsReadAsConjunction ∧
      p.Asks (nullTest ⟨"articles", "deleted_at"⟩) := by
  have nested : ∀ q ∈ loose.conditions, q.Nested := by
    intro q mem
    rw [List.mem_singleton.mp mem]
    exact ⟨_, rfl, by decide⟩
  have made : ((articles.plan articles.resolve {} either loose none).toOption.map
      (·.conjuncts.length)) = some 3 := by decide +kernel
  cases planned : articles.plan articles.resolve {} either loose none with
  | error fault =>
    rw [planned] at made
    cases made
  | ok p =>
    rw [planned] at made
    have filters := (scope_stands articles articles.resolve {} none).1
    obtain ⟨-, readAs, asks⟩ := filters either loose p nested planned
    exact ⟨nested, p, rfl, Option.some.inj made, readAs, asks rfl "deleted_at" rfl⟩

end FieldQuery

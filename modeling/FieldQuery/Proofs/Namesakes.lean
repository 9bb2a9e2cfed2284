import FieldQuery.Proofs.Chains
import FieldQuery.Proofs.Relations

/-!
# Namesakes

A path names what it means by spellings, and what comes first among those that the spelling fits is
taken. A relation of a schema that was read answers to its own name unless another one of its name
comes before it, and a column unless one before it is spelled as its name with underscores. Main
statements: `relations_answer_to_names` and `columns_answer_to_names`.
-/
namespace FieldQuery

namespace TableSchema

variable {t : TableSchema} {r : Relation} {way : List Relation} {names : List String}
  {name path : String}

theorem segments_intercalate (there : names ≠ [])
    (plain : ∀ name ∈ names, '.' ∉ name.toList) :
    segments (".".intercalate names) = names := by
  have words : ∀ w ∈ names.map String.toList, '.' ∉ w := by
    intro w mem
    obtain ⟨name, found, rfl⟩ := List.mem_map.mp mem
    exact plain name found
  have dot : ".".toList = ['.'] := rfl
  have apart := Text.pieces_intercalate (mt List.map_eq_nil_iff.mp there) words
  rw [segments, String.toList_intercalate, dot, apart, List.map_map]
  simp [Function.comp_def]

theorem dot_not_mem_segment (mem : name ∈ segments path) : '.' ∉ name.toList := by
  obtain ⟨piece, found, rfl⟩ := List.mem_map.mp mem
  rw [String.toList_ofList]
  exact Text.sep_not_mem_of_mem_pieces found

/-- A relation that comes before every other one of its name, in any case of letters. -/
def FirstOfName (t : TableSchema) (r : Relation) : Prop :=
  ∃ before after, t.relations = before ++ r :: after ∧
    ∀ q ∈ before, Text.eqIgnoreAsciiCase q.name r.name = false

theorem FirstOfName.mem (h : t.FirstOfName r) : r ∈ t.relations := by
  obtain ⟨before, after, split, -⟩ := h
  exact split ▸ List.mem_append_right before List.mem_cons_self

theorem findRelation_eq_some_iff :
    t.findRelation name = some r ↔
      t.FirstOfName r ∧ Text.eqIgnoreAsciiCase r.name (Text.pascal name) = true := by
  unfold findRelation
  rw [List.find?_eq_some_iff_append, and_comm]
  refine and_congr_left ?_
  intro named
  unfold FirstOfName
  simp only [Text.eqIgnoreAsciiCase_congr named, Bool.not_eq_true']

/-- A relation whose name is capitalised is found by its name, or another one of its name is. -/
theorem exists_namesake (capital : Text.pascal r.name = r.name) (mem : r ∈ t.relations) :
    ∃ q, t.findRelation r.name = some q ∧ t.FirstOfName q ∧
      Text.eqIgnoreAsciiCase q.name r.name = true := by
  have some_found : (t.findRelation r.name).isSome = true := by
    refine List.find?_isSome.mpr ⟨r, mem, ?_⟩
    rw [capital]
    exact Text.eqIgnoreAsciiCase_refl r.name
  obtain ⟨q, found⟩ := Option.isSome_iff_exists.mp some_found
  obtain ⟨first, named⟩ := findRelation_eq_some_iff.mp found
  rw [capital] at named
  exact ⟨q, found, first, named⟩

theorem findRelation_self_iff (capital : Text.pascal r.name = r.name) :
    t.findRelation r.name = some r ↔ t.FirstOfName r := by
  rw [findRelation_eq_some_iff, capital, Text.eqIgnoreAsciiCase_refl]
  exact and_iff_left rfl

def reach (t : TableSchema) : List Relation → TableSchema
  | [] => t
  | r :: rest => r.target.reach rest

/-- Whether each of the names finds the relation in its place. -/
def Passes (t : TableSchema) : List String → List Relation → Prop
  | [], [] => True
  | name :: names, r :: rest => t.findRelation name = some r ∧ r.target.Passes names rest
  | _, _ => False

def joinsAlong (source : String) (isBase : Bool) : List Relation → List JoinStep
  | [] => []
  | r :: rest => stepFrom source isBase r :: joinsAlong (labelFrom source isBase r) false rest

/-- Whether a path can go along a way: each relation is the first of its name at its table, and has
no dot in its name. -/
def Passable (t : TableSchema) : List Relation → Prop
  | [] => True
  | r :: rest => (t.FirstOfName r ∧ '.' ∉ r.name.toList) ∧ r.target.Passable rest

/-- Names that pass along a way join its tables. -/
theorem Passes.follow (h : t.Passes names way) (source : String) (isBase : Bool) :
    ∃ last, t.follow source isBase names =
      some (joinsAlong source isBase way, last, t.reach way) := by
  induction way generalizing t source isBase names with
  | nil =>
    cases names with
    | nil => exact ⟨source, rfl⟩
    | cons _ _ => exact False.elim h
  | cons r rest ih =>
    cases names with
    | nil => exact False.elim h
    | cons segment more =>
      obtain ⟨found, further⟩ := h
      obtain ⟨last, next⟩ := ih further (labelFrom source isBase r) false
      exact ⟨last, follow_cons.mpr ⟨r, _, found, next, rfl⟩⟩

/-- Names without dots pass along passable ways only. -/
theorem Passes.passable (h : t.Passes names way)
    (plain : ∀ name ∈ names, '.' ∉ name.toList) : t.Passable way := by
  induction way generalizing t names with
  | nil => trivial
  | cons r rest ih =>
    cases names with
    | nil => exact False.elim h
    | cons segment more =>
      obtain ⟨found, further⟩ := h
      obtain ⟨first, named⟩ := findRelation_eq_some_iff.mp found
      refine ⟨⟨first, ?_⟩, ?_⟩
      · rw [Text.separator_mem_iff (by decide) named]
        exact mt Text.dot_mem_of_pascal (plain segment List.mem_cons_self)
      · exact ih further fun segment mem => plain segment (List.mem_cons_of_mem _ mem)

theorem Passable.plain (h : t.Passable way) : ∀ r ∈ way, '.' ∉ r.name.toList := by
  induction way generalizing t with
  | nil => exact nofun
  | cons r rest ih =>
    obtain ⟨⟨-, here⟩, further⟩ := h
    intro q mem
    rcases List.mem_cons.mp mem with rfl | later
    · exact here
    · exact ih further q later

/-- What a segment finds has letters in its name if the segment has, and a dot only if it has. -/
theorem named_of_findColumn {c : Column} (h : t.findColumn name = some c) (there : name ≠ "")
    (plain : '.' ∉ name.toList) : c.name ≠ "" ∧ '.' ∉ c.name.toList := by
  have fits := List.find?_some h
  rcases (Bool.or_eq_true_iff ..).mp fits with exact_name | spelling
  · exact ⟨mt (Text.eq_empty_iff_of_eqIgnoreAsciiCase exact_name).mp there,
      mt (Text.separator_mem_iff (by decide) exact_name).mp plain⟩
  · refine ⟨mt (Text.eq_empty_iff_of_eqIgnoreAsciiCase spelling).mp ?_,
      mt (Text.separator_mem_iff (by decide) spelling).mp ?_⟩
    · exact mt Text.snake_eq_empty_iff.mp there
    · exact mt Text.dot_mem_of_snake plain

/-- A column is found by its name, or another one is. -/
theorem findColumn_isSome {c : Column} (mem : c ∈ t.columns) :
    (t.findColumn c.name).isSome = true := by
  refine List.find?_isSome.mpr ⟨c, mem, ?_⟩
  rw [Text.eqIgnoreAsciiCase_refl, Bool.true_or]

/-- The path that spells the names of a passable way and of a column at its end. -/
theorem Passes.exists_path (h : t.Passes (way.map (·.name)) way)
    (plain : ∀ r ∈ way, '.' ∉ r.name.toList) {c : Column} (mem : c ∈ (t.reach way).columns)
    (there : c.name ≠ "") (whole : '.' ∉ c.name.toList) :
    ∃ path column, t.Passes (segments path).dropLast way ∧
      t.resolve? path = some column ∧ column.joins = joinsAlong t.table true way := by
  have dotless : ∀ name ∈ way.map (·.name) ++ [c.name], '.' ∉ name.toList := by
    intro name mem
    rcases List.mem_append.mp mem with relation | terminal
    · obtain ⟨r, along, rfl⟩ := List.mem_map.mp relation
      exact plain r along
    · exact List.mem_singleton.mp terminal ▸ whole
  have spelled := segments_intercalate (List.concat_ne_nil c.name _) dotless
  obtain ⟨last, follows⟩ := h.follow t.table true
  obtain ⟨d, found⟩ := Option.isSome_iff_exists.mp (findColumn_isSome mem)
  refine ⟨_, _, ?_, resolve?_eq_some.mpr ⟨_, c.name, _, last, _, d, spelled, there, follows, found,
    rfl⟩, rfl⟩
  rw [spelled, List.dropLast_concat]
  exact h

end TableSchema

namespace Catalog

variable {c : Catalog} {name start : String} {visited : List String} {t base : TableSchema}
  {r : Relation} {way : List Relation}

/-- The relations of a table that was read have capitalised names, and their targets were read. -/
theorem related_of_schemaFrom (read : c.schemaFrom visited name = .ok t) (mem : r ∈ t.relations) :
    Text.pascal r.name = r.name ∧
      ∃ visited name, c.schemaFrom visited name = .ok r.target := by
  obtain ⟨table, -, -, each⟩ := schemaFrom_ok read
  obtain ⟨k, -, gives, target⟩ := exists_of_mem_right each mem
  refine ⟨?_, _, _, target⟩
  rw [gives.name]
  exact Text.pascal_pascal _

theorem passes_of_passable (read : c.schemaFrom visited name = .ok t) (h : t.Passable way) :
    t.Passes (way.map (·.name)) way := by
  induction way generalizing t visited name with
  | nil => trivial
  | cons r rest ih =>
    obtain ⟨⟨first, -⟩, further⟩ := h
    obtain ⟨capital, _, _, target⟩ := related_of_schemaFrom read first.mem
    exact ⟨(TableSchema.findRelation_self_iff capital).mpr first, ih target further⟩

/-- In every schema that is read from a catalog, the name of a relation finds the first relation of
that name at its table, and so the relation itself exactly if no other one of its name comes before
it. A path leads along a way of relations, and joins by their keys, exactly if each of them is the
first of its name and has no dot in its name, and a column at the end has a name without a dot. -/
theorem relations_answer_to_names (read : c.schema start = .ok base) :
    (∀ chain s, base.Holds chain s → ∀ r ∈ s.relations,
      (s.findRelation r.name = some r ↔ s.FirstOfName r) ∧
      ∃ q, s.findRelation r.name = some q ∧ s.FirstOfName q ∧
        Text.eqIgnoreAsciiCase q.name r.name = true) ∧
    ∀ way,
      (∃ path column, base.Passes (TableSchema.segments path).dropLast way ∧
        base.resolve? path = some column ∧
        column.joins = TableSchema.joinsAlong base.table true way) ↔
      base.Passable way ∧
        ∃ column ∈ (base.reach way).columns, column.name ≠ "" ∧ '.' ∉ column.name.toList := by
  constructor
  · intro chain s held r mem
    obtain ⟨visited, -, -, nested⟩ := schemaFrom_of_holds read held
    obtain ⟨capital, -⟩ := related_of_schemaFrom nested mem
    exact ⟨TableSchema.findRelation_self_iff capital, TableSchema.exists_namesake capital mem⟩
  · intro way
    constructor
    · rintro ⟨path, column, passes, resolved, -⟩
      obtain ⟨names, terminal, joins, source, target, found, split, named, follows, at_end, -⟩ :=
        TableSchema.resolve?_eq_some.mp resolved
      have plain : ∀ name ∈ names ++ [terminal], '.' ∉ name.toList := fun name mem =>
        TableSchema.dot_not_mem_segment (split ▸ mem)
      rw [split, List.dropLast_concat] at passes
      obtain ⟨last, along⟩ := passes.follow base.table true
      cases follows.symm.trans along
      refine ⟨passes.passable fun name mem => plain name (List.mem_append_left _ mem), found, ?_,
        TableSchema.named_of_findColumn at_end named (plain terminal (by simp))⟩
      exact List.mem_of_find?_eq_some at_end
    · rintro ⟨passable, column, mem, there, whole⟩
      exact (passes_of_passable read passable).exists_path passable.plain mem there whole

namespace Library

def books : CatalogTable :=
  ⟨"books", [⟨"id", "INTEGER", false, 1⟩, ⟨"author_id", "INTEGER", false, 0⟩,
    ⟨"writer", "INTEGER", false, 0⟩],
    [⟨"author_id", "people", some "id"⟩, ⟨"writer", "author", some "id"⟩]⟩

def people : CatalogTable :=
  ⟨"people", [⟨"id", "INTEGER", false, 1⟩, ⟨"name", "TEXT", false, 0⟩], []⟩

def author : CatalogTable :=
  ⟨"author", [⟨"id", "INTEGER", false, 1⟩, ⟨"pen_name", "TEXT", false, 0⟩], []⟩

/-- Named after its key. -/
def person : Relation := ⟨"Author", "author_id", "id", people.toSchema "people" []⟩

/-- Named after its target, since its key does not end in `_id`. -/
def writer : Relation := ⟨"Author", "writer", "id", author.toSchema "author" []⟩

end Library

/-- Two keys of a book give relations of one name. -/
def library : Catalog := [Library.books, Library.people, Library.author]

open Library in
theorem schema_library :
    library.schema "books" = .ok (books.toSchema "books" [person, writer]) := by
  have named : ForeignKey.relationName ⟨"author_id", "people", some "id"⟩ = "Author" := by
    decide +kernel
  have target : ForeignKey.relationName ⟨"writer", "author", some "id"⟩ = "Author" := by
    decide +kernel
  have first : library.schemaFrom ["books"] "people" = .ok person.target := by
    rw [schemaFrom_of_some (t := people) (by decide)]
    simp [people, relationsFrom, person, Except.map]
  have second : library.schemaFrom ["books"] "author" = .ok writer.target := by
    rw [schemaFrom_of_some (t := author) (by decide)]
    simp [author, relationsFrom, writer, Except.map]
  rw [schema, schemaFrom_of_some (t := books) (by decide)]
  simp [books, relationsFrom, first, second, named, target, Except.map, Bind.bind, Except.bind,
    person, writer]

open Library in
theorem relations_answer_to_names_library : ∃ base, library.schema "books" = .ok base ∧
    base.findRelation "Author" = some person ∧
    ∃ path column, base.resolve? path = some column ∧
      column.joins = TableSchema.joinsAlong "books" true [person] := by
  obtain ⟨names, ways⟩ := relations_answer_to_names schema_library
  have first : (books.toSchema "books" [person, writer]).FirstOfName person :=
    ⟨[], [writer], rfl, nofun⟩
  refine ⟨_, schema_library, ?_, ?_⟩
  · exact (names _ _ .base person List.mem_cons_self).1.mpr first
  · have passable : (books.toSchema "books" [person, writer]).Passable [person] :=
      ⟨⟨first, by decide⟩, trivial⟩
    obtain ⟨path, column, -, resolved, joins⟩ := (ways [person]).mpr
      ⟨passable, ⟨"id", .integer, false⟩, by decide, by decide, by decide⟩
    exact ⟨path, column, resolved, joins⟩

open Library in
/-- The author by whom a book was written is never found, and no path joins by that key. -/
theorem namesake_unreachable : ∃ base, library.schema "books" = .ok base ∧
    writer ∈ base.relations ∧ base.findRelation writer.name ≠ some writer ∧
    ∀ path column, base.resolve? path = some column →
      ∀ j ∈ column.joins, j.localKey ≠ writer.localKey := by
  -- both relations have one name, so what does not find the first does not find the second
  have only {segment : String} {q : Relation}
      (found : (books.toSchema "books" [person, writer]).findRelation segment = some q) :
      q = person := by
    obtain ⟨⟨before, after, split, clear⟩, named⟩ := TableSchema.findRelation_eq_some_iff.mp found
    cases before with
    | nil => exact (List.cons.inj split).1.symm
    | cons first rest =>
      obtain ⟨rfl, others⟩ := List.cons.inj split
      have here : q ∈ [writer] := others ▸ List.mem_append_right rest List.mem_cons_self
      obtain rfl := List.mem_singleton.mp here
      exact absurd (clear person List.mem_cons_self) (by decide)
  refine ⟨_, schema_library, by simp [CatalogTable.toSchema], ?_, ?_⟩
  · intro found
    exact absurd (congrArg Relation.localKey (only found)) (by decide)
  · intro path column resolved j mem
    obtain ⟨names, _, joins, _, _, _, -, -, follows, -, rfl⟩ :=
      TableSchema.resolve?_eq_some.mp resolved
    cases names with
    | nil =>
      cases follows
      cases mem
    | cons segment rest =>
      obtain ⟨q, more, found, next, rfl⟩ := TableSchema.follow_cons.mp follows
      obtain rfl := only found
      cases rest with
      | nil =>
        cases next
        obtain rfl := List.mem_singleton.mp mem
        decide
      | cons another others =>
        -- the table of people has no relations
        obtain ⟨_, _, nowhere, -⟩ := TableSchema.follow_cons.mp next
        cases nowhere

end Catalog

/-- Whether a column has the name that another one has with underscores, in any case of letters. -/
def Column.Shadows (b c : Column) : Prop :=
  Text.eqIgnoreAsciiCase b.name (Text.snake c.name) = true

namespace TableSchema

variable {t : TableSchema} {before after : List Column} {b c : Column}

def NamesApart (t : TableSchema) : Prop :=
  t.columns.Pairwise fun b c => Text.eqIgnoreAsciiCase b.name c.name = false

theorem NamesApart.unlike_before (distinct : t.NamesApart)
    (split : t.columns = before ++ c :: after) :
    ∀ b ∈ before, Text.eqIgnoreAsciiCase b.name c.name = false := by
  rw [NamesApart, split] at distinct
  intro b mem
  exact (List.pairwise_append.mp distinct).2.2 b mem c List.mem_cons_self

theorem findColumn_of_shadowed (distinct : t.NamesApart) (split : t.columns = before ++ c :: after)
    (mem : b ∈ before) (shadows : b.Shadows c) : t.findColumn c.name = some b := by
  obtain ⟨first, rest, rfl⟩ := List.append_of_mem mem
  have earlier : t.columns = first ++ b :: (rest ++ c :: after) := by simp [split]
  refine List.find?_eq_some_iff_append.mpr ⟨?_, first, rest ++ c :: after, earlier, ?_⟩
  · exact (Bool.or_eq_true ..).mpr (.inr shadows)
  · intro a among
    have other := distinct.unlike_before split a (List.mem_append_left _ among)
    have another := distinct.unlike_before earlier a among
    rw [Text.eqIgnoreAsciiCase_congr shadows] at another
    rw [other, another]
    rfl

theorem findColumn_of_unshadowed (distinct : t.NamesApart)
    (split : t.columns = before ++ c :: after) (clear : ∀ b ∈ before, ¬ b.Shadows c) :
    t.findColumn c.name = some c := by
  refine List.find?_eq_some_iff_append.mpr ⟨?_, before, after, split, ?_⟩
  · rw [Text.eqIgnoreAsciiCase_refl, Bool.true_or]
  · intro a mem
    rw [distinct.unlike_before split a mem, Bool.eq_false_iff.mpr (clear a mem)]
    rfl

/-- What is found by the name of a column has that name only if it is the column. -/
theorem exists_findColumn (distinct : t.NamesApart) (split : t.columns = before ++ c :: after) :
    ∃ d, t.findColumn c.name = some d ∧ (d.name = c.name ↔ ∀ b ∈ before, ¬ b.Shadows c) := by
  by_cases clear : ∀ b ∈ before, ¬ b.Shadows c
  · exact ⟨c, findColumn_of_unshadowed distinct split clear, iff_of_true rfl clear⟩
  · obtain ⟨b, mem, shadows⟩ : ∃ b ∈ before, b.Shadows c := by simpa using clear
    refine ⟨b, findColumn_of_shadowed distinct split mem shadows, iff_of_false ?_ clear⟩
    intro same
    have unlike := distinct.unlike_before split b mem
    rw [same, Text.eqIgnoreAsciiCase_refl] at unlike
    cases unlike

/-- Where no two columns have one name, a column is found by its name unless a column before it has
that name with underscores, and then that column is found; a column whose own name has its words set
apart so is always found. A path that ends in the name of a column reads what the name finds. -/
theorem columns_answer_to_names (distinct : t.NamesApart)
    (split : t.columns = before ++ c :: after) :
    (t.findColumn c.name = some c ↔ ∀ b ∈ before, ¬ b.Shadows c) ∧
    (∀ b ∈ before, b.Shadows c → t.findColumn c.name = some b) ∧
    (c.Shadows c → t.findColumn c.name = some c) ∧
    ∀ (base : TableSchema) path names joins source,
      segments path = names ++ [c.name] → c.name ≠ "" →
      base.follow base.table true names = some (joins, source, t) →
      ∃ column, base.resolve? path = some column ∧ column.joins = joins ∧
        column.source = source ∧ (column.column = c.name ↔ ∀ b ∈ before, ¬ b.Shadows c) := by
  obtain ⟨d, found, named⟩ := exists_findColumn distinct split
  refine ⟨?_, ?_, ?_, ?_⟩
  · constructor
    · intro self
      cases found.symm.trans self
      exact named.mp rfl
    · exact findColumn_of_unshadowed distinct split
  · intro b mem shadows
    exact findColumn_of_shadowed distinct split mem shadows
  · intro own
    refine findColumn_of_unshadowed distinct split ?_
    intro b mem shadows
    have unlike := distinct.unlike_before split b mem
    rw [Text.eqIgnoreAsciiCase_congr own] at unlike
    exact Bool.noConfusion (unlike.symm.trans shadows)
  · intro base path names joins source spelled there follows
    refine ⟨_, resolve?_eq_some.mpr ⟨names, c.name, joins, source, t, d, spelled, there, follows,
      found, rfl⟩, rfl, rfl, named⟩

namespace Events

def key : Column := ⟨"id", .integer, false⟩

def created : Column := ⟨"created_at", .timestamp, false⟩

/-- The text of an instant, in a column spelled as requests spell the other one. -/
def createdText : Column := ⟨"createdAt", .text, false⟩

end Events

def events : TableSchema :=
  ⟨"events", [Events.key, Events.created, Events.createdText], [], some "id", none, none⟩

open Events

theorem namesApart_events : events.NamesApart := by
  unfold NamesApart
  decide

theorem createdText_shadowed : created.Shadows createdText := by
  unfold Column.Shadows
  decide +kernel

theorem columns_answer_to_names_events :
    events.findColumn created.name = some created ∧
    events.findColumn createdText.name = some created ∧
    ∃ column, events.resolve? "created_at" = some column ∧ column.column = created.name := by
  have early : events.columns = [key] ++ created :: [createdText] := rfl
  have late : events.columns = [key, created] ++ createdText :: [] := rfl
  obtain ⟨-, -, own, paths⟩ := columns_answer_to_names namesApart_events early
  obtain ⟨-, shadowed, -⟩ := columns_answer_to_names namesApart_events late
  have plain : created.Shadows created := by
    unfold Column.Shadows
    decide +kernel
  have clear : ∀ b ∈ [key], ¬ b.Shadows created := by
    unfold Column.Shadows
    decide +kernel
  refine ⟨own plain, shadowed created (by simp) createdText_shadowed, ?_⟩
  obtain ⟨column, resolved, -, -, reads⟩ :=
    paths events "created_at" [] [] "events" (by decide) (by decide) rfl
  exact ⟨column, resolved, reads.mpr clear⟩

/-- The text is never read by the name of its column. -/
theorem shadowed_column_unread : events.NamesApart ∧ createdText ∈ events.columns ∧
    events.findColumn createdText.name ≠ some createdText ∧
    (events.resolve? createdText.name).map (·.column) = some created.name := by
  have late : events.columns = [key, created] ++ createdText :: [] := rfl
  have found := findColumn_of_shadowed namesApart_events late (by simp) createdText_shadowed
  refine ⟨namesApart_events, by simp [events], ?_, ?_⟩
  · rw [found]
    decide
  · have spelled : segments createdText.name = [] ++ [createdText.name] := by decide
    have resolved : events.resolve? createdText.name =
        some ⟨⟨"events", created.name⟩, [], created.kind, false⟩ :=
      resolve?_eq_some.mpr
        ⟨[], createdText.name, [], "events", events, created, spelled, by decide, rfl, found, rfl⟩
    rw [resolved]
    rfl

end TableSchema

end FieldQuery

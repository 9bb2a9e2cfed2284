import FieldQuery.Proofs.Answers
import FieldQuery.Table.Chain
import FieldQuery.Table.Visiting
import Mathlib.Data.Finset.Dedup
import Mathlib.Data.List.Nodup

/-!
# Schemas of a catalog

A catalog may lead round in circles, and still every reading of it ends: a table is read only if its
name is not in the set, and each table on the way puts a new name into the set. What is read is told
by chains of names. Main statement: `reading_ends`.
-/
namespace FieldQuery.Catalog

variable {c : Catalog} {name start : String} {visited : List String} {t : CatalogTable}
  {keys : List ForeignKey} {relations : List Relation} {fault : QueryFault}

theorem schemaFrom_of_none (h : c.find? name = none) :
    c.schemaFrom visited name = .error (.parameter "table" (.unknownTable name)) := by
  rw [schemaFrom]
  split
  · rfl
  · rename_i found
    rw [h] at found
    cases found

theorem schemaFrom_of_some (h : c.find? name = some t) :
    c.schemaFrom visited name =
      (c.relationsFrom (name :: visited) t.foreignKeys fun _ hk => mem_targets h hk).map
        (t.toSchema name) := by
  rw [schemaFrom]
  split
  · rename_i missing
    rw [h] at missing
    cases missing
  · rename_i found
    obtain rfl : t = _ := Option.some.inj (h.symm.trans found)
    cases c.relationsFrom (name :: visited) t.foreignKeys _ <;> rfl

theorem schemaFrom_table {s : TableSchema} (h : c.schemaFrom visited name = .ok s) :
    s.table = name := by
  cases found : c.find? name with
  | none => cases (schemaFrom_of_none found).symm.trans h
  | some t =>
    rw [schemaFrom_of_some found] at h
    obtain ⟨relations, -, rfl⟩ := map_ok_iff.mp h
    rfl

theorem relationsFrom_ok (hk : ∀ k ∈ keys, k.table ∈ c.targets)
    (h : c.relationsFrom visited keys hk = .ok relations) :
    List.Forall₂ (fun k r => k.Gives r ∧ c.schemaFrom visited k.table = .ok r.target)
      (keys.filter (·.table ∉ visited)) relations := by
  induction keys generalizing relations with
  | nil =>
    rw [relationsFrom] at h
    cases h
    exact .nil
  | cons k rest ih =>
    have later : ∀ k ∈ rest, k.table ∈ c.targets := fun k mem => hk k (List.mem_cons_of_mem _ mem)
    rw [relationsFrom] at h
    split at h
    · rename_i back
      rw [List.filter_cons_of_neg (by simpa using back)]
      exact ih later h
    · rename_i on
      obtain ⟨target, read, h⟩ := bind_ok_iff.mp h
      obtain ⟨others, done, h⟩ := bind_ok_iff.mp h
      cases h
      rw [List.filter_cons_of_pos (by simpa using on)]
      exact .cons ⟨⟨rfl, rfl, rfl, schemaFrom_table read⟩, read⟩ (ih later done)

theorem relationsFrom_error (hk : ∀ k ∈ keys, k.table ∈ c.targets)
    (h : c.relationsFrom visited keys hk = .error fault) :
    ∃ k ∈ keys, k.table ∉ visited ∧ c.schemaFrom visited k.table = .error fault := by
  induction keys with
  | nil =>
    rw [relationsFrom] at h
    cases h
  | cons k rest ih =>
    have later : ∀ k ∈ rest, k.table ∈ c.targets := fun k mem => hk k (List.mem_cons_of_mem _ mem)
    have further (h : c.relationsFrom visited rest later = .error fault) :
        ∃ x ∈ k :: rest, x.table ∉ visited ∧ c.schemaFrom visited x.table = .error fault := by
      obtain ⟨x, mem, on, read⟩ := ih later h
      exact ⟨x, List.mem_cons_of_mem k mem, on, read⟩
    rw [relationsFrom] at h
    split at h
    · exact further h
    · rename_i on
      rcases bind_error_iff.mp h with read | ⟨target, -, h⟩
      · exact ⟨k, List.mem_cons_self, on, read⟩
      · rcases bind_error_iff.mp h with others | ⟨others, -, h⟩
        · exact further others
        · cases h

/-- A table that was read has a relation for each of its keys that leads on, and the target was
read with the table among the names on the way. -/
theorem schemaFrom_ok {s : TableSchema} (h : c.schemaFrom visited name = .ok s) :
    ∃ t, c.find? name = some t ∧ s = t.toSchema name s.relations ∧
      List.Forall₂ (fun k r => k.Gives r ∧ c.schemaFrom (name :: visited) k.table = .ok r.target)
        (t.foreignKeys.filter (·.table ∉ name :: visited)) s.relations := by
  cases found : c.find? name with
  | none => cases (schemaFrom_of_none found).symm.trans h
  | some t =>
    rw [schemaFrom_of_some found] at h
    obtain ⟨relations, done, rfl⟩ := map_ok_iff.mp h
    exact ⟨t, rfl, rfl, relationsFrom_ok _ done⟩

/-- A table that cannot be read is missing, or a key of it leads on to one that cannot be read. -/
theorem schemaFrom_error (h : c.schemaFrom visited name = .error fault) :
    (c.find? name = none ∧ fault = .parameter "table" (.unknownTable name)) ∨
      ∃ t, c.find? name = some t ∧ ∃ k ∈ t.foreignKeys, k.table ∉ name :: visited ∧
        c.schemaFrom (name :: visited) k.table = .error fault := by
  cases found : c.find? name with
  | none => exact .inl ⟨rfl, (Except.error.inj ((schemaFrom_of_none found).symm.trans h)).symm⟩
  | some t =>
    rw [schemaFrom_of_some found] at h
    cases done : c.relationsFrom (name :: visited) t.foreignKeys _ with
    | ok relations =>
      rw [done] at h
      cases h
    | error other =>
      rw [done] at h
      cases h
      exact .inr ⟨t, rfl, relationsFrom_error _ done⟩

namespace Settles

variable {visiting kept : Finset String} {k : ForeignKey} {rest : List ForeignKey}
  {answer : Answer (List Relation)} {target : TableSchema}

theorem back (taken : k.table ∈ visiting)
    (others : Settles (c.ReadsKeys visiting rest) answer kept) :
    Settles (c.ReadsKeys visiting (k :: rest)) answer kept := by
  obtain ⟨left, done⟩ := others.ends
  refine ⟨⟨left, .back taken done⟩, ?_⟩
  intro other left reads
  cases reads with
  | back _ reads => exact others.only _ _ reads
  | failed on _ => exact absurd taken on
  | follow on _ _ => exact absurd taken on

theorem failed (on : k.table ∉ visiting)
    (table : Settles (c.ReadsTable visiting k.table) (.error fault) kept) :
    Settles (c.ReadsKeys visiting (k :: rest)) (.error fault) kept := by
  obtain ⟨left, done⟩ := table.ends
  refine ⟨⟨left, .failed on done⟩, ?_⟩
  intro other left reads
  cases reads with
  | back taken _ => exact absurd taken on
  | failed _ reads =>
    obtain ⟨same, -⟩ := table.only _ _ reads
    cases same
    exact ⟨rfl, nofun⟩
  | follow _ reads _ =>
    obtain ⟨same, -⟩ := table.only _ _ reads
    cases same

theorem follow (on : k.table ∉ visiting)
    (table : Settles (c.ReadsTable visiting k.table) (.ok target) visiting)
    (others : Settles (c.ReadsKeys visiting rest) answer kept) :
    Settles (c.ReadsKeys visiting (k :: rest))
      (answer.map (⟨k.relationName, k.localKey, k.foreignKey.getD "id", target⟩ :: ·)) kept := by
  obtain ⟨next, done⟩ := table.ends
  obtain rfl : next = visiting := (table.only _ _ done).2 target rfl
  obtain ⟨left, further⟩ := others.ends
  refine ⟨⟨left, .follow on done further⟩, ?_⟩
  intro other left reads
  cases reads with
  | back taken _ => exact absurd taken on
  | failed _ reads =>
    obtain ⟨same, -⟩ := table.only _ _ reads
    cases same
  | follow _ reads last =>
    obtain ⟨same, keeps⟩ := table.only _ _ reads
    cases same
    obtain rfl := keeps target rfl
    obtain ⟨rfl, left_eq⟩ := others.only _ _ last
    refine ⟨rfl, ?_⟩
    intro all h
    obtain ⟨relations, answered, -⟩ := map_ok_iff.mp h
    exact left_eq relations answered

theorem missing (nowhere : c.find? name = none) :
    Settles (c.ReadsTable visiting name) (.error (.parameter "table" (.unknownTable name)))
      kept := by
  refine ⟨⟨_, .missing nowhere⟩, ?_⟩
  intro other left reads
  cases reads with
  | missing _ => exact ⟨rfl, nofun⟩
  | failed found _ => cases nowhere.symm.trans found
  | read found _ => cases nowhere.symm.trans found

/-- A table goes out of the set that its keys have left behind. -/
theorem table (found : c.find? name = some t)
    (keys : Settles (c.ReadsKeys (insert name visiting) t.foreignKeys) answer kept) :
    Settles (c.ReadsTable visiting name) (answer.map (t.toSchema name)) (kept.erase name) := by
  obtain ⟨left, done⟩ := keys.ends
  constructor
  · cases answer with
    | error fault => exact ⟨left, .failed found done⟩
    | ok relations => exact ⟨left.erase name, .read found done⟩
  · intro other left reads
    cases reads with
    | missing nowhere => cases nowhere.symm.trans found
    | failed again reads =>
      cases again.symm.trans found
      obtain ⟨rfl, -⟩ := keys.only _ _ reads
      exact ⟨rfl, nofun⟩
    | read again reads =>
      cases again.symm.trans found
      obtain ⟨rfl, left_eq⟩ := keys.only _ _ reads
      exact ⟨rfl, fun _ _ => congrArg (Finset.erase · name) (left_eq _ rfl)⟩

end Settles

/-- Keys leave the set as it is if each table that they lead on to does. -/
theorem readsKeys_settles (hk : ∀ k ∈ keys, k.table ∈ c.targets)
    (tables : ∀ k ∈ keys, k.table ∉ visited → Settles (c.ReadsTable visited.toFinset k.table)
      (c.schemaFrom visited k.table) visited.toFinset) :
    Settles (c.ReadsKeys visited.toFinset keys) (c.relationsFrom visited keys hk)
      visited.toFinset := by
  induction keys with
  | nil =>
    rw [relationsFrom]
    refine ⟨⟨_, .done⟩, ?_⟩
    rintro _ _ ⟨⟩
    exact ⟨rfl, fun _ _ => rfl⟩
  | cons k rest ih =>
    have others := ih (fun k mem => hk k (List.mem_cons_of_mem _ mem))
      fun k mem => tables k (List.mem_cons_of_mem _ mem)
    rw [relationsFrom]
    by_cases taken : k.table ∈ visited
    · rw [dif_pos taken]
      exact others.back (List.mem_toFinset.mpr taken)
    · rw [dif_neg taken]
      have on : k.table ∉ visited.toFinset := mt List.mem_toFinset.mp taken
      have target := tables k List.mem_cons_self taken
      cases read : c.schemaFrom visited k.table with
      | error fault => exact .failed on (read ▸ target)
      | ok schema => exact .follow on (read ▸ target) others

/-- A reading ends. The table itself is out of the set again once it is read. -/
theorem readsTable_settles (c : Catalog) (visited : List String) (name : String) :
    Settles (c.ReadsTable visited.toFinset name) (c.schemaFrom visited name)
      ((insert name visited.toFinset).erase name) := by
  -- by the targets that are not among the names on the way: each table leaves fewer of them
  induction size : c.unvisited (name :: visited) using Nat.strongRecOn
    generalizing visited name with
  | ind n ih =>
    cases found : c.find? name with
    | none =>
      rw [schemaFrom_of_none found]
      exact .missing found
    | some t =>
      have keys : Settles (c.ReadsKeys (name :: visited).toFinset t.foreignKeys)
          (c.relationsFrom (name :: visited) t.foreignKeys fun _ hk => mem_targets found hk)
          (name :: visited).toFinset := by
        refine readsKeys_settles _ ?_
        intro k mem on
        have fewer := unvisited_cons_lt (mem_targets found mem) on
        have fresh : k.table ∉ (name :: visited).toFinset := mt List.mem_toFinset.mp on
        have deeper := ih _ (size ▸ fewer) (name :: visited) k.table rfl
        rwa [Finset.erase_insert fresh] at deeper
      rw [List.toFinset_cons] at keys
      rw [schemaFrom_of_some found]
      exact .table found keys

/-- Whatever set a reading begins with, as long as the table is not yet in it. -/
theorem readsTable_settles_of_notMem {visiting : Finset String} (fresh : name ∉ visiting) :
    Settles (c.ReadsTable visiting name) (c.schemaFrom visiting.toList name) visiting := by
  have read := readsTable_settles c visiting.toList name
  rwa [Finset.toList_toFinset, Finset.erase_insert fresh] at read

/-- Every table in a schema was read by way of the names on the chain to it, none of them twice. -/
theorem schemaFrom_of_holds {base s : TableSchema} {chain : List String}
    (h : c.schema start = .ok base) (held : base.Holds chain s) :
    ∃ visited, chain = s.table :: visited ∧ chain.Nodup ∧
      c.schemaFrom visited s.table = .ok s := by
  induction held with
  | base =>
    refine ⟨[], rfl, List.nodup_singleton _, ?_⟩
    rw [schemaFrom_table h]
    exact h
  | @related chain s r _ mem ih =>
    obtain ⟨visited, rfl, distinct, read⟩ := ih
    obtain ⟨t, -, -, each⟩ := schemaFrom_ok read
    obtain ⟨k, key, gives, target⟩ := exists_of_mem_right each mem
    have on : k.table ∉ s.table :: visited := of_decide_eq_true (List.mem_filter.mp key).2
    rw [← gives.target] at on target
    exact ⟨s.table :: visited, rfl, List.nodup_cons.mpr ⟨on, distinct⟩, target⟩

/-- If a table can be read, so can every table that a walk from it comes to. -/
theorem schemaFrom_of_walk {base : TableSchema} {chain : List String}
    (h : c.schema start = .ok base) (walk : c.Walk start chain) :
    ∃ name visited s, chain = name :: visited ∧ c.schemaFrom visited name = .ok s := by
  induction walk with
  | start => exact ⟨start, [], base, rfl, h⟩
  | @follow name visited t k _ found key on ih =>
    obtain ⟨_, _, s, same, read⟩ := ih
    cases same
    obtain ⟨u, again, -, each⟩ := schemaFrom_ok read
    cases found.symm.trans again
    have kept : k ∈ t.foreignKeys.filter (·.table ∉ name :: visited) :=
      List.mem_filter.mpr ⟨key, decide_eq_true on⟩
    obtain ⟨r, -, -, target⟩ := exists_of_mem_left each kept
    exact ⟨k.table, name :: visited, r.target, rfl, target⟩

/-- Where a reading fails, a walk from there on comes to a table that is missing. -/
theorem missing_of_error {name : String} {visited : List String}
    (walk : c.Walk start (name :: visited)) (h : c.schemaFrom visited name = .error fault) :
    ∃ missing way, c.Walk start (missing :: way) ∧ c.find? missing = none ∧
      fault = .parameter "table" (.unknownTable missing) := by
  induction size : c.unvisited (name :: visited) using Nat.strongRecOn
    generalizing visited name with
  | ind n ih =>
    rcases schemaFrom_error h with ⟨missing, same⟩ | ⟨t, found, k, key, on, further⟩
    · exact ⟨name, visited, walk, missing, same⟩
    · have fewer := unvisited_cons_lt (mem_targets found key) on
      exact ih _ (size ▸ fewer) (walk.follow found key on) further rfl

/-- Reading a table ends whatever the catalog is, with the schema as its answer, and leaves the set
of names as it was; so does each reading inside it. The schema has no name twice on any chain of
relations; each table on a chain has just the relations of its keys that do not lead back into the
chain, in order. There is no schema exactly if a walk along keys comes to a table that is
missing. -/
theorem reading_ends (c : Catalog) (start : String) :
    Settles (c.ReadsTable ∅ start) (c.schema start) ∅ ∧
    (∀ name visiting, name ∉ visiting →
      ∃ answer, Settles (c.ReadsTable visiting name) answer visiting) ∧
    (∀ base, c.schema start = .ok base → base.table = start ∧
      ∀ chain s, base.Holds chain s → chain.Nodup ∧ ∃ t, c.find? s.table = some t ∧
        s = t.toSchema s.table s.relations ∧
        List.Forall₂ ForeignKey.Gives (t.foreignKeys.filter (·.table ∉ chain)) s.relations) ∧
    ((∃ fault, c.schema start = .error fault) ↔
      ∃ name visited, c.Walk start (name :: visited) ∧ c.find? name = none) := by
  refine ⟨?_, ?_, ?_, ?_⟩
  · have read := readsTable_settles c [] start
    rwa [List.toFinset_nil, Finset.erase_insert (Finset.notMem_empty start)] at read
  · intro name visiting fresh
    exact ⟨_, readsTable_settles_of_notMem fresh⟩
  · intro base h
    refine ⟨schemaFrom_table h, ?_⟩
    intro chain s held
    obtain ⟨visited, rfl, distinct, read⟩ := schemaFrom_of_holds h held
    obtain ⟨t, found, same, each⟩ := schemaFrom_ok read
    exact ⟨distinct, t, found, same, each.imp fun k r both => both.1⟩
  · constructor
    · rintro ⟨fault, h⟩
      obtain ⟨name, visited, walk, missing, -⟩ := missing_of_error .start h
      exact ⟨name, visited, walk, missing⟩
    · rintro ⟨name, visited, walk, missing⟩
      cases h : c.schema start with
      | error fault => exact ⟨fault, rfl⟩
      | ok base =>
        obtain ⟨_, _, s, same, read⟩ := schemaFrom_of_walk h walk
        cases same
        obtain ⟨t, found, -⟩ := schemaFrom_ok read
        cases missing.symm.trans found

namespace TwoWays

def users : CatalogTable := ⟨"users", [⟨"id", "INTEGER", false, 1⟩],
  [⟨"organization_id", "organizations", none⟩, ⟨"country_id", "countries", some "code"⟩]⟩

def organizations : CatalogTable := ⟨"organizations", [⟨"id", "INTEGER", false, 1⟩],
  [⟨"country_id", "countries", some "code"⟩, ⟨"parent_id", "organizations", none⟩]⟩

def countries : CatalogTable :=
  ⟨"countries", [⟨"code", "TEXT", true, 1⟩], [⟨"founder_id", "users", none⟩]⟩

end TwoWays

/-- Two ways lead from users to countries, one of them by way of organizations; countries lead
back to users, and organizations to themselves. -/
def twoWays : Catalog := [TwoWays.users, TwoWays.organizations, TwoWays.countries]

open TwoWays in
theorem reading_ends_twoWays : ∃ base, twoWays.schema "users" = .ok base ∧
    twoWays.ReadsTable ∅ "users" (.ok base) ∅ ∧
    (∃ s, base.Holds ["countries", "organizations", "users"] s) ∧
    (∃ s, base.Holds ["countries", "users"] s) ∧
    ∀ name visited, twoWays.Walk "users" (name :: visited) → twoWays.find? name ≠ none := by
  have last {visited : List String} (back : "users" ∈ visited) :
      twoWays.schemaFrom visited "countries" = .ok (countries.toSchema "countries" []) := by
    rw [schemaFrom_of_some (t := countries) (by decide)]
    simp [countries, relationsFrom, back, Except.map]
  obtain ⟨middle, read, country⟩ : ∃ s, twoWays.schemaFrom ["users"] "organizations" = .ok s ∧
      ∃ r ∈ s.relations, r.target.table = "countries" := by
    rw [schemaFrom_of_some (t := organizations) (by decide)]
    simp [organizations, relationsFrom, last, Except.map, Bind.bind, Except.bind,
      CatalogTable.toSchema]
  obtain ⟨base, done, organization, direct⟩ : ∃ s, twoWays.schema "users" = .ok s ∧
      (∃ r ∈ s.relations, r.target = middle) ∧ ∃ r ∈ s.relations, r.target.table = "countries" := by
    rw [schema, schemaFrom_of_some (t := users) (by decide)]
    simp [users, relationsFrom, last, read, Except.map, Bind.bind, Except.bind,
      CatalogTable.toSchema]
  obtain ⟨ends, -, chains, fails⟩ := reading_ends twoWays "users"
  have table : base.table = "users" := (chains base done).1
  have start : base.Holds [base.table] base := .base
  refine ⟨base, done, ?_, ?_, ?_, ?_⟩
  · rw [done] at ends
    obtain ⟨left, reads⟩ := ends.ends
    obtain rfl : left = ∅ := (ends.only _ _ reads).2 base rfl
    exact reads
  · obtain ⟨r, mem, rfl⟩ := organization
    obtain ⟨last, further, there⟩ := country
    have way := (start.related mem).related further
    rw [there, schemaFrom_table read, table] at way
    exact ⟨_, way⟩
  · obtain ⟨r, mem, there⟩ := direct
    have way := start.related mem
    rw [there, table] at way
    exact ⟨_, way⟩
  · intro name visited walk missing
    obtain ⟨fault, failed⟩ := fails.mpr ⟨name, visited, walk, missing⟩
    cases done.symm.trans failed

end FieldQuery.Catalog

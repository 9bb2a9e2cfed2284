import FieldQuery.Record.Route
import Mathlib.Logic.ExistsUnique
import Mathlib.Tactic.Conv

/-!
# What descriptors read

A path leads through relations and embedded records to a field, and the descriptor found on the way
back reads exactly what its route leads to. Resolution is a finite tree of calls, even where record
types refer to each other in circles. Main statement: `RecordModel.descriptors_read_routes`.
-/
namespace FieldQuery

variable {Kind : Type} {Item : Kind → Type} {R S : Type}

namespace RecordEntry

variable {entries parts rest : List (RecordEntry Item R)} {e : RecordEntry Item R} {wanted : String}
  {use : RecordEntry Item R → Option (FieldDescriptor R)} {i start : Nat} {d : FieldDescriptor R}

theorem firstWhere_eq_some {p : RecordEntry Item R → Bool}
    (h : firstWhere p start entries = some (i, e)) :
    ∃ j, i = start + j ∧ entries[j]? = some e ∧ p e = true := by
  induction entries generalizing start with
  | nil => cases h
  | cons first rest ih =>
    unfold firstWhere at h
    split at h
    case isTrue met =>
      cases h
      exact ⟨0, rfl, rfl, met⟩
    case isFalse =>
      obtain ⟨j, rfl, there, met⟩ := ih h
      exact ⟨j + 1, by omega, there, met⟩

/-- An entry found by name is where it is said to be, and is no embedded record. -/
theorem entry_of_named (h : named wanted entries = some (i, e)) :
    entries[i]? = some e ∧ ∀ parts, e ≠ embed parts := by
  unfold named at h
  rw [Option.orElse_eq_orElse, Option.orElse_eq_or, Option.or_eq_some_iff] at h
  rcases h with h | ⟨-, h⟩
  all_goals
    obtain ⟨j, rfl, there, met⟩ := firstWhere_eq_some h
    refine ⟨(Nat.zero_add j).symm ▸ there, ?_⟩
    rintro parts rfl
    cases met

theorem searchParts_embed : searchParts wanted use i (embed parts :: rest) =
    ((search wanted use parts).map (·.under i)).or (searchParts wanted use (i + 1) rest) := by
  rw [searchParts, search, Option.orElse_eq_orElse, Option.orElse_eq_or]
  cases named wanted parts with
  | none => rfl
  | some found => simp only [Option.map_map, Function.comp_def]

/-- What is found in embedded records is found in the first one that has it. -/
theorem searchParts_eq_some (h : searchParts wanted use start entries = some d) :
    ∃ j parts inner, entries[j]? = some (embed parts) ∧ search wanted use parts = some inner ∧
      d = inner.under (start + j) ∧
      ∀ k others, k < j → entries[k]? = some (embed others) → search wanted use others = none := by
  induction entries generalizing start with
  | nil =>
    rw [searchParts] at h
    cases h
  | cons first rest ih =>
    -- what is found further on is found after the first entry
    have later (h : searchParts wanted use (start + 1) rest = some d)
        (before : ∀ others, first = embed others → search wanted use others = none) :
        ∃ j parts inner, (first :: rest)[j]? = some (embed parts) ∧
          search wanted use parts = some inner ∧ d = inner.under (start + j) ∧
          ∀ k others, k < j → (first :: rest)[k]? = some (embed others) →
            search wanted use others = none := by
      obtain ⟨j, parts, inner, there, found, rfl, none⟩ := ih h
      refine ⟨j + 1, parts, inner, there, found, by rw [Nat.add_right_comm, Nat.add_assoc], ?_⟩
      intro k others less at_
      cases k with
      | zero => exact before others (Option.some.inj at_)
      | succ k => exact none k others (Nat.lt_of_succ_lt_succ less) at_
    cases first with
    | field | relation =>
      rw [searchParts] at h
      refine later h ?_
      rintro others ⟨⟩
    | embed parts =>
      rw [searchParts_embed, Option.or_eq_some_iff, Option.map_eq_some_iff,
        Option.map_eq_none_iff] at h
      rcases h with ⟨inner, found, rfl⟩ | ⟨absent, h⟩
      · exact ⟨0, parts, inner, rfl, found, rfl, fun k _ less => absurd less (Nat.not_lt_zero k)⟩
      · refine later h ?_
        rintro others ⟨⟩
        exact absent

theorem searchParts_eq_none (h : searchParts wanted use start entries = none) (k : Nat)
    (others : List (RecordEntry Item R)) (there : entries[k]? = some (embed others)) :
    search wanted use others = none := by
  induction entries generalizing start k with
  | nil => cases there
  | cons first rest ih =>
    have split : (∀ parts, first = embed parts → search wanted use parts = none) ∧
        searchParts wanted use (start + 1) rest = none := by
      cases first with
      | field | relation =>
        rw [searchParts] at h
        refine ⟨?_, h⟩
        rintro others ⟨⟩
      | embed parts =>
        rw [searchParts_embed, Option.or_eq_none_iff, Option.map_eq_none_iff] at h
        refine ⟨?_, h.2⟩
        rintro _ ⟨⟩
        exact h.1
    cases k with
    | zero => exact split.1 others (Option.some.inj there)
    | succ k => exact ih split.2 k there

end RecordEntry

namespace RecordModel

open RecordEntry

variable {M : RecordModel} {entries : List (RecordEntry M.Item R)} {segments : List String}

/-- A search makes the calls of a resolution, if what it does with an entry of the name does. -/
theorem resolves_search {head : String} {rest : List String} (spelled : head ≠ "")
    {use : RecordEntry M.Item R → Option (FieldDescriptor R)}
    (step : ∀ entries i e, named head entries = some (i, e) →
      M.Resolves entries (head :: rest) ((use e).map (·.under i)))
    (entries : List (RecordEntry M.Item R)) :
    M.Resolves entries (head :: rest) (search head use entries) := by
  unfold search
  cases byName : named head entries with
  | some found => exact step entries found.1 found.2 byName
  | none =>
    -- an embedded record is smaller than the record it is part of
    have inner (j : Nat) (others : List (RecordEntry M.Item R))
        (there : entries[j]? = some (.embed others)) :
        M.Resolves others (head :: rest) (search head use others) :=
      have : sizeOf others < sizeOf entries := by
        have member := List.sizeOf_lt_of_mem (List.mem_of_getElem? there)
        simp only [RecordEntry.embed.sizeOf_spec] at member
        omega
      resolves_search spelled step others
    change M.Resolves entries (head :: rest) (searchParts head use 0 entries)
    cases result : searchParts head use 0 entries with
    | none =>
      refine .nowhere spelled byName ?_
      intro j others there
      exact searchParts_eq_none result j others there ▸ inner j others there
    | some d =>
      obtain ⟨i, parts, d, there, found, rfl, before⟩ := searchParts_eq_some result
      rw [Nat.zero_add]
      refine .embedded spelled byName there (found ▸ inner i parts there) ?_
      intro j others less at_
      exact before j others less at_ ▸ inner j others at_
termination_by sizeOf entries

/-- Every path is resolved by finitely many calls, with the result that `find` gives. -/
theorem resolves_find (segments : List String) (there : segments ≠ []) (k : M.Kind) :
    M.Resolves (M.entries k) segments (M.find segments k) := by
  induction segments generalizing k with
  | nil => exact absurd rfl there
  | cons head rest ih =>
    unfold find
    split
    case isTrue empty =>
      rw [String.isEmpty_iff] at empty
      exact empty ▸ .blank
    case isFalse spelled =>
      rw [String.isEmpty_iff] at spelled
      refine resolves_search spelled ?_ _
      intro entries i e named
      cases e with
      | field =>
        cases rest with
        | nil => exact .field spelled named
        | cons next rest => exact .beyondField spelled named
      | relation name external target get =>
        cases rest with
        | nil => exact .atRelation spelled named
        | cons next rest =>
          rw [Option.map_map]
          exact .relation spelled named (ih (List.cons_ne_nil next rest) target)
      | embed parts => exact absurd rfl ((entry_of_named named).2 parts)

/-- A resolution has one result only. -/
theorem Resolves.unique {a b : Option (FieldDescriptor R)} (first : M.Resolves entries segments a)
    (second : M.Resolves entries segments b) : a = b := by
  induction first with
  | blank =>
    cases second with
    | blank => rfl
    | _ => contradiction
  | field spelled named =>
    cases second with
    | blank => contradiction
    | field _ named' =>
      cases named.symm.trans named'
      rfl
    | atRelation _ named' => cases named.symm.trans named'
    | embedded _ unnamed | nowhere _ unnamed => cases named.symm.trans unnamed
  | beyondField spelled named =>
    cases second with
    | relation _ named' => cases named.symm.trans named'
    | embedded _ unnamed => cases named.symm.trans unnamed
    | _ => rfl
  | relation spelled named beyond ih =>
    cases second with
    | blank => contradiction
    | beyondField _ named' => cases named.symm.trans named'
    | relation _ named' beyond' =>
      cases named.symm.trans named'
      rw [ih beyond']
    | embedded _ unnamed | nowhere _ unnamed => cases named.symm.trans unnamed
  | atRelation spelled named =>
    cases second with
    | field _ named' => cases named.symm.trans named'
    | embedded _ unnamed => cases named.symm.trans unnamed
    | _ => rfl
  | @embedded R entries parts head rest i d spelled unnamed there found before ihFound ihBefore =>
    cases second with
    | blank => contradiction
    | field _ named | beyondField _ named | relation _ named | atRelation _ named =>
      cases unnamed.symm.trans named
    | @embedded _ _ parts' _ _ i' d' _ _ there' found' before' =>
      -- neither result comes from an embedded record before the other one
      rcases Nat.lt_trichotomy i i' with less | rfl | more
      · cases ihFound (before' i parts less there)
      · cases there.symm.trans there'
        cases ihFound found'
        rfl
      · cases ihBefore i' parts' more there' found'
    | nowhere _ _ all => cases ihFound (all i parts there)
  | @nowhere R entries head rest spelled unnamed all ih =>
    cases second with
    | blank => rfl
    | field _ named | relation _ named => cases unnamed.symm.trans named
    | embedded _ _ there found => cases ih _ _ there found
    | _ => rfl

section Steps

variable {route : List Nat} {i : Nat} {r : R} {kind : FieldKind} {optional : Bool}
  {parts : List (RecordEntry M.Item R)} {name : String} {external : Option String}
  {target : M.Kind} {get : R → Option (M.Item target)}

theorem valueAt_relation (there : entries[i]? = some (.relation name external target get))
    (more : route ≠ []) : M.valueAt (i :: route) entries r =
      match get r with
      | some s => M.valueAt route (M.entries target) s
      | none => some .null := by
  cases route with
  | nil => exact absurd rfl more
  | cons =>
    conv_lhs => unfold valueAt
    rewrite [there]
    rfl

theorem valueAt_embed (there : entries[i]? = some (.embed parts)) (more : route ≠ []) :
    M.valueAt (i :: route) entries r = M.valueAt route parts r := by
  cases route with
  | nil => exact absurd rfl more
  | cons =>
    conv_lhs => unfold valueAt
    rw [there]

theorem leafAt_relation (there : entries[i]? = some (.relation name external target get))
    (more : route ≠ []) : M.leafAt (i :: route) entries = M.leafAt route (M.entries target) := by
  cases route with
  | nil => exact absurd rfl more
  | cons =>
    conv_lhs => unfold leafAt
    rw [there]

theorem leafAt_embed (there : entries[i]? = some (.embed parts)) (more : route ≠ []) :
    M.leafAt (i :: route) entries = M.leafAt route parts := by
  cases route with
  | nil => exact absurd rfl more
  | cons =>
    conv_lhs => unfold leafAt
    rw [there]

theorem crossesAt_relation (there : entries[i]? = some (.relation name external target get)) :
    M.crossesAt (i :: route) entries = true := by
  rw [crossesAt, there]

theorem crossesAt_embed (there : entries[i]? = some (.embed parts)) :
    M.crossesAt (i :: route) entries = M.crossesAt route parts := by
  rw [crossesAt, there]

theorem missingAt_relation (there : entries[i]? = some (.relation name external target get)) :
    M.missingAt (i :: route) entries r =
      match get r with
      | some s => M.missingAt route (M.entries target) s
      | none => true := by
  conv_lhs => unfold missingAt
  rewrite [there]
  rfl

theorem missingAt_embed (there : entries[i]? = some (.embed parts)) :
    M.missingAt (i :: route) entries r = M.missingAt route parts r := by
  rw [missingAt, there]

/-- A route to a field goes on after a relation or an embedded record, and only there. -/
theorem leafAt_cases (ends : M.leafAt (i :: route) entries = some (kind, optional)) :
    (route = [] ∧ ∃ name external get,
      entries[i]? = some (.field name external kind optional get)) ∨
    (route ≠ [] ∧ ∃ name external target get,
      entries[i]? = some (.relation name external target get)) ∨
    (route ≠ [] ∧ ∃ parts, entries[i]? = some (.embed parts)) := by
  unfold leafAt at ends
  split at ends
  case h_1 name external kind' nullable get there =>
    cases ends
    exact .inl ⟨rfl, name, external, get, there⟩
  case h_2 name external target get j rest there =>
    exact .inr (.inl ⟨List.cons_ne_nil j rest, name, external, target, get, there⟩)
  case h_3 parts j rest there => exact .inr (.inr ⟨List.cons_ne_nil j rest, parts, there⟩)
  case h_4 => cases ends

end Steps

/-- A descriptor that reads what its route leads to, and knows what is on the way. -/
structure Reads (M : RecordModel) (entries : List (RecordEntry M.Item R))
    (d : FieldDescriptor R) : Prop where
  value : ∀ r, M.valueAt d.path entries r = some (d.get r)
  leaf : ∃ optional, M.leafAt d.path entries = some (d.kind, optional) ∧
    d.nullable = (M.crossesAt d.path entries || optional)

namespace Reads

variable {d : FieldDescriptor R} {i : Nat}

theorem path_ne_nil (reads : M.Reads entries d) : d.path ≠ [] := by
  obtain ⟨optional, leaf, -⟩ := reads.leaf
  intro path
  rw [path, leafAt] at leaf
  cases leaf

theorem field {name : String} {external : Option String} {kind : FieldKind} {nullable : Bool}
    {get : R → FieldValue} (there : entries[i]? = some (.field name external kind nullable get)) :
    M.Reads entries ⟨[i], kind, nullable, get⟩ where
  value r := by simp [valueAt, there]
  leaf := ⟨nullable, by simp [leafAt, there], by simp [crossesAt, there]⟩

theorem related {name : String} {external : Option String} {target : M.Kind}
    {get : R → Option (M.Item target)} {d : FieldDescriptor (M.Item target)}
    (there : entries[i]? = some (.relation name external target get))
    (reads : M.Reads (M.entries target) d) : M.Reads entries ((d.related get).under i) := by
  constructor
  case value =>
    intro r
    refine (valueAt_relation there reads.path_ne_nil).trans ?_
    simp only [FieldDescriptor.under, FieldDescriptor.related]
    cases get r with
    | none => rfl
    | some s => exact reads.value s
  case leaf =>
    obtain ⟨optional, leaf, -⟩ := reads.leaf
    refine ⟨optional, (leafAt_relation there reads.path_ne_nil).trans leaf, ?_⟩
    change true = (M.crossesAt (i :: d.path) entries || optional)
    simp [crossesAt_relation there]

theorem embedded {parts : List (RecordEntry M.Item R)} (there : entries[i]? = some (.embed parts))
    (reads : M.Reads parts d) : M.Reads entries (d.under i) := by
  constructor
  case value =>
    intro r
    exact (valueAt_embed there reads.path_ne_nil).trans (reads.value r)
  case leaf =>
    obtain ⟨optional, leaf, nullable⟩ := reads.leaf
    refine ⟨optional, (leafAt_embed there reads.path_ne_nil).trans leaf, ?_⟩
    change d.nullable = (M.crossesAt (i :: d.path) entries || optional)
    simp [crossesAt_embed there, nullable]

end Reads

/-- What a resolution finds reads what its route leads to. -/
theorem Resolves.reads {found : Option (FieldDescriptor R)}
    (resolves : M.Resolves entries segments found) : ∀ d ∈ found, M.Reads entries d := by
  induction resolves with
  | blank | beyondField | atRelation | nowhere => exact nofun
  | field _ named =>
    rintro d ⟨⟩
    exact .field (entry_of_named named).1
  | relation _ named _ ih =>
    intro d member
    obtain ⟨inner, found, rfl⟩ := Option.map_eq_some_iff.mp member
    exact .related (entry_of_named named).1 (ih inner found)
  | embedded _ _ there _ _ ih =>
    rintro d ⟨⟩
    exact .embedded there (ih _ rfl)

variable {route : List Nat} {r : R} {kind : FieldKind} {optional : Bool} {v : FieldValue}

theorem valueAt_of_missingAt (ends : M.leafAt route entries = some (kind, optional))
    (missing : M.missingAt route entries r = true) : M.valueAt route entries r = some .null := by
  induction route generalizing R with
  | nil => cases ends
  | cons i route ih =>
    obtain ⟨rfl, name, external, get, there⟩ | ⟨more, name, external, target, get, there⟩ |
      ⟨more, parts, there⟩ := leafAt_cases ends
    · simp [missingAt, there] at missing
    · rw [leafAt_relation there more] at ends
      rw [missingAt_relation there] at missing
      rw [valueAt_relation there more]
      cases reached : get r with
      | none => rfl
      | some s =>
        rw [reached] at missing
        exact ih ends missing
    · rw [leafAt_embed there more] at ends
      rw [missingAt_embed there] at missing
      rw [valueAt_embed there more]
      exact ih ends missing

/-- At the end of a route through entries that hold what they say is a value of the kind of the
field, and null only if a relation is crossed or the field allows it. -/
theorem typed_at_end (model : ∀ k, ∀ e ∈ M.entries k, e.Typed) (typed : ∀ e ∈ entries, e.Typed)
    (ends : M.leafAt route entries = some (kind, optional))
    (value : M.valueAt route entries r = some v) :
    (v = .null → M.crossesAt route entries = true ∨ optional = true) ∧
      ∀ k, v.kind? = some k → k = kind := by
  induction route generalizing R with
  | nil => cases ends
  | cons i route ih =>
    obtain ⟨rfl, name, external, get, there⟩ | ⟨more, name, external, target, get, there⟩ |
      ⟨more, parts, there⟩ := leafAt_cases ends
    · simp only [valueAt, there, Option.some.injEq] at value
      subst value
      cases typed _ (List.mem_of_getElem? there) with
      | field missing held => exact ⟨fun null => .inr (missing r null), held r⟩
    · rw [leafAt_relation there more] at ends
      rw [valueAt_relation there more] at value
      refine ⟨fun _ => .inl (crossesAt_relation there), ?_⟩
      cases reached : get r with
      | none =>
        rw [reached] at value
        cases value
        exact nofun
      | some s =>
        rw [reached] at value
        exact (ih (model target) ends value).2
    · rw [leafAt_embed there more] at ends
      rw [valueAt_embed there more] at value
      rw [crossesAt_embed there]
      cases typed _ (List.mem_of_getElem? there) with
      | embed all => exact ih all ends value

end RecordModel

namespace FieldType.BuiltIn

variable {α : Type} [FieldType α]

theorem nullable_of_null (builtIn : BuiltIn α) {a : α} (null : FieldType.value a = .null) :
    FieldType.nullable α = true := by
  cases builtIn with
  | option => rfl
  | _ => cases null

theorem kind_of_value (builtIn : BuiltIn α) {a : α} {k : FieldKind}
    (held : (FieldType.value a).kind? = some k) : k = FieldType.kind α := by
  induction builtIn with
  | option inner ih =>
    cases a with
    | none => cases held
    | some b => exact ih held
  | _ =>
    cases held
    rfl

end FieldType.BuiltIn

theorem FieldValue.exists_kind {v : FieldValue} (there : v ≠ .null) : ∃ k, v.kind? = some k := by
  cases v with
  | null => exact absurd rfl there
  | _ => exact ⟨_, rfl⟩

namespace RecordEntry

variable {e : RecordEntry Item R}

theorem throughEach_eq_map (part : R → S) (entries : List (RecordEntry Item S)) :
    throughEach part entries = entries.map (through part) := by
  induction entries with
  | nil => rfl
  | cons first rest ih => rw [throughEach, ih, List.map_cons]

theorem Typed.through {part : R → S} {e : RecordEntry Item S} (typed : e.Typed) :
    (e.through part).Typed := by
  induction typed with
  | field missing held =>
    exact .field (fun r null => missing (part r) null) (fun r k found => held (part r) k found)
  | relation => exact .relation
  | embed all ih =>
    rw [RecordEntry.through, throughEach_eq_map]
    refine .embed ?_
    intro e member
    obtain ⟨inner, among, rfl⟩ := List.mem_map.mp member
    exact ih inner among

theorem Typed.renamed {external : String} (typed : e.Typed) : (e.renamed external).Typed := by
  cases typed with
  | field missing held => exact .field missing held
  | relation => exact .relation
  | embed all => exact .embed all

/-- What record types are made of holds what it says. -/
theorem Registered.typed (registered : e.Registered) : e.Typed := by
  induction registered with
  | field builtIn name get =>
    exact .field (fun _ null => builtIn.nullable_of_null null)
      (fun _ _ held => builtIn.kind_of_value held)
  | relation name target get => exact .relation
  | renamed external _ ih => exact ih.renamed
  | part part _ ih =>
    rw [ofPart, throughEach_eq_map]
    refine .embed ?_
    intro e member
    obtain ⟨inner, among, rfl⟩ := List.mem_map.mp member
    exact (ih inner among).through

end RecordEntry

theorem Text.pieces_ne_nil (sep : Char) (s : List Char) : pieces sep s ≠ [] := by
  cases s with
  | nil => exact List.cons_ne_nil _ _
  | cons c rest =>
    unfold pieces
    split
    · exact List.cons_ne_nil _ _
    · split <;> exact List.cons_ne_nil _ _

namespace RecordModel

variable {M : RecordModel} {k : M.Kind} {path : String}

def segments (path : String) : List String := (Text.pieces '.' path.toList).map String.ofList

theorem segments_ne_nil (path : String) : segments path ≠ [] := by
  simp [segments, Text.pieces_ne_nil]

theorem locate_eq_ok {d : FieldDescriptor (M.Item k)} :
    M.locate k path = .ok d ↔ M.find (segments path) k = some d := by
  unfold locate segments
  cases M.find ((Text.pieces '.' path.toList).map String.ofList) k <;> simp

/-- The resolution of a path comes to an end with one result, and locating a path gives that. -/
theorem locate_eq_ok_iff_resolves {d : FieldDescriptor (M.Item k)} :
    M.locate k path = .ok d ↔ M.Resolves (M.entries k) (segments path) (some d) := by
  have calls := resolves_find (segments path) (segments_ne_nil path) k
  rw [locate_eq_ok]
  constructor
  · intro found
    exact found ▸ calls
  · intro resolves
    exact calls.unique resolves

/-- In every family of record types made of fields of built-in types, relations and embedded
records, even if relations run in circles: each path has a finite resolution with one result, which
is what `locate` gives. A descriptor that it gives reads what its route leads to, null if a relation
on the way has no record; its kind is that of the field at the end, and it is nullable if and only
if the route crosses a relation or the field is optional. So null is read only from a descriptor
that says so, and any other value is of its kind. -/
theorem descriptors_read_routes (M : RecordModel)
    (registered : ∀ k, ∀ e ∈ M.entries k, e.Registered) (k : M.Kind) (path : String) :
    (∃! found, M.Resolves (M.entries k) (segments path) found) ∧
    (∀ d, M.locate k path = .ok d ↔ M.Resolves (M.entries k) (segments path) (some d)) ∧
    ∀ d, M.locate k path = .ok d →
      (∀ r, M.valueAt d.path (M.entries k) r = some (d.get r)) ∧
      (∀ r, M.missingAt d.path (M.entries k) r = true → d.get r = .null) ∧
      (∃ optional, M.leafAt d.path (M.entries k) = some (d.kind, optional) ∧
        (d.nullable = true ↔ M.crossesAt d.path (M.entries k) = true ∨ optional = true)) ∧
      (d.nullable = false → ∀ r, d.get r ≠ .null) ∧
      ∀ r, d.get r ≠ .null → (d.get r).kind? = some d.kind := by
  have calls := resolves_find (segments path) (segments_ne_nil path) k
  refine ⟨⟨_, calls, fun other resolves => resolves.unique calls⟩,
    fun d => locate_eq_ok_iff_resolves, ?_⟩
  intro d located
  have reads := (locate_eq_ok_iff_resolves.mp located).reads d rfl
  obtain ⟨optional, leaf, nullable⟩ := reads.leaf
  have nullable_iff : d.nullable = true ↔
      M.crossesAt d.path (M.entries k) = true ∨ optional = true := by
    rw [nullable, Bool.or_eq_true]
  have typed (r : M.Item k) := typed_at_end (r := r)
    (fun k e member => (registered k e member).typed)
    (fun e member => (registered k e member).typed) leaf (reads.value r)
  refine ⟨reads.value, ?_, ⟨optional, leaf, nullable_iff⟩, ?_, ?_⟩
  · intro r missing
    have value := reads.value r
    rw [valueAt_of_missingAt leaf missing] at value
    exact (Option.some.inj value).symm
  · intro never r null
    have may := nullable_iff.mpr ((typed r).1 null)
    rw [never] at may
    cases may
  · intro r there
    obtain ⟨kind, held⟩ := FieldValue.exists_kind there
    rw [held, (typed r).2 kind held]

end RecordModel

namespace Sample

structure Stamp where
  createdAt : Moment
  createdBy : String

structure Employee where
  name : String
  nickname : Option String
  age : Int
  manager : Option Employee
  stamp : Stamp

/-- Employees, whose managers are employees again. -/
abbrev staff : RecordModel where
  Kind := Unit
  Item _ := Employee
  title _ := "Employee"
  entries _ :=
    [.ofField "name" Employee.name, .renamed "alias" (.ofField "nickname" Employee.nickname),
      .ofField "age" Employee.age, .renamed "boss" (.toOne "manager" () Employee.manager),
      .ofPart Employee.stamp
        [.renamed "createdAt" (.ofField "created_at" Stamp.createdAt),
          .ofField "created_by" Stamp.createdBy]]

theorem registered_staff (k : staff.Kind) : ∀ e ∈ staff.entries k, e.Registered := by
  simp only [List.mem_cons, List.not_mem_nil, or_false, forall_eq_or_imp, forall_eq]
  refine ⟨.field .string _ _, .renamed _ (.field (.option .string) _ _), .field .int _ _,
    .renamed _ (.relation _ _ _), .part _ ?_⟩
  simp only [List.mem_cons, List.not_mem_nil, or_false, forall_eq_or_imp, forall_eq]
  exact ⟨.renamed _ (.field .moment _ _), .field .string _ _⟩

end Sample

open Sample in
theorem RecordModel.descriptors_read_routes_staff :
    (∀ k, ∀ e ∈ staff.entries k, e.Registered) ∧
    ∃ d, staff.locate () "Boss.manager.AGE" = .ok d ∧ d.path = [3, 3, 2] ∧ d.kind = .integer ∧
      d.nullable = true ∧
      (∀ r, staff.valueAt [3, 3, 2] (staff.entries ()) r = some (d.get r)) ∧
      ∀ r : Employee, r.manager = none → d.get r = .null := by
  obtain ⟨-, -, reads⟩ := descriptors_read_routes staff registered_staff () "Boss.manager.AGE"
  obtain ⟨value, missing, -⟩ := reads _ rfl
  refine ⟨registered_staff, _, rfl, rfl, rfl, rfl, value, ?_⟩
  intro r none
  refine missing r ((missingAt_relation rfl).trans ?_)
  rw [none]

end FieldQuery

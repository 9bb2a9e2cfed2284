import FieldQuery.Filter.Wire
import FieldQuery.Proofs.JsonText

/-!
# Filters are read back from JSON

A filter that is written as JSON and read again is the same filter. The reader may nest only so
deep, so every statement is about a value that stays within the depth that is left.
-/
namespace FieldQuery

open Draft

namespace Json

theorem put_fresh {key : String} (value : Json) {members : List (String × Json)}
    (fresh : key ∉ members.map (·.1)) : put key value members = members ++ [(key, value)] := by
  induction members with
  | nil => rfl
  | cons m rest ih =>
    obtain ⟨k, v⟩ := m
    simp only [List.map_cons, List.mem_cons, not_or] at fresh
    rw [put, if_neg fun same => fresh.1 same.symm, ih fresh.2]
    rfl

/-- Members with keys of their own are put one behind the other. -/
theorem foldl_put {done members : List (String × Json)}
    (distinct : ((done ++ members).map (·.1)).Nodup) :
    members.foldl (fun done (k, v) => put k v done) done = done ++ members := by
  induction members generalizing done with
  | nil => exact (List.append_nil done).symm
  | cons m rest ih =>
    obtain ⟨k, v⟩ := m
    have fresh : k ∉ done.map (·.1) := by
      intro mem
      rw [List.map_append, List.map_cons] at distinct
      exact (List.nodup_append.mp distinct).2.2 k mem k List.mem_cons_self rfl
    rw [List.foldl_cons]
    simp only
    rw [put_fresh v fresh, ih, List.append_assoc]
    · rfl
    · rwa [List.append_assoc]

end Json

namespace Draft

theorem inner_text {depth : Nat} (h : 1 < depth) :
    Origin.inner ⟨true, depth⟩ = .ok ⟨true, depth - 1⟩ := by
  rw [Origin.inner, if_neg (by simp), if_neg (by simpa using h)]

mutual

/-- The draft of a value is understood as the value, if that does not nest too deep. -/
theorem readAny_ofJson : ∀ j : Json, j.Faithful → ∀ depth, j.nesting < depth →
    readAny ⟨true, depth⟩ (ofJson j) = .ok j
  | .null, _, _, _ => rfl
  | .bool _, _, _, _ => rfl
  | .num _, _, _, _ => rfl
  | .str _, _, _, _ => rfl
  | .arr items, .arr h, depth, room => by
    rw [Json.nesting] at room
    rw [ofJson, readAny, inner_text (by omega)]
    exact bind_ok_iff.mpr ⟨_, rfl, bind_ok_iff.mpr
      ⟨items, readAnyItems_ofItems items h (depth - 1) (by omega), rfl⟩⟩
  | .obj members, .obj distinct h, depth, room => by
    rw [Json.nesting] at room
    rw [ofJson, readAny, inner_text (by omega)]
    refine bind_ok_iff.mpr ⟨_, rfl, bind_ok_iff.mpr
      ⟨members, readAnyMembers_ofMembers members h (depth - 1) (by omega), ?_⟩⟩
    exact congrArg (Except.ok ∘ Json.obj) (@Json.foldl_put [] members distinct)

theorem readAnyItems_ofItems : ∀ items : List Json, (∀ j ∈ items, j.Faithful) →
    ∀ depth, Json.nestingItems items < depth →
      readAnyItems ⟨true, depth⟩ true (ofItems items) = .ok items
  | [], _, _, _ => rfl
  | j :: rest, h, depth, room => by
    rw [Json.nestingItems] at room
    have first := readAny_ofJson j (h j List.mem_cons_self) depth (by omega)
    have more := readAnyItems_ofItems rest (fun x hx => h x (List.mem_cons_of_mem j hx)) depth
      (by omega)
    exact bind_ok_iff.mpr ⟨j, first, bind_ok_iff.mpr ⟨rest, more, rfl⟩⟩

theorem readAnyMembers_ofMembers : ∀ members : List (String × Json),
    (∀ p ∈ members, p.2.Faithful) → ∀ depth, Json.nestingMembers members < depth →
      readAnyMembers ⟨true, depth⟩ true (ofMembers members) = .ok members
  | [], _, _, _ => rfl
  | (k, v) :: rest, h, depth, room => by
    rw [Json.nestingMembers] at room
    have first := readAny_ofJson v (h _ List.mem_cons_self) depth (by omega)
    have more := readAnyMembers_ofMembers rest (fun x hx => h x (List.mem_cons_of_mem _ hx)) depth
      (by omega)
    exact bind_ok_iff.mpr ⟨v, first, bind_ok_iff.mpr ⟨rest, more, rfl⟩⟩

end

/-- A list of drafts is read element by element. -/
theorem readEach_ofItems {α : Type} {read : Draft → Read α} {write : α → Json} {l : List α}
    (h : ∀ a ∈ l, read (ofJson (write a)) = .ok a) :
    readEach read true (ofItems (l.map write)) = .ok l := by
  induction l with
  | nil => rfl
  | cons a rest ih =>
    have more := ih fun x hx => h x (List.mem_cons_of_mem a hx)
    exact bind_ok_iff.mpr ⟨a, h a List.mem_cons_self, bind_ok_iff.mpr ⟨rest, more, rfl⟩⟩

theorem readList_ofJson {α : Type} {depth : Nat} {read : Origin → Draft → Read α}
    {write : α → Json} {l : List α} (room : 1 < depth)
    (h : ∀ a ∈ l, read ⟨true, depth - 1⟩ (ofJson (write a)) = .ok a) :
    readList ⟨true, depth⟩ read (ofJson (.arr (l.map write))) = .ok l := by
  rw [ofJson, readList, inner_text room]
  exact readEach_ofItems h

end Draft

namespace Shape

variable {σ : Type} {sh : Shape σ} {o : Origin} {seen : List String}

/-- A member that is known and new is stored. -/
theorem readNamed_member {m : Member σ} {key : String} {v : Draft} {s s' : σ}
    (rest : List (Draft × Draft)) (known : sh.members.find? (key ∈ ·.names) = some m)
    (fresh : m.names.headD "" ∉ seen) (stored : m.store o v s = .ok s') :
    sh.readNamed o true seen ((.str (some key), v) :: rest) s =
      sh.readNamed o true (m.names.headD "" :: seen) rest s' := by
  rw [readNamed]
  simp only [known, if_neg fresh, stored]
  rfl

/-- A structure is read if its members are and none is missing. -/
theorem read_obj (seen : List String) {depth : Nat} (room : 1 < depth)
    {members : List (Draft × Draft)} {s : σ}
    (named : sh.readNamed ⟨true, depth - 1⟩ true [] members sh.start = .ok (seen, s))
    (complete : sh.missing seen = none) :
    sh.read ⟨true, depth⟩ (.obj members true) = .ok s := by
  rw [read, Draft.inner_text room]
  refine bind_ok_iff.mpr ⟨_, rfl, bind_ok_iff.mpr ⟨_, named, ?_⟩⟩
  simp only [complete]

end Shape

theorem Member.store_of {σ α : Type} {names : List String} {presence : Presence}
    {read : Origin → Draft → Draft.Read α} {put : α → σ → σ} {o : Origin} {d : Draft} {a : α}
    (h : read o d = .ok a) (s : σ) :
    (Member.of names presence read put).store o d s = .ok (put a s) := by
  simp only [Member.of, h, Except.map]

theorem Mode.readChoice_name (o : Origin) (m : Mode) :
    readChoice o Mode.choices (.str (some m.name)) = .ok m := by
  cases m <;> rfl

theorem DataType.readChoice_name (o : Origin) (d : DataType) :
    readChoice o DataType.choices (.str (some d.name)) = .ok d := by
  cases d <;> rfl

theorem Logic.parse_name (l : Logic) : Logic.parse l.name = l := by
  cases l <;> decide

theorem Direction.parse_name (d : Direction) : Direction.parse d.name = d := by
  cases d <;> rfl

theorem Term.nesting_toJson (t : Term) : t.toJson.nesting = t.value.nesting + 1 := by
  cases h : t.declared <;> simp [toJson, h, Json.nesting, Json.nestingMembers]

/-- A term is read back from its JSON. -/
theorem Term.read_toJson {t : Term} (h : t.value.Faithful) {depth : Nat}
    (room : t.toJson.nesting < depth) : Term.read ⟨true, depth⟩ (ofJson t.toJson) = .ok t := by
  rw [nesting_toJson] at room
  obtain ⟨field, value, mode, declared⟩ := t
  have known : readAny ⟨true, depth - 1⟩ (ofJson value) = .ok value :=
    readAny_ofJson value h _ (by simp only at room; omega)
  refine bind_ok_iff.mpr ⟨⟨field, value, some mode, declared⟩, ?_, rfl⟩
  cases declared with
  | none =>
    refine Shape.read_obj ["mode", "value", "field"] (by omega) ?_ rfl
    refine (Shape.readNamed_member _ rfl (by decide) (Member.store_of (a := field) rfl _)).trans ?_
    refine (Shape.readNamed_member _ rfl (by decide) (Member.store_of known _)).trans ?_
    refine (Shape.readNamed_member _ rfl (by decide)
      (Member.store_of (mode.readChoice_name _) _)).trans ?_
    rfl
  | some d =>
    refine Shape.read_obj ["dataType", "mode", "value", "field"] (by omega) ?_ rfl
    refine (Shape.readNamed_member _ rfl (by decide) (Member.store_of (a := field) rfl _)).trans ?_
    refine (Shape.readNamed_member _ rfl (by decide) (Member.store_of known _)).trans ?_
    refine (Shape.readNamed_member _ rfl (by decide)
      (Member.store_of (mode.readChoice_name _) _)).trans ?_
    refine (Shape.readNamed_member _ rfl (by decide)
      (Member.store_of (congrArg (·.map some) (d.readChoice_name _)) _)).trans ?_
    rfl

/-- A sort field is read back from its JSON. -/
theorem SortField.read_toJson (s : SortField) {depth : Nat} (room : 1 < depth) :
    SortField.read ⟨true, depth⟩ (ofJson s.toJson) = .ok s := by
  obtain ⟨field, direction⟩ := s
  refine Shape.read_obj ["order", "field"] room ?_ rfl
  refine (Shape.readNamed_member _ rfl (by decide) (Member.store_of (a := field) rfl _)).trans ?_
  refine (Shape.readNamed_member _ rfl (by decide)
    (Member.store_of (a := some direction.name) rfl _)).trans ?_
  exact congrArg (fun d => Except.ok (["order", "field"], SortField.mk field d))
    direction.parse_name

namespace Json

theorem nesting_le_of_mem {j : Json} {items : List Json} (h : j ∈ items) :
    j.nesting ≤ nestingItems items := by
  induction items with
  | nil => cases h
  | cons k rest ih =>
    rw [nestingItems]
    rcases List.mem_cons.mp h with rfl | later
    · exact Nat.le_max_left _ _
    · exact Nat.le_trans (ih later) (Nat.le_max_right _ _)

theorem nesting_member_le {key : String} {j : Json} {members : List (String × Json)}
    (h : (key, j) ∈ members) : j.nesting ≤ nestingMembers members := by
  induction members with
  | nil => cases h
  | cons m rest ih =>
    obtain ⟨k, v⟩ := m
    rw [nestingMembers]
    rcases List.mem_cons.mp h with same | later
    · cases same
      exact Nat.le_max_left _ _
    · exact Nat.le_trans (ih later) (Nat.le_max_right _ _)

end Json

/-- A list of terms is read back from its JSON. -/
theorem Term.readList_toJson {terms : List Term} (h : ∀ t ∈ terms, t.value.Faithful) {depth : Nat}
    (room : (Json.arr (terms.map toJson)).nesting < depth) :
    readList ⟨true, depth⟩ Term.read (ofJson (.arr (terms.map toJson))) = .ok terms := by
  rw [Json.nesting] at room
  refine readList_ofJson (by omega) fun t mem => ?_
  have deep := Json.nesting_le_of_mem (List.mem_map_of_mem (f := toJson) mem)
  exact Term.read_toJson (h t mem) (by omega)

/-- A list of sort fields is read back from its JSON. -/
theorem SortField.readList_toJson {sort : List SortField} {depth : Nat}
    (room : (listJson sort).nesting < depth) :
    readList ⟨true, depth⟩ SortField.read (ofJson (listJson sort)) = .ok sort := by
  rw [listJson, Json.nesting] at room
  refine readList_ofJson (by omega) fun s mem => ?_
  have deep := Json.nesting_le_of_mem (List.mem_map_of_mem (f := toJson) mem)
  have one : s.toJson.nesting = 1 := rfl
  exact SortField.read_toJson s (by omega)

/-- A filter is read back from its JSON. -/
theorem Filter.read_toJson {f : Filter} (h : ∀ t ∈ f.terms, t.value.Faithful) {depth : Nat}
    (room : f.toJson.nesting < depth) :
    Filter.read ⟨true, depth⟩ (Draft.ofJson f.toJson) = .ok f := by
  obtain ⟨terms, sort, logic, preload⟩ := f
  simp only at h
  have termsRoom : (Json.arr (terms.map Term.toJson)).nesting + 1 < depth := by
    refine Nat.lt_of_le_of_lt (Nat.succ_le_succ ?_) room
    exact Json.nesting_member_le (List.mem_append_left _ List.mem_cons_self)
  have sortRoom : (SortField.listJson sort).nesting + 1 < depth := by
    refine Nat.lt_of_le_of_lt (Nat.succ_le_succ ?_) room
    exact Json.nesting_member_le (List.mem_append_left _
      (List.mem_cons_of_mem _ List.mem_cons_self))
  have deep : 1 < depth - 1 := by
    rw [Json.nesting] at termsRoom
    omega
  have readTerms : readList ⟨true, depth - 1⟩ Term.read
      (Draft.ofJson (.arr (terms.map Term.toJson))) = .ok terms :=
    Term.readList_toJson h (by omega)
  have readSort : readList ⟨true, depth - 1⟩ SortField.read
      (Draft.ofJson (SortField.listJson sort)) = .ok sort :=
    SortField.readList_toJson (by omega)
  have readPreload : readList ⟨true, depth - 1⟩ (fun _ => readText)
      (Draft.ofJson (.arr (preload.map .str))) = .ok preload :=
    readList_ofJson deep fun _ _ => rfl
  have readLogic : Logic.parse logic.name = logic := logic.parse_name
  have front (rest : List (Draft × Draft)) :
      shape.readNamed ⟨true, depth - 1⟩ true []
        ((.str (some "fieldFilters"), Draft.ofJson (.arr (terms.map Term.toJson))) ::
          (.str (some "sortFields"), Draft.ofJson (SortField.listJson sort)) ::
          (.str (some "logic"), .str (some logic.name)) :: rest) shape.start =
      shape.readNamed ⟨true, depth - 1⟩ true ["logic", "sortFields", "fieldFilters"] rest
        ⟨terms, sort, logic, []⟩ := by
    refine (Shape.readNamed_member _ rfl (by decide) (Member.store_of readTerms _)).trans ?_
    refine (Shape.readNamed_member _ rfl (by decide) (Member.store_of readSort _)).trans ?_
    refine (Shape.readNamed_member _ rfl (by decide)
      (Member.store_of (a := some logic.name) rfl _)).trans ?_
    exact congrArg (fun l => shape.readNamed _ _ _ rest (Filter.mk terms sort l [])) readLogic
  cases preload with
  | nil =>
    exact Shape.read_obj ["logic", "sortFields", "fieldFilters"] (by omega) (front []) rfl
  | cons name names =>
    refine Shape.read_obj ["preload", "logic", "sortFields", "fieldFilters"] (by omega)
      ((front _).trans ?_) rfl
    refine (Shape.readNamed_member _ rfl (by decide) (Member.store_of readPreload _)).trans ?_
    rfl

theorem Term.faithful_toJson {t : Term} (h : t.value.Faithful) : t.toJson.Faithful := by
  obtain ⟨field, value, mode, declared⟩ := t
  have front : ∀ p ∈ [("field", Json.str field), ("value", value), ("mode", .str mode.name)],
      p.2.Faithful := by
    intro p mem
    simp only [List.mem_cons, List.not_mem_nil, or_false] at mem
    rcases mem with rfl | rfl | rfl
    · exact .str _
    · exact h
    · exact .str _
  cases declared with
  | none => exact .obj (by simp) fun p mem => front p (by simpa using mem)
  | some d =>
    refine .obj (by simp) fun p mem => ?_
    rcases List.mem_append.mp mem with mem | mem
    · exact front p mem
    · cases List.mem_singleton.mp mem
      exact .str _

theorem SortField.faithful_toJson (s : SortField) : s.toJson.Faithful := by
  refine .obj (by simp) fun p mem => ?_
  simp only [List.mem_cons, List.not_mem_nil, or_false] at mem
  rcases mem with rfl | rfl <;> exact .str _

/-- The JSON of a filter is as faithful as the values of its terms. -/
theorem Filter.faithful_toJson {f : Filter} (h : ∀ t ∈ f.terms, t.value.Faithful) :
    f.toJson.Faithful := by
  obtain ⟨terms, sort, logic, preload⟩ := f
  have terms' : (Json.arr (terms.map Term.toJson)).Faithful := by
    refine .arr fun j mem => ?_
    obtain ⟨t, member, rfl⟩ := List.mem_map.mp mem
    exact Term.faithful_toJson (h t member)
  have sort' : (SortField.listJson sort).Faithful := by
    refine .arr fun j mem => ?_
    obtain ⟨s, -, rfl⟩ := List.mem_map.mp mem
    exact s.faithful_toJson
  have front : ∀ p ∈ [("fieldFilters", Json.arr (terms.map Term.toJson)),
      ("sortFields", SortField.listJson sort), ("logic", .str logic.name)], p.2.Faithful := by
    intro p mem
    simp only [List.mem_cons, List.not_mem_nil, or_false] at mem
    rcases mem with rfl | rfl | rfl
    · exact terms'
    · exact sort'
    · exact .str _
  cases preload with
  | nil => exact .obj (by simp) fun p mem => front p (by simpa using mem)
  | cons name names =>
    refine .obj (by simp) fun p mem => ?_
    rcases List.mem_append.mp mem with mem | mem
    · exact front p mem
    · cases List.mem_singleton.mp mem
      refine .arr fun j mem => ?_
      obtain ⟨s, -, rfl⟩ := List.mem_map.mp mem
      exact .str s

/-- The compact text of a filter is read as the filter. -/
theorem Filter.ofOctets_compact {f : Filter} (h : ∀ t ∈ f.terms, t.value.Faithful)
    (room : f.toJson.nesting < Origin.depthLimit) :
    Filter.ofOctets (Text.Utf8.encode f.toJson.compact) = .ok f := by
  refine readDocument_ok_iff.mpr ?_
  rw [read_compact (Filter.faithful_toJson h)]
  exact ⟨rfl, Filter.read_toJson h room⟩

end FieldQuery

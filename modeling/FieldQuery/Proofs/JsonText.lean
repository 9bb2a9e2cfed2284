import FieldQuery.Proofs.Numerals
import Mathlib.Data.List.DropRight

/-!
# Compact text is read back

The compact text of a value is read as the draft of that value, by itself and wherever it stands in
the text of a larger one. The fuel of the reader is twice the number of octets.
-/
namespace FieldQuery.Draft

open Text

/-- Octets that are read as a draft wherever they stand before something that does not go on with
them. A numeral at their end may have taken blanks with it, so what is left is told up to blanks. -/
def Denotes (bs : Octets) (d : Draft) : Prop :=
  ∀ r, EndsNumeral r → ∀ fuel, 2 * bs.length ≤ fuel →
    ∃ after, readValue fuel (bs ++ r) = (d, after) ∧ skipSpace after = skipSpace r

theorem skipSpace_append {bs : Octets} (r : Octets) :
    skipSpace (bs ++ r) = if (skipSpace bs).isEmpty then skipSpace r else skipSpace bs ++ r :=
  List.dropWhile_append

theorem skipSpace_skipSpace (bs : Octets) : skipSpace (skipSpace bs) = skipSpace bs :=
  List.dropWhile_idempotent isSpace bs

theorem readValue_skipSpace (fuel : Nat) (bs : Octets) :
    readValue fuel (skipSpace bs) = readValue fuel bs := by
  cases fuel with
  | zero => rfl
  | succ fuel => rw [readValue, readValue, skipSpace_skipSpace]

theorem readItems_skipSpace (fuel : Nat) (bs : Octets) :
    readItems fuel (skipSpace bs) = readItems fuel bs := by
  cases fuel with
  | zero => rfl
  | succ fuel => rw [readItems, readItems, readValue_skipSpace]

theorem readMembers_skipSpace (fuel : Nat) (bs : Octets) :
    readMembers fuel (skipSpace bs) = readMembers fuel bs := by
  cases fuel with
  | zero => rfl
  | succ fuel => rw [readMembers, readMembers, readValue_skipSpace]

theorem denotes_scalar {b : UInt8} {bs : Octets} {d : Draft} (space : isSpace b = false)
    (bracket : isChar b '[' = false) (brace : isChar b '\x7b' = false)
    (h : ∀ r, EndsNumeral r → ∃ after, readScalar b (bs ++ r) = (d, after) ∧
      skipSpace after = skipSpace r) : Denotes (b :: bs) d := by
  intro r stop fuel enough
  obtain ⟨after, read, left⟩ := h r stop
  refine ⟨after, ?_, left⟩
  cases fuel with
  | zero => simp at enough
  | succ fuel =>
    have here : skipSpace (b :: bs ++ r) = b :: (bs ++ r) :=
      List.dropWhile_cons_of_neg (by simp [space])
    rw [readValue, here]
    simp only [bracket, brace, Bool.false_eq_true, if_false, read]

theorem denotes_quote (s : String) : Denotes (Utf8.encode (Json.quote s)) (.str (some s)) := by
  have octets : Utf8.encode (Json.quote s) =
      0x22 :: (Utf8.encode (s.toList.flatMap Json.escapeChar) ++ [0x22]) := by
    simp only [Json.quote, Utf8.encode, List.flatMap_append, List.append_assoc]
    rfl
  rw [octets]
  refine denotes_scalar (by decide) (by decide) (by decide) fun r _ => ⟨r, ?_, rfl⟩
  rw [List.append_assoc]
  exact readString_escaped s r

theorem denotes_null : Denotes (Utf8.encode "null".toList) .null :=
  @denotes_scalar 0x6E [0x75, 0x6C, 0x6C] _ rfl rfl rfl fun r _ => ⟨r, rfl, rfl⟩

theorem denotes_true : Denotes (Utf8.encode "true".toList) (.bool true) :=
  @denotes_scalar 0x74 [0x72, 0x75, 0x65] _ rfl rfl rfl fun r _ => ⟨r, rfl, rfl⟩

theorem denotes_false : Denotes (Utf8.encode "false".toList) (.bool false) :=
  @denotes_scalar 0x66 [0x61, 0x6C, 0x73, 0x65] _ rfl rfl rfl fun r _ => ⟨r, rfl, rfl⟩

/-- Only numerals are read as numbers, and they are read the same before anything that ends them. -/
theorem readScalar_append {b : UInt8} {bs rest r : Octets} {v : Option Numeral}
    (h : readScalar b bs = (.num v, rest)) (stop : EndsNumeral r) :
    readScalar b (bs ++ r) = (.num v, rest ++ r) := by
  unfold readScalar at h ⊢
  split at h
  · unfold readString at h
    split at h <;> cases h
  rename_i quote
  rw [if_neg quote]
  split at h
  · rename_i minus
    rw [if_pos minus]
    exact readNumeral_append stop h
  rename_i minus
  rw [if_neg minus]
  split at h
  · rename_i digit
    rw [if_pos digit]
    exact readNumeral_append stop h
  · unfold readWord at h
    split at h
    · split at h <;> cases h
    split at h
    · split at h <;> cases h
    split at h
    · split at h <;> cases h
    · cases h

/-- A text that is read as a number to its end, blanks apart. -/
theorem denotes_num {bs : Octets} {v : Option Numeral} {fuel : Nat} {rest : Octets}
    (h : readValue fuel bs = (.num v, rest)) (done : skipSpace rest = []) :
    Denotes bs (.num v) := by
  intro r stop fuel' enough
  refine ⟨rest ++ r, ?_, by rw [skipSpace_append, done]; rfl⟩
  cases fuel with
  | zero => cases h
  | succ fuel =>
    rw [readValue] at h
    cases first : skipSpace bs with
    | nil =>
      rw [first] at h
      cases h
    | cons b bs' =>
      have whole : skipSpace (bs ++ r) = b :: (bs' ++ r) := by
        rw [skipSpace_append, first]
        rfl
      simp only [first] at h
      split at h
      · split at h
        · cases h
        · split at h <;> cases h
      rename_i bracket
      split at h
      · split at h
        · cases h
        · split at h <;> cases h
      rename_i brace
      cases fuel' with
      | zero =>
        cases bs with
        | nil => cases first
        | cons c bs => simp at enough
      | succ fuel' =>
        rw [readValue, whole]
        simp only [if_neg bracket, if_neg brace]
        exact readScalar_append h stop

theorem readAny_num {o : Origin} {d : Draft} {n : Numeral} (h : readAny o d = .ok (.num n)) :
    d = .num (some n) := by
  cases d with
  | null => cases h
  | bool b => cases h
  | num v =>
    cases v with
    | none => cases h
    | some m =>
      cases h
      rfl
  | str v => cases v <;> cases h
  | hole => cases h
  | arr items closed =>
    rw [readAny] at h
    obtain ⟨inner, -, h⟩ := bind_ok_iff.mp h
    obtain ⟨js, -, h⟩ := bind_ok_iff.mp h
    cases h
  | obj members closed =>
    rw [readAny] at h
    obtain ⟨inner, -, h⟩ := bind_ok_iff.mp h
    obtain ⟨ms, -, h⟩ := bind_ok_iff.mp h
    cases h

/-- A numeral whose text reads back is read as itself wherever it stands. -/
theorem denotes_numeral {n : Numeral} (h : n.ReadsBack) :
    Denotes (Utf8.encode n.text.toList) (.num (some n)) := by
  have text : (Json.num n).text.toList = n.text.toList := String.toList_ofList
  obtain ⟨clean, value⟩ := readDocument_ok_iff.mp h
  rw [text] at clean value
  unfold Draft.read at clean value
  generalize found : readValue _ _ = result at clean value
  obtain ⟨d, rest⟩ := result
  simp only [Bool.and_eq_true, List.isEmpty_iff] at clean value
  rw [readAny_num value] at found
  exact denotes_num found clean.2

/-- A text that is read as a value begins with something that ends neither array nor object. -/
theorem begins_of_readValue {fuel : Nat} {bs : Octets} (h : (readValue fuel bs).1 ≠ .hole) :
    ∃ c rest, skipSpace bs = c :: rest ∧ isChar c ']' = false ∧ isChar c '\x7d' = false := by
  cases fuel with
  | zero => exact absurd rfl h
  | succ fuel =>
    rw [readValue] at h
    cases first : skipSpace bs with
    | nil =>
      rw [first] at h
      exact absurd rfl h
    | cons c rest =>
      refine ⟨c, rest, rfl, ?_, ?_⟩ <;> rw [first] at h
      · refine Bool.eq_false_iff.mpr fun close => h ?_
        have same : c.toNat = 0x5D := beq_iff_eq.mp close
        obtain rfl : c = 0x5D := UInt8.toNat_inj.mp same
        rfl
      · refine Bool.eq_false_iff.mpr fun close => h ?_
        have same : c.toNat = 0x7D := beq_iff_eq.mp close
        obtain rfl : c = 0x7D := UInt8.toNat_inj.mp same
        rfl

theorem isOpen_ofJson (j : Json) : (ofJson j).isOpen = false := by
  cases j <;> rfl

/-- What follows an element or a member: it is no blank and ends a numeral. -/
def IsMark (c : UInt8) : Prop := isSpace c = false ∧ ∀ r, EndsNumeral (c :: r)

theorem isMark_close : IsMark 0x5D := ⟨by decide, fun _ => endsNumeral_cons _ (by decide)⟩

theorem isMark_end : IsMark 0x7D := ⟨by decide, fun _ => endsNumeral_cons _ (by decide)⟩

theorem isMark_comma : IsMark 0x2C := ⟨by decide, fun _ => endsNumeral_cons _ (by decide)⟩

theorem isMark_colon : IsMark 0x3A := ⟨by decide, fun _ => endsNumeral_cons _ (by decide)⟩

/-- A value before a mark is read up to the mark. -/
theorem Denotes.upTo {bs : Octets} {d : Draft} (h : Denotes bs d) {c : UInt8} (mark : IsMark c)
    (r : Octets) {fuel : Nat} (enough : 2 * bs.length ≤ fuel) :
    ∃ after, readValue fuel (bs ++ c :: r) = (d, after) ∧ skipSpace after = c :: r := by
  obtain ⟨after, read, left⟩ := h (c :: r) (mark.2 r) fuel enough
  refine ⟨after, read, left.trans ?_⟩
  exact List.dropWhile_cons_of_neg (by simp [mark.1])

theorem readItems_last {bs : Octets} {d : Draft} (h : Denotes bs d) (value : d.isOpen = false)
    (r : Octets) {fuel : Nat} (enough : 2 * bs.length ≤ fuel) :
    readItems (fuel + 1) (bs ++ 0x5D :: r) = ([d], true, r) := by
  obtain ⟨after, read, next⟩ := h.upTo isMark_close r enough
  rw [readItems, read]
  simp only [value, next, Bool.false_eq_true, if_false]
  rfl

theorem readItems_comma {bs : Octets} {d : Draft} (h : Denotes bs d) (value : d.isOpen = false)
    {r after : Octets} {ds : List Draft} {fuel : Nat} (enough : 2 * bs.length ≤ fuel)
    (more : readItems fuel r = (ds, true, after)) :
    readItems (fuel + 1) (bs ++ 0x2C :: r) = (d :: ds, true, after) := by
  obtain ⟨left, read, next⟩ := h.upTo isMark_comma r enough
  rw [readItems, read]
  simp only [value, next, Bool.false_eq_true, if_false]
  rw [more]
  rfl

/-- A member whose key and value stand before a mark. -/
theorem readMembers_mark {k bs : Octets} {key : String} {d : Draft}
    (hk : Denotes k (.str (some key))) (h : Denotes bs d) (value : d.isOpen = false) {c : UInt8}
    (mark : IsMark c) (r : Octets) {fuel : Nat} (enough : 2 * (k.length + bs.length) ≤ fuel) :
    readMembers (fuel + 1) (k ++ 0x3A :: (bs ++ c :: r)) =
      if isChar c '\x7d' then ([(.str (some key), d)], true, r)
      else if isChar c ',' then
        ((.str (some key), d) :: (readMembers fuel r).1, (readMembers fuel r).2)
      else ([(.str (some key), d)], false, []) := by
  obtain ⟨after, readKey, colon⟩ :=
    hk.upTo isMark_colon (bs ++ c :: r) (show 2 * k.length ≤ fuel by omega)
  obtain ⟨left, read, next⟩ := h.upTo mark r (show 2 * bs.length ≤ fuel by omega)
  rw [readMembers, readKey]
  have sign : isChar 0x3A ':' = true := by decide
  simp only [colon, sign, if_true, read, value, next, Bool.false_eq_true, if_false]

theorem readMembers_last {k bs : Octets} {key : String} {d : Draft}
    (hk : Denotes k (.str (some key))) (h : Denotes bs d) (value : d.isOpen = false) (r : Octets)
    {fuel : Nat} (enough : 2 * (k.length + bs.length) ≤ fuel) :
    readMembers (fuel + 1) (k ++ 0x3A :: (bs ++ 0x7D :: r)) =
      ([(.str (some key), d)], true, r) := by
  rw [readMembers_mark hk h value isMark_end r enough]
  rfl

theorem readMembers_comma {k bs : Octets} {key : String} {d : Draft}
    (hk : Denotes k (.str (some key))) (h : Denotes bs d) (value : d.isOpen = false)
    {r after : Octets} {ms : List (Draft × Draft)} {fuel : Nat}
    (enough : 2 * (k.length + bs.length) ≤ fuel) (more : readMembers fuel r = (ms, true, after)) :
    readMembers (fuel + 1) (k ++ 0x3A :: (bs ++ 0x2C :: r)) =
      ((.str (some key), d) :: ms, true, after) := by
  rw [readMembers_mark hk h value isMark_comma r enough, more]
  rfl

/-- Elements that are read up to the end of the array make the array. -/
theorem readValue_arr {fuel : Nat} {bs after : Octets} {ds : List Draft}
    (h : readItems fuel bs = (ds, true, after)) :
    readValue (fuel + 1) (0x5B :: bs) = (.arr ds true, after) := by
  have value : ∃ f, (readValue f bs).1 ≠ .hole := by
    cases fuel with
    | zero => cases h
    | succ f =>
      refine ⟨f, fun hole => ?_⟩
      rw [readItems] at h
      simp only [hole, isOpen, if_true] at h
      cases h
  obtain ⟨f, value⟩ := value
  obtain ⟨c, rest, first, close, -⟩ := begins_of_readValue value
  rw [← readItems_skipSpace, first] at h
  have bracket : skipSpace (0x5B :: bs) = 0x5B :: bs ∧ isChar 0x5B '[' = true := ⟨rfl, rfl⟩
  rw [readValue, bracket.1]
  simp only [bracket.2, first, close, if_true, Bool.false_eq_true, if_false, h]

/-- Members that are read up to the end of the object make the object. -/
theorem readValue_obj {fuel : Nat} {bs after : Octets} {ms : List (Draft × Draft)}
    (h : readMembers fuel bs = (ms, true, after)) :
    readValue (fuel + 1) (0x7B :: bs) = (.obj ms true, after) := by
  have value : ∃ f, (readValue f bs).1 ≠ .hole := by
    cases fuel with
    | zero => cases h
    | succ f =>
      refine ⟨f, fun hole => ?_⟩
      rw [readMembers] at h
      simp only [hole] at h
      cases h
  obtain ⟨f, value⟩ := value
  obtain ⟨c, rest, first, -, close⟩ := begins_of_readValue value
  rw [← readMembers_skipSpace, first] at h
  have brace : skipSpace (0x7B :: bs) = 0x7B :: bs ∧ isChar 0x7B '[' = false ∧
    isChar 0x7B '\x7b' = true := ⟨rfl, rfl, rfl⟩
  rw [readValue, brace.1]
  simp only [brace.2.1, brace.2.2, first, close, if_true, Bool.false_eq_true, if_false, h]

theorem denotes_arr {bs : Octets} {ds : List Draft} (h : ∀ r fuel, 2 * bs.length + 1 ≤ fuel →
    readItems fuel (bs ++ 0x5D :: r) = (ds, true, r)) :
    Denotes (0x5B :: (bs ++ [0x5D])) (.arr ds true) := by
  intro r _ fuel enough
  simp only [List.length_cons, List.length_append, List.length_nil] at enough
  obtain ⟨fuel, rfl⟩ : ∃ f, fuel = f + 1 := ⟨fuel - 1, by omega⟩
  refine ⟨r, ?_, rfl⟩
  rw [List.cons_append, List.append_assoc]
  exact readValue_arr (h r fuel (by omega))

theorem denotes_obj {bs : Octets} {ms : List (Draft × Draft)}
    (h : ∀ r fuel, 2 * bs.length + 1 ≤ fuel →
      readMembers fuel (bs ++ 0x7D :: r) = (ms, true, r)) :
    Denotes (0x7B :: (bs ++ [0x7D])) (.obj ms true) := by
  intro r _ fuel enough
  simp only [List.length_cons, List.length_append, List.length_nil] at enough
  obtain ⟨fuel, rfl⟩ : ∃ f, fuel = f + 1 := ⟨fuel - 1, by omega⟩
  refine ⟨r, ?_, rfl⟩
  rw [List.cons_append, List.append_assoc]
  exact readValue_obj (h r fuel (by omega))

theorem denotes_arr_nil : Denotes [0x5B, 0x5D] (.arr [] true) := by
  intro r _ fuel enough
  obtain ⟨fuel, rfl⟩ : ∃ f, fuel = f + 1 := ⟨fuel - 1, by simp at enough; omega⟩
  exact ⟨r, rfl, rfl⟩

theorem denotes_obj_nil : Denotes [0x7B, 0x7D] (.obj [] true) := by
  intro r _ fuel enough
  obtain ⟨fuel, rfl⟩ : ∃ f, fuel = f + 1 := ⟨fuel - 1, by simp at enough; omega⟩
  exact ⟨r, rfl, rfl⟩

theorem encode_arr (items : List Json) : Utf8.encode (Json.compact (.arr items)) =
    0x5B :: (Utf8.encode (Json.compactItems items) ++ [0x5D]) := by
  rw [Json.compact, Utf8.encode, List.flatMap_append, List.flatMap_append]
  rfl

theorem encode_obj (members : List (String × Json)) : Utf8.encode (Json.compact (.obj members)) =
    0x7B :: (Utf8.encode (Json.compactMembers members) ++ [0x7D]) := by
  rw [Json.compact, Utf8.encode, List.flatMap_append, List.flatMap_append]
  rfl

theorem encode_items (j k : Json) (rest : List Json) :
    Utf8.encode (Json.compactItems (j :: k :: rest)) =
      Utf8.encode j.compact ++ 0x2C :: Utf8.encode (Json.compactItems (k :: rest)) := by
  rw [Json.compactItems, Utf8.encode, List.flatMap_append, List.flatMap_append, List.append_assoc]
  · rfl
  · exact List.cons_ne_nil k rest

theorem encode_member (key : String) (v : Json) :
    Utf8.encode (Json.compactMembers [(key, v)]) =
      Utf8.encode (Json.quote key) ++ 0x3A :: Utf8.encode v.compact := by
  rw [Json.compactMembers, Utf8.encode, List.flatMap_append, List.flatMap_append, List.append_assoc]
  rfl

theorem encode_members (key : String) (v : Json) (m : String × Json) (rest : List (String × Json)) :
    Utf8.encode (Json.compactMembers ((key, v) :: m :: rest)) =
      Utf8.encode (Json.quote key) ++ 0x3A ::
        (Utf8.encode v.compact ++ 0x2C :: Utf8.encode (Json.compactMembers (m :: rest))) := by
  rw [Json.compactMembers, Utf8.encode, List.flatMap_append, List.flatMap_append,
    List.flatMap_append, List.flatMap_append]
  · simp only [List.append_assoc]
    rfl
  · exact List.cons_ne_nil m rest

mutual

/-- The compact text of a value is read as the value, wherever it stands. -/
theorem denotes_compact : ∀ j : Json, j.Faithful → Denotes (Utf8.encode j.compact) (ofJson j)
  | .null, _ => denotes_null
  | .bool true, _ => denotes_true
  | .bool false, _ => denotes_false
  | .num n, .num h => denotes_numeral h.readsBack
  | .str s, _ => denotes_quote s
  | .arr items, .arr h => by
    by_cases empty : items = []
    · subst empty
      exact denotes_arr_nil
    · rw [encode_arr]
      exact denotes_arr (readItems_compact items empty h)
  | .obj members, .obj _ h => by
    by_cases empty : members = []
    · subst empty
      exact denotes_obj_nil
    · rw [encode_obj]
      exact denotes_obj (readMembers_compact members empty h)

theorem readItems_compact : ∀ items : List Json, items ≠ [] → (∀ j ∈ items, j.Faithful) →
    ∀ r fuel, 2 * (Utf8.encode (Json.compactItems items)).length + 1 ≤ fuel →
      readItems fuel (Utf8.encode (Json.compactItems items) ++ 0x5D :: r) = (ofItems items, true, r)
  | [], nonempty, _, _, _, _ => absurd rfl nonempty
  | [j], _, h, r, fuel + 1, enough => by
    have first := denotes_compact j (h j List.mem_cons_self)
    exact readItems_last first (isOpen_ofJson j) r (Nat.le_of_succ_le_succ enough)
  | j :: k :: rest, _, h, r, fuel + 1, enough => by
    have first := denotes_compact j (h j List.mem_cons_self)
    have more := readItems_compact (k :: rest) nofun fun x hx => h x (List.mem_cons_of_mem j hx)
    rw [encode_items] at enough ⊢
    simp only [List.length_append, List.length_cons] at enough
    rw [List.append_assoc]
    exact readItems_comma first (isOpen_ofJson j) (by omega) (more r fuel (by omega))

theorem readMembers_compact : ∀ members : List (String × Json), members ≠ [] →
    (∀ p ∈ members, p.2.Faithful) →
    ∀ r fuel, 2 * (Utf8.encode (Json.compactMembers members)).length + 1 ≤ fuel →
      readMembers fuel (Utf8.encode (Json.compactMembers members) ++ 0x7D :: r) =
        (ofMembers members, true, r)
  | [], nonempty, _, _, _, _ => absurd rfl nonempty
  | [(key, v)], _, h, r, fuel + 1, enough => by
    have value := denotes_compact v (h _ List.mem_cons_self)
    rw [encode_member] at enough ⊢
    simp only [List.length_append, List.length_cons] at enough
    rw [List.append_assoc]
    exact readMembers_last (denotes_quote key) value (isOpen_ofJson v) r (by omega)
  | (key, v) :: m :: rest, _, h, r, fuel + 1, enough => by
    have value := denotes_compact v (h _ List.mem_cons_self)
    have more := readMembers_compact (m :: rest) nofun fun x hx => h x (List.mem_cons_of_mem _ hx)
    rw [encode_members] at enough ⊢
    simp only [List.length_append, List.length_cons] at enough
    rw [List.append_assoc, List.cons_append, List.append_assoc]
    exact readMembers_comma (denotes_quote key) value (isOpen_ofJson v) (by omega)
      (more r fuel (by omega))

end

/-- The compact text of a value, read as a whole. -/
theorem read_compact {j : Json} (h : j.Faithful) :
    Draft.read (Utf8.encode j.compact) = (ofJson j, true) := by
  obtain ⟨after, read, left⟩ := denotes_compact j h [] endsNumeral_nil
    (2 * (Utf8.encode j.compact).length + 2) (by omega)
  rw [List.append_nil] at read
  have done : skipSpace after = [] := left
  simp only [Draft.read, read, isOpen_ofJson, done, List.isEmpty_nil, Bool.not_false, Bool.and_true]

end FieldQuery.Draft

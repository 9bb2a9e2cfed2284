import FieldQuery.Text.Name

/-!
# Capitalised spellings

Changing the case of letters makes no underscore and no dot of anything else, so a capitalised
spelling has no underscore, and no spelling has a dot unless the name has one. The first character
of what a character is raised to is raised already, so capitalising a spelling again changes
nothing. Main statement: `pascal_pascal`.
-/
namespace FieldQuery.Text

variable {c m : Char} {s t u : String}

/-- A number is the code point of its character, or it is that of no character. -/
theorem toNat_ofNat_cases (n : Nat) :
    (Char.ofNat n).toNat = n ∨ (Char.ofNat n).toNat = 0 := by
  unfold Char.ofNat
  by_cases valid : n.isValidChar
  · rw [dif_pos valid]
    exact .inl rfl
  · rw [dif_neg valid]
    exact .inr rfl

def separators : List Char := ['_', '.']

theorem separator_cases (sign : m ∈ separators) : m = '_' ∨ m = '.' := by
  simpa [separators] using sign

theorem toNat_pos_of_separator (sign : m ∈ separators) : 0 < m.toNat := by
  rcases separator_cases sign with rfl | rfl <;> decide

/-- No character is moved to a sign if the one from which it would be is not moved at all. -/
theorem shifted_ne {shifts : List (Run × Int)} {d : Int} (proper : 0 < m.toNat)
    (apart : ∀ e ∈ shifts, e.1.has ((m.toNat : Int) - e.2).toNat = false)
    (found : shiftOf shifts c.toNat = some d) : shifted c d ≠ m := by
  intro there
  obtain ⟨⟨run, distance⟩, first, rfl⟩ := Option.map_eq_some_iff.mp found
  have missed := apart _ (List.mem_of_find?_eq_some first)
  have has := List.find?_some first
  have before : ((m.toNat : Int) - distance).toNat = c.toNat := by
    have target := congrArg Char.toNat there
    rcases toNat_ofNat_cases ((c.toNat : Int) + distance).toNat with same | none
    · have moved : ((c.toNat : Int) + distance).toNat = m.toNat := same.symm.trans target
      omega
    · have zero : m.toNat = 0 := target.symm.trans none
      omega
  rw [before] at missed
  exact Bool.noConfusion (missed.symm.trans has)

/-- No other character is raised to a sign between words. -/
theorem separator_not_mem_upperChar (sign : m ∈ separators) (other : c ≠ m) : m ∉ upperChar c := by
  unfold upperChar
  split
  · rename_i ascii
    have each : ∀ n < 0x80, Char.ofNat n ≠ m → (Char.ofNat n).toUpper ≠ m := by
      rcases separator_cases sign with rfl | rfl <;> decide
    have here := each c.toNat ascii
    rw [Char.ofNat_toNat] at here
    rw [List.mem_singleton]
    exact (here other).symm
  · split
    · rename_i expansion
      have apart : ∀ e ∈ upperExpansions, m ∉ e.2.map Char.ofNat := by
        rcases separator_cases sign with rfl | rfl <;> decide +kernel
      exact apart _ (List.mem_of_find?_eq_some expansion)
    · split
      · rename_i shift
        have apart : ∀ e ∈ upperShifts, e.1.has ((m.toNat : Int) - e.2).toNat = false := by
          rcases separator_cases sign with rfl | rfl <;> decide +kernel
        rw [List.mem_singleton]
        exact (shifted_ne (toNat_pos_of_separator sign) apart shift).symm
      · rw [List.mem_singleton]
        exact other.symm

/-- No other character is lowered to one. -/
theorem separator_not_mem_lowerChar (sign : m ∈ separators) (other : c ≠ m) : m ∉ lowerChar c := by
  unfold lowerChar
  split
  · rename_i ascii
    have each : ∀ n < 0x80, Char.ofNat n ≠ m → (Char.ofNat n).toLower ≠ m := by
      rcases separator_cases sign with rfl | rfl <;> decide
    have here := each c.toNat ascii
    rw [Char.ofNat_toNat] at here
    rw [List.mem_singleton]
    exact (here other).symm
  · split
    · rcases separator_cases sign with rfl | rfl <;> decide
    · split
      · rename_i shift
        have apart : ∀ e ∈ lowerShifts, e.1.has ((m.toNat : Int) - e.2).toNat = false := by
          rcases separator_cases sign with rfl | rfl <;> decide +kernel
        rw [List.mem_singleton]
        exact (shifted_ne (toNat_pos_of_separator sign) apart shift).symm
      · rw [List.mem_singleton]
        exact other.symm

theorem sep_not_mem_of_mem_pieces {sep : Char} {s p : List Char} (h : p ∈ pieces sep s) :
    sep ∉ p := by
  induction s generalizing p with
  | nil =>
    rw [List.mem_singleton.mp h]
    exact List.not_mem_nil
  | cons c rest ih =>
    unfold pieces at h
    split at h
    · rcases List.mem_cons.mp h with rfl | later
      · exact List.not_mem_nil
      · exact ih later
    · rename_i other
      split at h
      · rw [List.mem_singleton.mp h, List.mem_singleton]
        exact fun same => other same.symm
      · rename_i first more split
        rcases List.mem_cons.mp h with rfl | later
        · rintro (_ | ⟨_, mem⟩)
          · exact other rfl
          · exact ih (split ▸ List.mem_cons_self) mem
        · exact ih (split ▸ List.mem_cons_of_mem _ later)

/-- A text without the separator is one piece. -/
theorem pieces_of_not_mem {sep : Char} {s : List Char} (h : sep ∉ s) : pieces sep s = [s] := by
  induction s with
  | nil => rfl
  | cons c rest ih =>
    simp only [List.mem_cons, not_or] at h
    simp [pieces, Ne.symm h.1, ih h.2]

/-- Pieces are made of what the text is made of. -/
theorem mem_of_mem_pieces {sep : Char} {s p : List Char} (h : p ∈ pieces sep s) (mem : c ∈ p) :
    c ∈ s := by
  induction s generalizing p with
  | nil =>
    rw [List.mem_singleton.mp h] at mem
    exact mem
  | cons d rest ih =>
    unfold pieces at h
    split at h
    · rcases List.mem_cons.mp h with rfl | later
      · cases mem
      · exact List.mem_cons_of_mem d (ih later mem)
    · split at h
      · rw [List.mem_singleton.mp h, List.mem_singleton] at mem
        exact mem ▸ List.mem_cons_self
      · rename_i first more split
        rcases List.mem_cons.mp h with rfl | later
        · rcases List.mem_cons.mp mem with rfl | inner
          · exact List.mem_cons_self
          · exact List.mem_cons_of_mem d (ih (split ▸ List.mem_cons_self) inner)
        · exact List.mem_cons_of_mem d (ih (split ▸ List.mem_cons_of_mem _ later) mem)

theorem pieces_append {sep : Char} {a b : List Char} (h : sep ∉ a) :
    pieces sep (a ++ sep :: b) = a :: pieces sep b := by
  induction a with
  | nil => simp [pieces]
  | cons c rest ih =>
    simp only [List.mem_cons, not_or] at h
    simp [pieces, Ne.symm h.1, ih h.2]

theorem pieces_intercalate {sep : Char} {words : List (List Char)} (there : words ≠ [])
    (plain : ∀ w ∈ words, sep ∉ w) : pieces sep ([sep].intercalate words) = words := by
  induction words with
  | nil => exact absurd rfl there
  | cons first rest ih =>
    have here := plain first List.mem_cons_self
    cases rest with
    | nil => rw [List.intercalate_singleton, pieces_of_not_mem here]
    | cons second others =>
      have later := ih (List.cons_ne_nil second others)
        fun w mem => plain w (List.mem_cons_of_mem first mem)
      rw [List.intercalate_cons_cons, List.append_assoc, List.singleton_append,
        pieces_append here, later]

/-- A sign in a capitalised spelling stands in a word of the name. -/
theorem exists_piece_of_mem_pascal (sign : m ∈ separators) (mem : m ∈ (pascal s).toList) :
    ∃ word ∈ pieces '_' s.toList, m ∈ word := by
  rw [pascal, String.toList_ofList, List.mem_flatMap] at mem
  obtain ⟨word, found, mem⟩ := mem
  refine ⟨word, (List.mem_filter.mp found).1, ?_⟩
  cases word with
  | nil => cases mem
  | cons c rest =>
    rcases List.mem_append.mp mem with first | later
    · by_cases same : c = m
      · exact same ▸ List.mem_cons_self
      · exact absurd first (separator_not_mem_upperChar sign same)
    · exact List.mem_cons_of_mem c later

theorem underscore_not_mem_pascal (s : String) : '_' ∉ (pascal s).toList := by
  intro mem
  obtain ⟨word, found, there⟩ := exists_piece_of_mem_pascal (by decide) mem
  exact sep_not_mem_of_mem_pieces found there

theorem dot_mem_of_pascal (mem : '.' ∈ (pascal s).toList) : '.' ∈ s.toList := by
  obtain ⟨word, found, there⟩ := exists_piece_of_mem_pascal (by decide) mem
  exact mem_of_mem_pieces found there

theorem dot_mem_of_snakeFrom {before : Option Char} {s : List Char}
    (mem : '.' ∈ snakeFrom before s) : '.' ∈ s := by
  induction s generalizing before with
  | nil => cases mem
  | cons c rest ih =>
    unfold snakeFrom at mem
    rcases List.mem_append.mp mem with here | later
    · by_cases same : c = '.'
      · exact same ▸ List.mem_cons_self
      · split at here
        · rcases List.mem_append.mp here with sign | letter
          · split at sign <;> simp at sign
          · exact absurd letter (separator_not_mem_lowerChar (by decide) same)
        · exact List.mem_singleton.mp here ▸ List.mem_cons_self
    · exact List.mem_cons_of_mem c (ih later)

theorem dot_mem_of_snake (mem : '.' ∈ (snake s).toList) : '.' ∈ s.toList := by
  rw [snake, String.toList_ofList] at mem
  exact dot_mem_of_snakeFrom mem

theorem lowerChar_ne_nil (c : Char) : lowerChar c ≠ [] := by
  unfold lowerChar
  split
  · exact List.cons_ne_nil _ _
  · split
    · exact List.cons_ne_nil _ _
    · split <;> exact List.cons_ne_nil _ _

theorem snake_eq_empty_iff : snake s = "" ↔ s = "" := by
  rw [snake, ← String.toList_eq_nil_iff, String.toList_ofList, ← String.toList_eq_nil_iff]
  cases s.toList with
  | nil => simp [snakeFrom]
  | cons c rest =>
    have begins : snakeFrom none (c :: rest) ≠ [] := by
      intro nothing
      have first := (List.append_eq_nil_iff.mp nothing).1
      split at first
      · exact lowerChar_ne_nil c (List.append_eq_nil_iff.mp first).2
      · cases first
    exact iff_of_false begins (List.cons_ne_nil c rest)

theorem toLower_eq_separator (sign : m ∈ separators) (h : c.toLower = m) : c = m := by
  by_cases ascii : c.toNat < 0x80
  · have each : ∀ n < 0x80, (Char.ofNat n).toLower = m → Char.ofNat n = m := by
      rcases separator_cases sign with rfl | rfl <;> decide
    have here := each c.toNat ascii
    rw [Char.ofNat_toNat] at here
    exact here h
  · rwa [toLower_of_not_ascii ascii] at h

theorem separator_mem_asciiLower (sign : m ∈ separators) {s : List Char} :
    m ∈ asciiLower s ↔ m ∈ s := by
  constructor
  · intro lowered
    obtain ⟨c, there, eq⟩ := List.mem_map.mp lowered
    exact toLower_eq_separator sign eq ▸ there
  · intro mem
    have kept : m.toLower = m := by rcases separator_cases sign with rfl | rfl <;> decide
    exact List.mem_map.mpr ⟨m, mem, kept⟩

theorem eqIgnoreAsciiCase_iff :
    eqIgnoreAsciiCase s t = true ↔ asciiLower s.toList = asciiLower t.toList := beq_iff_eq

theorem eqIgnoreAsciiCase_refl (s : String) : eqIgnoreAsciiCase s s = true :=
  eqIgnoreAsciiCase_iff.mpr rfl

theorem eqIgnoreAsciiCase_congr (h : eqIgnoreAsciiCase s t = true) :
    eqIgnoreAsciiCase u s = eqIgnoreAsciiCase u t := by
  rw [eqIgnoreAsciiCase, eqIgnoreAsciiCase, eqIgnoreAsciiCase_iff.mp h]

theorem eq_empty_iff_of_eqIgnoreAsciiCase (h : eqIgnoreAsciiCase s t = true) : s = "" ↔ t = "" := by
  have lengths := congrArg List.length (eqIgnoreAsciiCase_iff.mp h)
  rw [asciiLower, asciiLower, List.length_map, List.length_map] at lengths
  rw [← String.toList_eq_nil_iff, ← String.toList_eq_nil_iff, ← List.length_eq_zero_iff, lengths,
    List.length_eq_zero_iff]

/-- Names that differ in the case of letters only have the same signs between words. -/
theorem separator_mem_iff (sign : m ∈ separators) (h : eqIgnoreAsciiCase s t = true) :
    m ∈ s.toList ↔ m ∈ t.toList := by
  rw [← separator_mem_asciiLower sign, eqIgnoreAsciiCase_iff.mp h, separator_mem_asciiLower sign]

def Run.moved (r : Run) (d : Int) : Run :=
  ⟨((r.first : Int) + d).toNat, ((r.last : Int) + d).toNat, r.step⟩

/-- Whether two runs can be seen to share no code point: they do not overlap, or one is a single
code point that the other leaves out, or they alternate. -/
def Run.apart (r s : Run) : Bool :=
  !s.first.ble r.last || (!r.first.ble s.last || (r.first == r.last && !s.has r.first ||
    r.step == 2 && s.step == 2 && (r.first + s.first) % 2 == 1))

theorem Run.has_iff {r : Run} {n : Nat} :
    r.has n = true ↔ r.first ≤ n ∧ n ≤ r.last ∧ (n - r.first) % r.step = 0 := by
  simp [Run.has, and_assoc]

theorem Run.not_has_of_apart {r s : Run} {n : Nat} (h : r.apart s = true) (has : r.has n = true) :
    s.has n = false := by
  apply Bool.eq_false_iff.mpr
  intro there
  obtain ⟨first, last, places⟩ := Run.has_iff.mp has
  obtain ⟨first', last', places'⟩ := Run.has_iff.mp there
  simp only [Run.apart, Bool.or_eq_true, Bool.and_eq_true, Bool.not_eq_true', beq_iff_eq,
    ← Bool.not_eq_true, Nat.ble_eq] at h
  rcases h with below | above | ⟨single, missing⟩ | ⟨⟨two, two'⟩, odd⟩
  · omega
  · omega
  · have same : n = r.first := by omega
    exact missing (same ▸ there)
  · rw [two] at places
    rw [two'] at places'
    omega

theorem Run.has_moved {r : Run} {d : Int} {n : Nat} (proper : 0 ≤ (r.first : Int) + d)
    (has : r.has n = true) : (r.moved d).has ((n : Int) + d).toNat = true := by
  obtain ⟨first, last, places⟩ := Run.has_iff.mp has
  apply Run.has_iff.mpr
  have distance : ((n : Int) + d).toNat - ((r.first : Int) + d).toNat = n - r.first := by omega
  refine ⟨?_, ?_, ?_⟩
  · simp only [Run.moved]
    omega
  · simp only [Run.moved]
    omega
  · simp only [Run.moved, distance, places]

/-- Whether raising leaves the code points of a run as they are. -/
def Run.isRaised (r : Run) : Bool :=
  (r.last < 0x61 || 0x80 ≤ r.first) && upperShifts.all (fun e => r.apart e.1) &&
    upperExpansions.all fun e => r.apart ⟨e.1, e.1, 1⟩

theorem upperChar_of_isRaised {r : Run} (raised : r.isRaised = true) (has : r.has c.toNat = true) :
    upperChar c = [c] := by
  simp only [Run.isRaised, Bool.and_eq_true, Bool.or_eq_true, List.all_eq_true,
    decide_eq_true_eq] at raised
  obtain ⟨⟨place, shifts⟩, expansions⟩ := raised
  obtain ⟨first, last, -⟩ := Run.has_iff.mp has
  unfold upperChar
  split
  · have each : ∀ n < 0x61, (Char.ofNat n).toUpper = Char.ofNat n := by decide
    have here := each c.toNat (by omega)
    rw [Char.ofNat_toNat] at here
    rw [here]
  · split
    · rename_i n more expansion
      have missing := Run.not_has_of_apart
        (expansions _ (List.mem_of_find?_eq_some expansion)) has
      obtain rfl : n = c.toNat := beq_iff_eq.mp (List.find?_some expansion :)
      have there : Run.has ⟨c.toNat, c.toNat, 1⟩ c.toNat = true := by simp [Run.has]
      cases there.symm.trans missing
    · split
      · rename_i shift
        obtain ⟨e, found, -⟩ := Option.map_eq_some_iff.mp shift
        have missing := Run.not_has_of_apart (shifts e (List.mem_of_find?_eq_some found)) has
        cases (List.find?_some found).symm.trans missing
      · rfl

/-- Runs are raised to where nothing is raised. -/
theorem isRaised_moved : ∀ e ∈ upperShifts, 0 ≤ (e.1.first : Int) + e.2 ∧
    (e.1.moved e.2).isRaised = true := by
  have proper : upperShifts.all (fun e => 0 ≤ (e.1.first : Int) + e.2) = true := by decide +kernel
  have raised : upperShifts.all (fun e => (e.1.moved e.2).isRaised) = true := by decide +kernel
  intro e mem
  exact ⟨of_decide_eq_true (List.all_eq_true.mp proper e mem), List.all_eq_true.mp raised e mem⟩

theorem upperChar_ne_nil (c : Char) : upperChar c ≠ [] := by
  unfold upperChar
  split
  · exact List.cons_ne_nil _ _
  · split
    · rename_i expansion
      have each : ∀ e ∈ upperExpansions, e.2.map Char.ofNat ≠ [] := by decide +kernel
      exact each _ (List.mem_of_find?_eq_some expansion)
    · split <;> exact List.cons_ne_nil _ _

/-- The first character that a character is raised to is raised already. -/
theorem upperChar_head {u : Char} {rest : List Char} (h : upperChar c = u :: rest) :
    upperChar u = [u] := by
  have raised := h
  unfold upperChar at h
  split at h
  · rename_i ascii
    obtain ⟨rfl, rfl⟩ := List.cons.inj h
    have each : ∀ n < 0x80, upperChar (Char.ofNat n).toUpper = [(Char.ofNat n).toUpper] := by
      decide +kernel
    have here := each c.toNat ascii
    rwa [Char.ofNat_toNat] at here
  · split at h
    · rename_i expansion
      have each : ∀ e ∈ upperExpansions,
          upperChar (Char.ofNat (e.2.headD 0)) = [Char.ofNat (e.2.headD 0)] := by decide +kernel
      have first := each _ (List.mem_of_find?_eq_some expansion)
      obtain ⟨n, more, split, rfl, -⟩ := List.map_eq_cons_iff.mp h
      rwa [split] at first
    · split at h
      · rename_i d shift
        obtain ⟨rfl, rfl⟩ := List.cons.inj h
        obtain ⟨⟨run, distance⟩, found, rfl⟩ := Option.map_eq_some_iff.mp shift
        obtain ⟨proper, there⟩ := isRaised_moved _ (List.mem_of_find?_eq_some found)
        have has := Run.has_moved proper (List.find?_some found :)
        rcases toNat_ofNat_cases ((c.toNat : Int) + distance).toNat with same | none
        · exact upperChar_of_isRaised there (by rw [shifted, same]; exact has)
        · have zero : shifted c distance = Char.ofNat 0 := by
            rw [← Char.ofNat_toNat (shifted c distance), shifted, none]
          rw [zero]
          rfl
      · obtain ⟨rfl, rfl⟩ := List.cons.inj h
        exact raised

/-- Words run together begin as the first of them does. -/
theorem capitalize_flatMap (words : List (List Char)) (each : ∀ w ∈ words, w ≠ []) :
    capitalize (words.flatMap capitalize) = words.flatMap capitalize := by
  cases words with
  | nil => rfl
  | cons w rest =>
    cases w with
    | nil => exact absurd rfl (each [] List.mem_cons_self)
    | cons c tail =>
      cases raised : upperChar c with
      | nil => exact absurd raised (upperChar_ne_nil c)
      | cons u more => simp [capitalize, raised, upperChar_head raised]

/-- A capitalised spelling is its own. -/
theorem pascal_pascal (s : String) : pascal (pascal s) = pascal s := by
  have whole := pieces_of_not_mem (underscore_not_mem_pascal s)
  rw [pascal, whole, pascal, String.toList_ofList]
  generalize words : (pieces '_' s.toList).filter (!·.isEmpty) = ws
  have each : ∀ w ∈ ws, w ≠ [] := by
    intro w mem
    rw [← words] at mem
    simpa using (List.mem_filter.mp mem).2
  cases joined : ws.flatMap capitalize with
  | nil => rfl
  | cons c rest =>
    have again := capitalize_flatMap ws each
    rw [joined] at again
    simp [again]

end FieldQuery.Text

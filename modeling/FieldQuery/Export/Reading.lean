import FieldQuery.Export.Delimited

/-!
# Reading comma-separated text

The text is a list of rows, each ended by a line break, and a row is a list of cells with commas
between them. A line break is a line feed, with or without a carriage return before it. A cell that
begins with a quote goes on to the closing quote, and two quotes inside it stand for one. Text after
a closing quote, and a quote or a lone carriage return outside of quotes, are refused. Readers
differ in blank lines: some take them for rows of one empty cell, and others skip them. Main
statement: a written row is read back by either, at the front of any text.
-/
namespace FieldQuery.Delimited

/-- What needs no quotes has no character that means anything to a reader. -/
theorem needsQuotes_cons {c : Char} {body : List Char} (plain : needsQuotes (c :: body) = false) :
    (c ≠ ',' ∧ c ≠ '"' ∧ c ≠ '\r' ∧ c ≠ '\n') ∧ needsQuotes body = false := by
  simp only [needsQuotes, List.any_cons, Bool.or_eq_false_iff, decide_eq_false_iff_not] at plain
  obtain ⟨⟨⟨⟨comma, quote⟩, carriage⟩, feed⟩, others⟩ := plain
  exact ⟨⟨comma, quote, carriage, feed⟩, others⟩

/-- How far the reader is within a cell. -/
inductive CellState where
  | fresh
  | bare
  | quoted
  /-- After a quote inside a quoted cell: it was the closing one unless a second one follows. -/
  | afterQuote
deriving DecidableEq, Repr

/-- What has been read: the cell and the row so far, both backwards, and where within the cell. -/
structure ReadState where
  state : CellState := .fresh
  cell : List Char := []
  row : List (List Char) := []
deriving DecidableEq, Repr

namespace ReadState

def cells (s : ReadState) : List (List Char) := (s.cell.reverse :: s.row).reverse

def isFresh (s : ReadState) : Bool := s.state == .fresh && s.row.isEmpty

/-- The row that a line break ends, unless the line is blank and is to be skipped. -/
def ended (skipBlank : Bool) (s : ReadState) : List (List (List Char)) :=
  if skipBlank && s.isFresh then [] else [s.cells]

/-- Takes in one character, before another one; at the end of a row the row comes out. Nothing if it
is refused. -/
def take (skipBlank : Bool) (s : ReadState) (c : Char) (next : Option Char) :
    Option (ReadState × List (List (List Char))) :=
  match s.state with
  | .quoted =>
    some (if c = '"' then ({ s with state := .afterQuote }, []) else
      ({ s with cell := c :: s.cell }, []))
  | state =>
    if c = ',' then some ({ row := s.cell.reverse :: s.row }, [])
    else if c = '\n' then some ({}, s.ended skipBlank)
    -- a carriage return is left to the line feed behind it
    else if c = '\r' then if next = some '\n' then some (s, []) else none
    else if c = '"' then
      match state with
      | .fresh => some ({ s with state := .quoted }, [])
      | .afterQuote => some ({ s with state := .quoted, cell := '"' :: s.cell }, [])
      | _ => none
    else
      match state with
      | .afterQuote => none
      | _ => some ({ s with state := .bare, cell := c :: s.cell }, [])

/-- The rows of a text, from a state on. A last row need not be ended by a line break. -/
def rows (skipBlank : Bool) : ReadState → List Char → Option (List (List (List Char)))
  | s, [] =>
    if s.isFresh then some []
    else if s.state == .quoted then none
    else some [s.cells]
  | s, c :: rest => do
    let (s, done) ← s.take skipBlank c rest.head?
    let more ← rows skipBlank s rest
    some (done ++ more)

variable {skipBlank : Bool}

theorem rows_cons (s : ReadState) (c : Char) (rest : List Char) :
    rows skipBlank s (c :: rest) = (s.take skipBlank c rest.head?).bind fun t =>
      (rows skipBlank t.1 rest).map (t.2 ++ ·) := by
  simp only [rows, Option.bind_eq_bind]
  cases s.take skipBlank c rest.head? with
  | none => rfl
  | some t => cases h : rows skipBlank t.1 rest <;> simp [h]

/-- Where a cell ends, the next one of the row begins. -/
theorem rows_comma {s : ReadState} (h : s.state ≠ .quoted) (rest : List Char) :
    rows skipBlank s (',' :: rest) = rows skipBlank { row := s.cell.reverse :: s.row } rest := by
  rw [rows_cons]
  cases hs : s.state <;> simp_all [take]

/-- Where a row ends, it comes out and the next one begins. -/
theorem rows_lineFeed {s : ReadState} (h : s.state ≠ .quoted) (rest : List Char) :
    rows skipBlank s ('\n' :: rest) =
      (rows skipBlank {} rest).map (s.ended skipBlank ++ ·) := by
  rw [rows_cons]
  cases hs : s.state <;> simp_all [take]

/-- A character that ends no row. -/
theorem rows_within {s t : ReadState} {c : Char} {rest : List Char}
    (h : s.take skipBlank c rest.head? = some (t, [])) :
    rows skipBlank s (c :: rest) = rows skipBlank t rest := by
  rw [rows_cons, h]
  cases hr : rows skipBlank t rest <;> simp [hr]

/-- The inside of a quoted cell, up to the closing quote. -/
theorem rows_inside (body cell : List Char) (row : List (List Char)) (rest : List Char) :
    rows skipBlank ⟨.quoted, cell, row⟩
        (body.flatMap (fun c => if c = '"' then ['"', '"'] else [c]) ++ '"' :: rest) =
      rows skipBlank ⟨.afterQuote, body.reverse ++ cell, row⟩ rest := by
  induction body generalizing cell with
  | nil => exact rows_within (by simp [take])
  | cons c body ih =>
    have ends : (c :: body).reverse ++ cell = body.reverse ++ c :: cell := by simp
    rw [List.flatMap_cons, List.append_assoc, ends, ← ih]
    by_cases hc : c = '"'
    · subst hc
      simp only [if_true, List.cons_append, List.nil_append]
      rw [rows_within (t := ⟨.afterQuote, cell, row⟩) (by simp [take]),
        rows_within (t := ⟨.quoted, '"' :: cell, row⟩) (by simp [take])]
    · simp only [if_neg hc, List.cons_append, List.nil_append]
      exact rows_within (by simp [take, hc])

/-- A bare cell goes on until a comma or a line break. -/
theorem rows_bare (body cell : List Char) (row : List (List Char)) (rest : List Char)
    (plain : needsQuotes body = false) :
    rows skipBlank ⟨.bare, cell, row⟩ (body ++ rest) =
      rows skipBlank ⟨.bare, body.reverse ++ cell, row⟩ rest := by
  induction body generalizing cell with
  | nil => rfl
  | cons c body ih =>
    obtain ⟨⟨comma, quote, carriage, feed⟩, others⟩ := needsQuotes_cons plain
    have ends : (c :: body).reverse ++ cell = body.reverse ++ c :: cell := by simp
    rw [ends, ← ih _ others]
    exact rows_within (by simp [take, comma, quote, carriage, feed])

/-- The reader ends a written cell with the cell read, and outside of quotes. It has not begun a
cell only if nothing was written. -/
theorem rows_cellText (cell : List Char) (row : List (List Char)) :
    ∃ state, state ≠ .quoted ∧ (state = .fresh → cellText cell = []) ∧ ∀ rest,
      rows skipBlank { row := row } (cellText cell ++ rest) =
        rows skipBlank ⟨state, cell.reverse, row⟩ rest := by
  unfold cellText
  split
  · refine ⟨.afterQuote, by decide, nofun, fun rest => ?_⟩
    have inside := @rows_inside skipBlank cell [] row rest
    rw [List.append_nil] at inside
    rw [← inside, quoteCell, List.cons_append, List.append_assoc]
    exact rows_within (by simp [take])
  · rename_i plain
    cases cell with
    | nil => exact ⟨.fresh, by decide, fun _ => rfl, fun _ => rfl⟩
    | cons c body =>
      refine ⟨.bare, by decide, nofun, fun rest => ?_⟩
      obtain ⟨⟨comma, quote, carriage, feed⟩, tail⟩ :=
        needsQuotes_cons (eq_false_of_ne_true plain)
      have bare := @rows_bare skipBlank body [c] row rest tail
      have next : rows skipBlank ⟨.bare, (c :: body).reverse, row⟩ rest =
          rows skipBlank ⟨.bare, [c], row⟩ (body ++ rest) := by rw [bare, List.reverse_cons]
      rw [next]
      exact rows_within (by simp [take, comma, quote, carriage, feed])

/-- A written row is read back at the front of a text, unless its line would be blank. -/
theorem rows_joinCells (cells : List (List Char)) (row : List (List Char)) (nonempty : cells ≠ [])
    (visible : row ≠ [] ∨ joinCells cells ≠ []) (rest : List Char) :
    rows skipBlank { row := row } (joinCells cells ++ '\n' :: rest) =
      (rows skipBlank {} rest).map ((row.reverse ++ cells) :: ·) := by
  induction cells generalizing row with
  | nil => exact absurd rfl nonempty
  | cons c more ih =>
    obtain ⟨state, outside, begun, read⟩ := @rows_cellText skipBlank c row
    cases more with
    | nil =>
      have whole : (⟨state, c.reverse, row⟩ : ReadState).isFresh = false := by
        rcases visible with there | there
        · simp [isFresh, there]
        · have other : state ≠ .fresh := fun fresh => there (begun fresh)
          simp [isFresh, other]
      rw [joinCells, read, rows_lineFeed outside, ended, whole, Bool.and_false]
      simp [cells]
    | cons d more =>
      rw [joinCells, List.append_assoc, List.cons_append, read, rows_comma outside,
        ih _ (by simp) (.inl (by simp))]
      · simp
      · simp

/-- A row is read back even if its only cell is empty. -/
theorem rows_rowText (row : List (List Char)) (nonempty : row ≠ []) (rest : List Char) :
    rows skipBlank {} (rowText row ++ rest) = (rows skipBlank {} rest).map (row :: ·) := by
  unfold rowText
  simp only [List.append_assoc, List.cons_append, List.nil_append]
  split
  · rename_i blank
    have single : row = [[]] := by
      cases row with
      | nil => exact absurd rfl nonempty
      | cons c more =>
        cases more with
        | nil =>
          simp only [joinCells, cellText, List.isEmpty_iff] at blank
          split at blank
          · simp [quoteCell] at blank
          · rw [blank]
        | cons d more => simp [joinCells] at blank
    subst single
    have opened : rows skipBlank {} ('"' :: '"' :: '\n' :: rest) =
        rows skipBlank ⟨.quoted, [], []⟩ ('"' :: '\n' :: rest) := rows_within (by simp [take])
    have closed : rows skipBlank ⟨.quoted, [], []⟩ ('"' :: '\n' :: rest) =
        rows skipBlank ⟨.afterQuote, [], []⟩ ('\n' :: rest) := rows_within (by simp [take])
    have feed := @rows_lineFeed skipBlank ⟨.afterQuote, [], []⟩ (by decide) rest
    have there : (⟨.afterQuote, [], []⟩ : ReadState).isFresh = false := by decide
    rw [ended, there, Bool.and_false] at feed
    exact opened.trans (closed.trans feed)
  · rename_i visible
    have there : joinCells row ≠ [] := by simpa using visible
    exact rows_joinCells row [] nonempty (.inr there) rest

end ReadState

/-- The rows of a text. A reader that skips blank lines has no rows for them. -/
def rows (skipBlank : Bool) (text : List Char) : Option (List (List (List Char))) :=
  ReadState.rows skipBlank {} text

/-- Line breaks of two characters, one of them inside a cell, and a blank line. -/
example : rows true "a,\"\"\r\n\r\n\"x\"\"\r\n\",b".toList =
    some [["a".toList, []], ["x\"\r\n".toList, "b".toList]] := by decide

end FieldQuery.Delimited

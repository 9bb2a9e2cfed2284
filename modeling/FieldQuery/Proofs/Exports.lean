import FieldQuery.Export.Reading
import Mathlib.Data.List.Forall2

/-!
# Exports are read back

Records that are written as comma-separated text are read back from it, whatever stands in their
keys and values: first the keys of the first record, then for each record the values that it has
under these keys. Main statement: `export_reads_back`.
-/
namespace FieldQuery.Delimited

variable {α : Type} {keys : List String} {skipBlank : Bool}

/-- What a cell is to show of the value under a key: a text as it is, nothing of null or where there
is no value, and any other value as JSON. -/
inductive Shows : Option Json → List Char → Prop
  | missing : Shows none []
  | null : Shows (some .null) []
  | text (s : String) : Shows (some (.str s)) s.toList
  | other {j : Json} (there : j ≠ .null) (plain : ∀ s, j ≠ .str s) : Shows (some j) j.compact

/-- Whether the cells of a row show what a record has under each of the keys, in their order. -/
def RowShows (keys : List String) (record : ColumnMap) (cells : List (List Char)) : Prop :=
  List.Forall₂ (fun key cell => Shows (value? record key) cell) keys cells

def cells (keys : List String) (record : ColumnMap) : List (List Char) :=
  keys.map fun key => cell (value? record key)

theorem shows_cell (value : Option Json) : Shows value (cell value) := by
  match value with
  | none => exact .missing
  | some .null => exact .null
  | some (.str s) => exact .text s
  | some (.bool _) => exact .other nofun nofun
  | some (.num _) => exact .other nofun nofun
  | some (.arr _) => exact .other nofun nofun
  | some (.obj _) => exact .other nofun nofun

theorem rowShows_cells (keys : List String) (record : ColumnMap) :
    RowShows keys record (cells keys record) := by
  apply List.forall₂_map_right_iff.mpr
  exact List.forall₂_same.mpr fun key _ => shows_cell (value? record key)

/-- The rows of records follow each other without loss, also where all their cells are empty. -/
theorem rows_bodyText (there : keys ≠ []) (records : List ColumnMap) :
    ReadState.rows skipBlank {} (bodyText keys records) = some (records.map (cells keys)) := by
  induction records with
  | nil => rfl
  | cons record records ih =>
    have nonempty : cells keys record ≠ [] := fun none => there (List.map_eq_nil_iff.mp none)
    have first := @ReadState.rows_rowText skipBlank (cells keys record) nonempty
      (bodyText keys records)
    rw [ih] at first
    exact first

theorem rows_text (first : ColumnMap) (rest : List ColumnMap) (named : first ≠ []) :
    rows skipBlank (text (first :: rest)) =
      some (first.map (·.1.toList) :: (first :: rest).map (cells (first.map (·.1)))) := by
  have there : first.map (·.1) ≠ [] := fun none => named (List.map_eq_nil_iff.mp none)
  have nonempty : first.map (·.1.toList) ≠ [] := fun none => named (List.map_eq_nil_iff.mp none)
  have written : text (first :: rest) = rowText (first.map (·.1.toList)) ++
      bodyText (first.map (·.1)) (first :: rest) := by
    rw [text, List.map_map]
    rfl
  rw [rows, written, ReadState.rows_rowText _ nonempty, rows_bodyText there]
  rfl

/-- Records whose first one has columns are written wherever there is room, and are counted. Every
reader finds the keys of the first record in what is written, and then row by row the values of each
record under these keys, so that no later record changes the columns. -/
theorem export_reads_back (columns : α → ColumnMap) (first : α) (rest : List α)
    (named : columns first ≠ []) :
    ∃ written : List Char,
      (∀ room : Option Nat, (∀ n, room = some n → Text.Utf8.size written ≤ n) →
        write room ((first :: rest).map columns) = .ok ((first :: rest).length, written)) ∧
      ∀ skipBlank, ∃ body,
        rows skipBlank written = some ((columns first).map (·.1.toList) :: body) ∧
        List.Forall₂
          (fun record cells => RowShows ((columns first).map (·.1)) (columns record) cells)
          (first :: rest) body ∧
        ∀ cells ∈ body, cells.length = (columns first).length := by
  refine ⟨text ((first :: rest).map columns), ?_, fun skipBlank => ?_⟩
  · intro room enough
    have count : ((first :: rest).map columns).length = (first :: rest).length := List.length_map _
    rw [← count]
    cases room with
    | none => rfl
    | some n => exact if_neg (Nat.not_lt_of_le (enough n rfl))
  · refine ⟨((first :: rest).map columns).map (cells ((columns first).map (·.1))), ?_, ?_, ?_⟩
    · exact rows_text (columns first) (rest.map columns) named
    · rw [List.map_map]
      apply List.forall₂_map_right_iff.mpr
      exact List.forall₂_same.mpr fun record _ => rowShows_cells _ (columns record)
    · intro row mem
      obtain ⟨record, -, rfl⟩ := List.mem_map.mp mem
      rw [cells, List.length_map, List.length_map]

namespace Sample

/-- Records with quotes, commas and line breaks in keys and values, the second without a value and
the third with other columns. -/
def notes : List ColumnMap :=
  [[("say \"hi\", twice", .str "a\r\nb")], [],
    [("other", .bool true), ("say \"hi\", twice", .null)]]

end Sample

open Sample in
theorem export_reads_back_notes : ∃ first rest, notes = first :: rest ∧ first ≠ [] ∧
    ∃ written, write none notes = .ok (3, written) ∧ ∃ body,
      rows true written = some (["say \"hi\", twice".toList] :: body) ∧
      body.length = 3 ∧ ∀ cells ∈ body, cells.length = 1 := by
  obtain ⟨written, done, read⟩ := export_reads_back id
    [("say \"hi\", twice", .str "a\r\nb")]
    [[], [("other", .bool true), ("say \"hi\", twice", .null)]] (List.cons_ne_nil _ _)
  obtain ⟨body, found, shown, widths⟩ := read true
  refine ⟨_, _, rfl, List.cons_ne_nil _ _, written, done none nofun, body, found, ?_, widths⟩
  exact shown.length_eq.symm

end FieldQuery.Delimited

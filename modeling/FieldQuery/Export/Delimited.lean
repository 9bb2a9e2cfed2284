import FieldQuery.Filter.Fault

/-!
# Comma-separated export

Records are written as rows of cells with commas between them, each row on a line of its own. The
columns are those of the first record. Cells are quoted where they would otherwise not read back.
-/
namespace FieldQuery.Delimited

/-- A record as named values. -/
abbrev ColumnMap := List (String × Json)

def needsQuotes (cell : List Char) : Bool :=
  cell.any fun c => c = ',' || c = '"' || c = '\r' || c = '\n'

/-- A cell between quotes, inner quotes doubled. -/
def quoteCell (cell : List Char) : List Char :=
  '"' :: (cell.flatMap (fun c => if c = '"' then ['"', '"'] else [c]) ++ ['"'])

def cellText (cell : List Char) : List Char := if needsQuotes cell then quoteCell cell else cell

def joinCells : List (List Char) → List Char
  | [] => []
  | [c] => cellText c
  | c :: rest => cellText c ++ ',' :: joinCells rest

/-- A line of its own. A row that would leave the line blank is written as an empty quoted cell. -/
def rowText (cells : List (List Char)) : List Char :=
  let line := joinCells cells
  (if line.isEmpty then ['"', '"'] else line) ++ ['\n']

/-- What a cell shows of a value; nothing of null or of a missing value. -/
def cell : Option Json → List Char
  | none => []
  | some .null => []
  | some (.str s) => s.toList
  | some j => j.compact

def value? (row : ColumnMap) (key : String) : Option Json := (row.find? (·.1 = key)).map (·.2)

def bodyText (keys : List String) (rows : List ColumnMap) : List Char :=
  rows.flatMap fun row => rowText (keys.map fun k => cell (value? row k))

/-- The whole text: a row of column names, then one row per record. Without records there is
nothing. -/
def text : List ColumnMap → List Char
  | [] => []
  | first :: rest =>
    let keys := first.map (·.1)
    rowText (keys.map (·.toList)) ++ bodyText keys (first :: rest)

/-- Writes records to a place that has room for so many octets, if it is limited. The answer is the
number of records, and their text. -/
def write (room : Option Nat) (rows : List ColumnMap) : Answer (Nat × List Char) :=
  let written := text rows
  match room with
  | some n =>
    if n < Text.Utf8.size written then .error (.exportFailed "disk full")
    else .ok (rows.length, written)
  | none => .ok (rows.length, written)

end FieldQuery.Delimited

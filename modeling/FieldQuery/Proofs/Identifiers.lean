import FieldQuery.Proofs.Reading

/-!
# Names read back

A name in quotes is told from whatever follows it, and the two names of a column from each other. A
reader of statements is inside of the name from its first quote to its last, so that what stands
around the name is read as it is without it. Main statement: `quoted_names_read_back`.
-/
namespace FieldQuery

namespace Statement

variable {text rest : List Char} {name table column : String}

/-- What is read after an opening quote is what is written there, up to a quote that stands
alone. -/
theorem takeInner_eq_some_iff {s : List Char} :
    takeInner text = some (s, rest) ↔
      text = doubleQuotes s ++ '"' :: rest ∧ rest.head? ≠ some '"' := by
  constructor
  · intro read
    fun_induction takeInner text generalizing s with
    | case1 => cases read
    | case2 later ih =>
      obtain ⟨⟨inner, after⟩, found, same⟩ := Option.map_eq_some_iff.mp read
      cases same
      obtain ⟨rfl, apart⟩ := ih found
      exact ⟨rfl, apart⟩
    | case3 later alone =>
      cases read
      refine ⟨rfl, fun head => ?_⟩
      obtain ⟨more, written⟩ := List.head?_eq_some_iff.mp head
      exact alone more written
    | case4 c later _ plain ih =>
      obtain ⟨⟨inner, after⟩, found, same⟩ := Option.map_eq_some_iff.mp read
      cases same
      obtain ⟨rfl, apart⟩ := ih found
      rw [doubleQuotes, if_neg plain]
      exact ⟨rfl, apart⟩
  · rintro ⟨rfl, apart⟩
    exact takeInner_doubleQuotes s rest fun r written => apart (by rw [written]; rfl)

theorem toList_quoteIdent_append (name : String) (rest : List Char) :
    (quoteIdent name).toList ++ rest = '"' :: (doubleQuotes name.toList ++ '"' :: rest) := by
  simp [quoteIdent]

theorem toList_qualify_append (table column : String) (rest : List Char) :
    (qualify table column).toList ++ rest =
      (quoteIdent table).toList ++ '.' :: ((quoteIdent column).toList ++ rest) := by
  simp [qualify]

/-- Quoted names are read from the front of a text, and nothing else is. -/
theorem takeName_eq_some_iff :
    takeName text = some (name.toList, rest) ↔
      text = (quoteIdent name).toList ++ rest ∧ rest.head? ≠ some '"' := by
  rw [toList_quoteIdent_append]
  unfold takeName
  split
  · rw [takeInner_eq_some_iff, List.cons_inj_right]
  · rename_i other
    constructor
    · exact nofun
    · rintro ⟨rfl, -⟩
      exact absurd rfl (other _)

/-- A column is read name by name, the first one ended by a dot and the second one not. -/
theorem takeQualified_iff_takeName {s t : List Char} :
    takeQualified text = some ((s, t), rest) ↔
      ∃ later, takeName text = some (s, '.' :: later) ∧ takeName later = some (t, rest) ∧
        rest.head? ≠ some '.' := by
  unfold takeQualified
  constructor
  · intro read
    split at read
    · rename_i first later found
      split at read
      · cases read
      · rename_i single second
        cases read
        refine ⟨later, found, second, fun head => ?_⟩
        obtain ⟨more, rfl⟩ := List.head?_eq_some_iff.mp head
        exact single more rfl
      · cases read
    · cases read
  · rintro ⟨later, first, second, single⟩
    rw [first]
    simp only [second]
    split
    · rename_i same
      cases same
      exact absurd rfl single
    · rename_i same
      cases same
      rfl
    · rename_i same
      cases same

theorem takeQualified_eq_some_iff :
    takeQualified text = some ((table.toList, column.toList), rest) ↔
      text = (qualify table column).toList ++ rest ∧
        rest.head? ≠ some '"' ∧ rest.head? ≠ some '.' := by
  simp only [takeQualified_iff_takeName, takeName_eq_some_iff, toList_qualify_append]
  constructor
  · rintro ⟨later, ⟨rfl, -⟩, ⟨rfl, quote⟩, dot⟩
    exact ⟨rfl, quote, dot⟩
  · rintro ⟨rfl, quote, dot⟩
    exact ⟨_, ⟨rfl, by simp⟩, ⟨rfl, quote⟩, dot⟩

/-- Names are told from each other whatever follows them: no quoted name begins another one. -/
theorem quoteIdent_append_inj {name other : String} {rest more : List Char}
    (same : (quoteIdent name).toList ++ rest = (quoteIdent other).toList ++ more)
    (hr : rest.head? ≠ some '"') (hm : more.head? ≠ some '"') : name = other ∧ rest = more := by
  have first : takeName ((quoteIdent name).toList ++ rest) = some (name.toList, rest) :=
    takeName_eq_some_iff.mpr ⟨rfl, hr⟩
  have second : takeName ((quoteIdent other).toList ++ more) = some (other.toList, more) :=
    takeName_eq_some_iff.mpr ⟨rfl, hm⟩
  rw [same, second] at first
  obtain ⟨names, rests⟩ := Prod.mk.inj (Option.some.inj first)
  exact ⟨(String.toList_inj.mp names).symm, rests.symm⟩

theorem quoteIdent_injective : Function.Injective quoteIdent := by
  intro name other same
  have written : (quoteIdent name).toList ++ [] = (quoteIdent other).toList ++ [] := by rw [same]
  exact (quoteIdent_append_inj written nofun nofun).1

theorem qualify_injective2 : Function.Injective2 qualify := by
  intro table other column another same
  have written : (qualify table column).toList ++ [] = (qualify other another).toList ++ [] := by
    rw [same]
  rw [toList_qualify_append, toList_qualify_append] at written
  obtain ⟨tables, columns⟩ := quoteIdent_append_inj written (by simp) (by simp)
  exact ⟨tables, (quoteIdent_append_inj (List.cons.inj columns).2 nofun nofun).1⟩

theorem qualified_injective : Function.Injective ColumnRef.qualified := by
  intro c d same
  obtain ⟨sources, columns⟩ := qualify_injective2 same
  cases c
  cases d
  cases sources
  cases columns
  rfl

namespace LexState

variable {s : LexState}

/-- Whether a name is being read. A quote may have closed it already. -/
def inName : LexState → Bool
  | .name _ | .nameQuote _ => true
  | _ => false

/-- A name is read on until a lexeme comes out. -/
theorem inName_take {c : Char} (within : s.inName = true) (silent : (s.take c).2 = []) :
    (s.take c).1.inName = true := by
  cases s with
  | name read =>
    rw [take]
    split <;> rfl
  | nameQuote read =>
    by_cases quote : c = '"'
    · rw [take, if_pos quote]
      rfl
    · rw [take, if_neg quote] at silent
      cases silent
  | between | sign | word | literal | literalQuote | comment => cases within

theorem inName_takeAll (within : s.inName = true) (silent : (s.takeAll text).2 = []) :
    (s.takeAll text).1.inName = true := by
  induction text generalizing s with
  | nil => exact within
  | cons c later ih =>
    rw [takeAll_cons] at silent ⊢
    obtain ⟨now, after⟩ := List.append_eq_nil_iff.mp silent
    exact ih (inName_take within now) after

/-- A name ends before anything but a quote, and what follows is read as it is by itself. -/
theorem close_nameQuote (read : List Char) (apart : rest.head? ≠ some '"') :
    ((nameQuote read).takeAll rest).1.close.map (((nameQuote read).takeAll rest).2 ++ ·) =
      (lexemes rest).map (.name read.reverse :: ·) := by
  cases rest with
  | nil => rfl
  | cons c later =>
    have plain : (nameQuote read).goesOn c = false :=
      beq_false_of_ne fun same => apart (congrArg some same)
    have ended : (nameQuote read).close = some [.name read.reverse] := rfl
    rw [takeAll_of_not_goesOn plain ended, lexemes, Option.map_map]
    rfl

end LexState

/-- At each place inside of a text, and at its end, a reader that begins with it is in a name, and
no lexeme has come out yet. -/
def Unbroken (text : List Char) : Prop :=
  ∀ before, before <+: text → before ≠ [] →
    (LexState.between.takeAll before).1.inName = true ∧ (LexState.between.takeAll before).2 = []

theorem unbroken_quoteIdent (name : String) : Unbroken (quoteIdent name).toList := by
  rintro before ⟨after, whole⟩ nonempty
  have read := LexState.takeAll_quoteIdent (s := .between) rfl rfl name
  rw [← whole, LexState.takeAll_append] at read
  -- no lexeme comes out of the whole name, so none does on the way
  have silent := (List.append_eq_nil_iff.mp (Prod.mk.inj read).2).1
  refine ⟨?_, silent⟩
  cases before with
  | nil => exact absurd rfl nonempty
  | cons c later =>
    obtain rfl : c = '"' := by
      rw [quoteIdent, String.toList_ofList] at whole
      exact (List.cons.inj whole).1
    exact LexState.inName_takeAll (s := .name []) rfl silent

/-- Wherever a text stands in a statement it is read as these lexemes, and what stands around it is
read as it is by itself, unless two quotes meet. -/
def StandsAs (text : List Char) (ls : List Lexeme) : Prop :=
  ∀ left right before, lexemes left = some before →
    (LexState.between.takeAll left).1.goesOn '"' = false → right.head? ≠ some '"' →
    lexemes (left ++ (text ++ right)) = (lexemes right).map (before ++ ls ++ ·)

theorem standsAs_quoteIdent (name : String) :
    StandsAs (quoteIdent name).toList [.name name.toList] := by
  intro left right before read apart other
  obtain ⟨ended, closed, rfl⟩ := lexemes_iff.mp read
  have named := LexState.takeAll_quoteIdent apart closed name
  have after := LexState.close_nameQuote name.toList.reverse other
  rw [List.reverse_reverse] at after
  calc
    lexemes (left ++ ((quoteIdent name).toList ++ right)) =
        (((LexState.nameQuote name.toList.reverse).takeAll right).1.close.map
          (((LexState.nameQuote name.toList.reverse).takeAll right).2 ++ ·)).map
          ((LexState.between.takeAll left).2 ++ ended ++ ·) := by
      simp only [lexemes, LexState.takeAll_append, named, Option.map_map, Function.comp_def,
        List.append_assoc]
    _ = (lexemes right).map
          ((LexState.between.takeAll left).2 ++ ended ++ [.name name.toList] ++ ·) := by
      simp only [after, Option.map_map, Function.comp_def, List.append_assoc, List.singleton_append]

theorem standsAs_qualify (table column : String) :
    StandsAs (qualify table column).toList
      [.name table.toList, .sign '.', .name column.toList] := by
  intro left right before read apart other
  have dotted : lexemes (left ++ ((quoteIdent table).toList ++ ['.'])) =
      some (before ++ [.name table.toList] ++ [.sign '.']) :=
    standsAs_quoteIdent table left ['.'] before read apart (by decide)
  obtain ⟨ended, closed, -⟩ := lexemes_iff.mp read
  have between : (LexState.between.takeAll (left ++ ((quoteIdent table).toList ++ ['.']))).1 =
      .between := by
    rw [LexState.takeAll_append, LexState.takeAll_append,
      LexState.takeAll_quoteIdent apart closed table]
    rfl
  have second := standsAs_quoteIdent column _ right _ dotted (by rw [between]; rfl) other
  rw [toList_qualify_append]
  simpa [List.append_assoc] using second

end Statement

open Statement

/-- Quoting is undone exactly, whatever characters the names have. A column is read back as its two
names and leaves over what follows, which must go on neither with the second name nor with a third;
nothing else is read as these names. In a statement the column is three lexemes, and changes nothing
around it. Names that differ are written differently, and no name can end its own quoting. -/
theorem quoted_names_read_back :
    (∀ (table column : String) (text rest : List Char),
      takeQualified text = some ((table.toList, column.toList), rest) ↔
        text = (qualify table column).toList ++ rest ∧
          rest.head? ≠ some '"' ∧ rest.head? ≠ some '.') ∧
    (∀ table column : String, StandsAs (qualify table column).toList
      [.name table.toList, .sign '.', .name column.toList]) ∧
    Function.Injective2 qualify ∧ Function.Injective ColumnRef.qualified ∧
    Function.Injective quoteIdent ∧ ∀ name, Unbroken (quoteIdent name).toList :=
  ⟨fun _ _ _ _ => takeQualified_eq_some_iff, standsAs_qualify, qualify_injective2,
    qualified_injective, quoteIdent_injective, unbroken_quoteIdent⟩

namespace Sample

/-- A name that looks like a column. -/
def dottedTable : String := "a\".\"b"

def quotedColumn : String := "\" OR \"\""

end Sample

open Sample in
theorem quoted_names_read_back_lookalikes :
    takeQualified ((qualify dottedTable quotedColumn).toList ++ " = 1".toList) =
      some ((dottedTable.toList, quotedColumn.toList), " = 1".toList) ∧
    lexemes ("WHERE ".toList ++ ((qualify dottedTable quotedColumn).toList ++ " = 1".toList)) =
      some [.word "WHERE".toList, .name dottedTable.toList, .sign '.', .name quotedColumn.toList,
        .sign '=', .word ['1']] := by
  have whole : lexemes ("WHERE ".toList ++
      ((qualify dottedTable quotedColumn).toList ++ " = 1".toList)) = _ :=
    quoted_names_read_back.2.1 dottedTable quotedColumn "WHERE ".toList " = 1".toList
      [.word "WHERE".toList] (by decide) (by decide) (by decide)
  refine ⟨?_, whole.trans ?_⟩
  · exact (quoted_names_read_back.1 _ _ _ _).mpr ⟨rfl, by decide, by decide⟩
  · decide

end FieldQuery

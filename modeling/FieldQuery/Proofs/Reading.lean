import FieldQuery.Proofs.Bindings
import FieldQuery.Proofs.Nesting

/-!
# Reading piece by piece

What is read of one text and then of another is what is read of both together, provided that the
second does not go on with the last lexeme of the first. So the lexemes of a fragment are those of
its parts. Main statements: `lexemes_append`, `lexemes_quoteIdent` and `RawQuery.Cut.alike`.
-/
namespace FieldQuery

namespace Statement

/-- Whether a character goes on with no lexeme before it. -/
def breaks (c : Char) : Bool := !isWordChar c && c != '"' && c != '\'' && c != '-' && c != '*'

namespace LexState

theorem takeAll_cons (s : LexState) (c : Char) (rest : List Char) :
    s.takeAll (c :: rest) =
      (((s.take c).1.takeAll rest).1, (s.take c).2 ++ ((s.take c).1.takeAll rest).2) := rfl

/-- Whether a character goes on with what is being read. -/
def goesOn : LexState → Char → Bool
  | between, _ => false
  | sign d, c => beginsComment d c
  | word _, c => isWordChar c
  | nameQuote _, c => c == '"'
  | literalQuote _, c => c == '\''
  | name _, _ | literal _, _ | comment, _ => true

variable {s : LexState} {c : Char} {ended : List Lexeme}

/-- A character that does not go on with what is being read ends it. -/
theorem take_of_not_goesOn (apart : s.goesOn c = false) (closed : s.close = some ended) :
    s.take c = ((begin c).1, ended ++ (begin c).2) := by
  cases s with
  | between =>
    cases closed
    rfl
  | sign d =>
    cases closed
    rw [take, show beginsComment d c = false from apart]
    rfl
  | word read =>
    cases closed
    rw [take, show isWordChar c = false from apart]
    rfl
  | nameQuote read =>
    cases closed
    rw [take, if_neg (ne_of_beq_false apart)]
    rfl
  | literalQuote read =>
    cases closed
    rw [take, if_neg (ne_of_beq_false apart)]
    rfl
  | name read => cases closed
  | literal read => cases closed
  | comment => cases closed

/-- The text behind it is then read as it is by itself. -/
theorem takeAll_of_not_goesOn (apart : s.goesOn c = false) (closed : s.close = some ended)
    (rest : List Char) :
    s.takeAll (c :: rest) =
      ((between.takeAll (c :: rest)).1, ended ++ (between.takeAll (c :: rest)).2) := by
  rw [takeAll_cons, take_of_not_goesOn apart closed, takeAll_cons, List.append_assoc]
  rfl

theorem not_goesOn_of_breaks (h : breaks c = true) (closed : s.close = some ended) :
    s.goesOn c = false := by
  simp only [breaks, Bool.and_eq_true, Bool.not_eq_true', bne_iff_ne] at h
  obtain ⟨⟨⟨⟨word, double⟩, single⟩, dash⟩, star⟩ := h
  cases s with
  | between => rfl
  | sign d => simp [goesOn, beginsComment, dash, star]
  | word read => exact word
  | nameQuote read => exact beq_false_of_ne double
  | literalQuote read => exact beq_false_of_ne single
  | name read => cases closed
  | literal read => cases closed
  | comment => cases closed

/-- What is being read when a text begins with a breaking character goes no further. -/
theorem takeAll_of_breaks {text : List Char} (h : text.head?.any breaks = true)
    (closed : s.close = some ended) :
    s.takeAll text = ((between.takeAll text).1, ended ++ (between.takeAll text).2) := by
  cases text with
  | nil => cases h
  | cons c rest => exact takeAll_of_not_goesOn (not_goesOn_of_breaks h closed) closed rest

theorem isWordChar_of_isDigit {c : Char} (h : c.isDigit = true) : isWordChar c = true := by
  simp [isWordChar, Char.isAlphanum, h]

theorem takeAll_word {text : List Char} (h : ∀ c ∈ text, isWordChar c = true) (read : List Char) :
    (LexState.word read).takeAll text = (word (text.reverse ++ read), []) := by
  induction text generalizing read with
  | nil => rfl
  | cons c rest ih =>
    have within : (LexState.word read).take c = (LexState.word (c :: read), []) :=
      if_pos (h c List.mem_cons_self)
    rw [takeAll_cons, within, ih fun x mem => h x (List.mem_cons_of_mem c mem), List.reverse_cons,
      List.append_assoc]
    rfl

theorem takeAll_doubleQuotes (name read : List Char) :
    (LexState.name read).takeAll (doubleQuotes name ++ ['"']) =
      (nameQuote (name.reverse ++ read), []) := by
  induction name generalizing read with
  | nil => rfl
  | cons c rest ih =>
    by_cases quote : c = '"'
    · subst quote
      rw [doubleQuotes, if_pos rfl, List.reverse_cons, List.append_assoc]
      exact ih ('"' :: read)
    · have within : (LexState.name read).take c = (LexState.name (c :: read), []) := if_neg quote
      rw [doubleQuotes, if_neg quote, List.cons_append, takeAll_cons, within, ih, List.reverse_cons,
        List.append_assoc]
      rfl

/-- A quoted name is read to its end, and nothing comes out of it before. -/
theorem takeAll_quoteIdent (apart : s.goesOn '"' = false) (closed : s.close = some ended)
    (name : String) :
    s.takeAll (quoteIdent name).toList = (nameQuote name.toList.reverse, ended) := by
  have whole : between.takeAll ('"' :: (doubleQuotes name.toList ++ ['"'])) =
      (nameQuote name.toList.reverse, []) := by
    have inner := takeAll_doubleQuotes name.toList []
    rw [List.append_nil] at inner
    rw [takeAll_cons]
    exact congrArg (fun r => (r.1, [] ++ r.2)) inner
  rw [quoteIdent, String.toList_ofList, takeAll_of_not_goesOn apart closed, whole, List.append_nil]

end LexState

theorem lexemes_iff {text : List Char} {ls : List Lexeme} :
    lexemes text = some ls ↔ ∃ ended,
      (LexState.between.takeAll text).1.close = some ended ∧
      ls = (LexState.between.takeAll text).2 ++ ended := by
  constructor
  · intro h
    obtain ⟨ended, closed, rfl⟩ := Option.map_eq_some_iff.mp h
    exact ⟨ended, closed, rfl⟩
  · rintro ⟨ended, closed, rfl⟩
    exact Option.map_eq_some_iff.mpr ⟨ended, closed, rfl⟩

end Statement

open Statement

/-- A text that begins with a breaking character. -/
def Fresh (text : String) : Prop := text.toList.head?.any breaks = true

/-- A text at whose end nothing is being read any more. -/
def Loose (text : String) : Prop := (LexState.between.takeAll text.toList).1 = .between

instance (text : String) : Decidable (Fresh text) := inferInstanceAs (Decidable (_ = _))

instance (text : String) : Decidable (Loose text) := inferInstanceAs (Decidable (_ = _))

theorem Fresh.append {text : String} (h : Fresh text) (more : String) : Fresh (text ++ more) := by
  rw [Fresh] at h ⊢
  rw [String.toList_append]
  cases ht : text.toList with
  | nil =>
    rw [ht] at h
    cases h
  | cons c rest =>
    rw [ht] at h
    exact h

/-- Two texts are read one after the other. -/
theorem lexemes_append {a b : String} {la lb : List Lexeme} (ha : lexemes a.toList = some la)
    (hb : lexemes b.toList = some lb) (apart : Loose a ∨ Fresh b) :
    lexemes (a ++ b).toList = some (la ++ lb) := by
  obtain ⟨ended, closed, rfl⟩ := lexemes_iff.mp ha
  obtain ⟨last, closing, rfl⟩ := lexemes_iff.mp hb
  have joined : (LexState.between.takeAll a.toList).1.takeAll b.toList =
      ((LexState.between.takeAll b.toList).1, ended ++ (LexState.between.takeAll b.toList).2) := by
    rcases apart with loose | fresh
    · rw [loose] at closed ⊢
      cases closed
      rfl
    · exact LexState.takeAll_of_breaks fresh closed
  refine lexemes_iff.mpr ⟨last, ?_, ?_⟩
  · rw [String.toList_append, LexState.takeAll_append, joined]
    exact closing
  · rw [String.toList_append, LexState.takeAll_append, joined]
    simp only [List.append_assoc]

/-- A quoted name is one lexeme, whatever its characters are. -/
theorem lexemes_quoteIdent (name : String) :
    lexemes (quoteIdent name).toList = some [.name name.toList] := by
  have read : LexState.between.takeAll (quoteIdent name).toList =
      (.nameQuote name.toList.reverse, []) := LexState.takeAll_quoteIdent rfl rfl name
  refine lexemes_iff.mpr ⟨[.name name.toList], ?_, ?_⟩
  · rw [read]
    exact congrArg (fun s => some [Lexeme.name s]) (List.reverse_reverse _)
  · rw [read]
    rfl

theorem lexemes_qualify (table column : String) :
    lexemes (qualify table column).toList =
      some [.name table.toList, .sign '.', .name column.toList] := by
  have dot : lexemes ".".toList = some [.sign '.'] := by decide
  have second := lexemes_append dot (lexemes_quoteIdent column) (.inl (by decide))
  have whole := lexemes_append (lexemes_quoteIdent table) second
    (.inr ((show Fresh "." by decide).append _))
  rwa [← String.append_assoc] at whole

theorem lexemes_placeholder_sqlite (n : Nat) :
    lexemes (Dialect.sqlite.placeholder n).toList = some [.sign '?'] := by
  rw [toList_placeholder_sqlite]
  rfl

theorem lexemes_placeholder_postgres (n : Nat) :
    lexemes (Dialect.postgres.placeholder n).toList = some [.word ('$' :: decimalDigits n)] := by
  have word : ∀ c ∈ decimalDigits n, isWordChar c = true := fun _ mem =>
    LexState.isWordChar_of_isDigit (isDigit_of_mem_decimalDigits mem)
  have read : LexState.between.takeAll ('$' :: decimalDigits n) =
      (.word ((decimalDigits n).reverse ++ ['$']), []) := by
    have dollar : LexState.between.take '$' = (.word ['$'], []) := rfl
    rw [LexState.takeAll_cons, dollar, LexState.takeAll_word word]
    rfl
  rw [toList_placeholder_postgres]
  refine lexemes_iff.mpr ⟨[.word ('$' :: decimalDigits n)], ?_, ?_⟩
  · rw [read, LexState.close]
    simp
  · rw [read]
    rfl

/-- A placeholder is a sign, or else a word that is no keyword. -/
theorem lexemes_placeholder (d : Dialect) (n : Nat) :
    lexemes (d.placeholder n).toList = some [.sign '?'] ∨
      lexemes (d.placeholder n).toList = some [.word ('$' :: decimalDigits n)] := by
  cases d with
  | sqlite => exact .inl (lexemes_placeholder_sqlite n)
  | postgres => exact .inr (lexemes_placeholder_postgres n)

namespace Statement

def Lexeme.isParenthesis (l : Lexeme) : Bool := l == .sign '(' || l == .sign ')'

def parentheses (ls : List Lexeme) : List Lexeme := ls.filter (·.isParenthesis)

theorem parentheses_append (a b : List Lexeme) :
    parentheses (a ++ b) = parentheses a ++ parentheses b := List.filter_append a b

/-- Whether lexemes are balanced depends on their parentheses alone. -/
theorem nesting_parentheses (k : Nat) (ls : List Lexeme) :
    (nesting k (parentheses ls)).isSome = (nesting k ls).isSome := by
  induction ls generalizing k with
  | nil => rfl
  | cons l rest ih =>
    by_cases opens : l = .sign '('
    · subst opens
      have kept : parentheses (.sign '(' :: rest) = .sign '(' :: parentheses rest := rfl
      rw [kept, nesting_open, nesting_open, Option.isSome_map, Option.isSome_map, ih]
    · by_cases closes : l = .sign ')'
      · subst closes
        have kept : parentheses (.sign ')' :: rest) = .sign ')' :: parentheses rest := rfl
        cases k with
        | zero => rfl
        | succ k =>
          rw [kept, nesting_close, nesting_close, Option.isSome_map, Option.isSome_map, ih]
      · have dropped : parentheses (l :: rest) = parentheses rest :=
          List.filter_cons_of_neg (by simp [Lexeme.isParenthesis, opens, closes])
        rw [dropped, nesting_other opens closes, Option.isSome_map, ih]

namespace LexState

theorem begin_of_isWordChar {c : Char} (h : isWordChar c = true) : begin c = (word [c], []) := by
  have double : c ≠ '"' := by
    rintro rfl
    cases h
  have single : c ≠ '\'' := by
    rintro rfl
    cases h
  rw [begin, if_neg double, if_neg single, if_pos h]

/-- States that differ in what has been read of a lexeme. Where a placeholder is written with a
number, the reader is in a word that the plain placeholder does not begin. -/
inductive Alike : LexState → LexState → Prop where
  | between : Alike between between
  | numbered (read : List Char) : Alike between (word read)
  | sign (c : Char) : Alike (sign c) (sign c)
  | word (read other : List Char) : Alike (word read) (word other)
  | name (read other : List Char) : Alike (name read) (name other)
  | nameQuote (read other : List Char) : Alike (nameQuote read) (nameQuote other)
  | literal (read other : List Char) : Alike (literal read) (literal other)
  | literalQuote (read other : List Char) : Alike (literalQuote read) (literalQuote other)
  | comment : Alike comment comment

namespace Alike

variable {s t : LexState}

theorem refl (s : LexState) : s.Alike s := by
  cases s <;> constructor

/-- Going on with a lexeme or ending it, on the same condition. -/
theorem goOn {p : Prop} [Decidable p] {c : Char} {a b : Lexeme} (h : s.Alike t)
    (ha : a.isParenthesis = false) (hb : b.isParenthesis = false) :
    (if p then (s, []) else ((begin c).1, a :: (begin c).2)).1.Alike
        (if p then (t, []) else ((begin c).1, b :: (begin c).2)).1 ∧
      parentheses (if p then (s, []) else ((begin c).1, a :: (begin c).2)).2 =
        parentheses (if p then (t, []) else ((begin c).1, b :: (begin c).2)).2 := by
  split
  · exact ⟨h, rfl⟩
  · refine ⟨refl _, ?_⟩
    unfold parentheses
    rw [List.filter_cons_of_neg (ne_true_of_eq_false ha),
      List.filter_cons_of_neg (ne_true_of_eq_false hb)]

/-- The same character takes states that are alike to such states again. -/
theorem take (h : s.Alike t) (c : Char) :
    (s.take c).1.Alike (t.take c).1 ∧
      parentheses (s.take c).2 = parentheses (t.take c).2 := by
  cases h with
  | between | sign | comment => exact ⟨refl _, rfl⟩
  | numbered read =>
    by_cases inWord : isWordChar c = true
    · have first : LexState.between.take c = (LexState.word [c], []) := begin_of_isWordChar inWord
      have second : (LexState.word read).take c = (LexState.word (c :: read), []) := if_pos inWord
      rw [first, second]
      exact ⟨.word _ _, rfl⟩
    · have second : (LexState.word read).take c =
        ((begin c).1, .word read.reverse :: (begin c).2) := if_neg inWord
      rw [second]
      exact ⟨refl _, rfl⟩
  | word read other => exact goOn (.word _ _) rfl rfl
  | nameQuote read other => exact goOn (.name _ _) rfl rfl
  | literalQuote read other => exact goOn (.literal _ _) rfl rfl
  | name read other =>
    rw [LexState.take, LexState.take]
    split
    · exact ⟨.nameQuote _ _, rfl⟩
    · exact ⟨.name _ _, rfl⟩
  | literal read other =>
    rw [LexState.take, LexState.take]
    split
    · exact ⟨.literalQuote _ _, rfl⟩
    · exact ⟨.literal _ _, rfl⟩

end Alike

/-- A state in which digits go on with what is being read. -/
def Absorbs : LexState → Prop
  | word _ | name _ | literal _ | comment => True
  | _ => False

namespace Alike

variable {s t : LexState}

theorem take_dollar (h : s.Alike t) :
    (s.take '?').1.Alike (t.take '$').1 ∧ (t.take '$').1.Absorbs ∧
      parentheses (s.take '?').2 = parentheses (t.take '$').2 := by
  cases h with
  | between | numbered read | word read other | nameQuote read other | literalQuote read other =>
    exact ⟨.numbered _, trivial, rfl⟩
  | sign c =>
    have each (d : Char) (hd : d ≠ '-' ∧ d ≠ '*') : (LexState.sign c).take d = begin d := by
      have plain : beginsComment c d = false := by simp [beginsComment, hd]
      rw [LexState.take, plain]
      rfl
    rw [each '?' (by decide), each '$' (by decide)]
    exact ⟨.numbered _, trivial, rfl⟩
  | name read other => exact ⟨.name _ _, trivial, rfl⟩
  | literal read other => exact ⟨.literal _ _, trivial, rfl⟩
  | comment => exact ⟨.comment, trivial, rfl⟩

theorem takeAll_digits (h : s.Alike t) (absorbs : t.Absorbs) {digits : List Char}
    (number : ∀ c ∈ digits, c.isDigit = true) :
    s.Alike (t.takeAll digits).1 ∧ (t.takeAll digits).2 = [] := by
  induction digits generalizing t with
  | nil => exact ⟨h, rfl⟩
  | cons c rest ih =>
    have digit : c.isDigit = true := number c List.mem_cons_self
    have inWord : isWordChar c = true := isWordChar_of_isDigit digit
    have one : s.Alike (t.take c).1 ∧ (t.take c).1.Absorbs ∧ (t.take c).2 = [] := by
      cases h with
      | numbered read =>
        rw [LexState.take, if_pos inWord]
        exact ⟨.numbered _, trivial, rfl⟩
      | word read other =>
        rw [LexState.take, if_pos inWord]
        exact ⟨.word _ _, trivial, rfl⟩
      | name read other =>
        have quote : c ≠ '"' := by
          rintro rfl
          cases digit
        rw [LexState.take, if_neg quote]
        exact ⟨.name _ _, trivial, rfl⟩
      | literal read other =>
        have quote : c ≠ '\'' := by
          rintro rfl
          cases digit
        rw [LexState.take, if_neg quote]
        exact ⟨.literal _ _, trivial, rfl⟩
      | comment => exact ⟨.comment, trivial, rfl⟩
      | between | sign | nameQuote | literalQuote => exact absurd absorbs id
    obtain ⟨alike, still, nothing⟩ := one
    obtain ⟨whole, none⟩ := ih alike still fun d mem => number d (List.mem_cons_of_mem c mem)
    rw [takeAll_cons, nothing, none]
    exact ⟨whole, rfl⟩

/-- A placeholder is read like the question mark that it stands for. -/
theorem takeAll_placeholder (h : s.Alike t) (d : Dialect) (n : Nat) :
    (s.take '?').1.Alike (t.takeAll (d.placeholder n).toList).1 ∧
      parentheses (s.take '?').2 = parentheses (t.takeAll (d.placeholder n).toList).2 := by
  cases d with
  | sqlite =>
    rw [toList_placeholder_sqlite, takeAll_cons]
    refine ⟨(h.take '?').1, ?_⟩
    rw [(h.take '?').2]
    exact congrArg parentheses (List.append_nil _).symm
  | postgres =>
    obtain ⟨alike, absorbs, same⟩ := h.take_dollar
    have number : ∀ c ∈ decimalDigits n, c.isDigit = true := fun _ => isDigit_of_mem_decimalDigits
    obtain ⟨whole, nothing⟩ := alike.takeAll_digits absorbs number
    rw [toList_placeholder_postgres, takeAll_cons, nothing, List.append_nil]
    exact ⟨whole, same⟩

theorem close (h : s.Alike t) {ended : List Lexeme} (closed : s.close = some ended) :
    ∃ other, t.close = some other ∧ parentheses other = parentheses ended := by
  cases h with
  | between | sign =>
    cases closed
    exact ⟨[], rfl, rfl⟩
  | numbered read =>
    cases closed
    exact ⟨_, rfl, rfl⟩
  | word read other | nameQuote read other | literalQuote read other =>
    cases closed
    exact ⟨_, rfl, rfl⟩
  | name | literal | comment => cases closed

end Alike

end LexState

end Statement

/-- Cut at its placeholders and written again, a text is read as it was written, as far as its
parentheses and quotes go. -/
theorem RawQuery.Cut.alike {d : Dialect} {b : Bool} {text : List Char} {params : List SqlValue}
    {f : Fragment} (h : Cut b text params f) {s t : LexState} (alike : s.Alike t) (n : Nat) :
    (s.takeAll text).1.Alike (t.takeAll (f.write d n).toList).1 ∧
      parentheses (s.takeAll text).2 = parentheses (t.takeAll (f.write d n).toList).2 := by
  induction h generalizing s t n with
  | nil b => exact ⟨alike, rfl⟩
  | @quote b rest params f later ih =>
    have written : "'".toList = ['\''] := by decide
    obtain ⟨next, same⟩ := alike.take '\''
    obtain ⟨last, others⟩ := ih next n
    rw [Fragment.write, String.toList_append, written, List.singleton_append, LexState.takeAll_cons,
      LexState.takeAll_cons, parentheses_append, parentheses_append, same, others]
    exact ⟨last, rfl⟩
  | @mark rest params f v later ih =>
    obtain ⟨next, same⟩ := alike.takeAll_placeholder d (n + 1)
    obtain ⟨last, others⟩ := ih next (n + 1)
    rw [Fragment.write, String.toList_append, LexState.takeAll_append, LexState.takeAll_cons,
      parentheses_append, parentheses_append, same, others]
    exact ⟨last, rfl⟩
  | @other b c rest params f noQuote noMark later ih =>
    obtain ⟨next, same⟩ := alike.take c
    obtain ⟨last, others⟩ := ih next n
    rw [Fragment.write, String.toList_append, String.toList_singleton, List.singleton_append,
      LexState.takeAll_cons, LexState.takeAll_cons, parentheses_append, parentheses_append, same,
      others]
    exact ⟨last, rfl⟩

/-- A raw query without comments, whose quotes are balanced and whose parentheses are properly
nested. -/
def RawQuery.Nested (q : RawQuery) : Prop := ∃ ls, lexemes q.sql.toList = some ls ∧ Nests ls

end FieldQuery

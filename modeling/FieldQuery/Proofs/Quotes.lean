import FieldQuery.Proofs.Digits
import FieldQuery.Statement.Plan

/-!
# Quotes in statements

A statement is read character by character, names between double quotes and literals between single
quotes being told from what stands outside of them. Text is quiet if it has no sign outside of
quotes that could begin a placeholder. All that a plan writes by itself is quiet, whatever names its
table has.
-/
namespace FieldQuery

/-- Where a reader of a statement is. A quote that is doubled ends one part between quotes and
begins the next. -/
inductive QuoteState where
  | outside
  | name
  | literal
deriving DecidableEq, Repr

namespace QuoteState

def after : QuoteState → Char → QuoteState
  | outside, c => if c = '"' then name else if c = '\'' then literal else outside
  | name, c => if c = '"' then outside else name
  | literal, c => if c = '\'' then outside else literal

def afterAll (s : QuoteState) (text : List Char) : QuoteState := text.foldl after s

theorem after_beq_literal (s : QuoteState) {c : Char} (h : c ≠ '\'') :
    (s.after c == literal) = (s == literal) := by
  by_cases quote : c = '"'
  · subst quote
    cases s <;> rfl
  · cases s with
    | outside => rw [after, if_neg quote, if_neg h]
    | name => rw [after, if_neg quote]
    | literal => rw [after, if_neg h]

theorem after_quote_beq_literal {s : QuoteState} (h : s ≠ name) :
    (s.after '\'' == literal) = !(s == literal) := by
  cases s with
  | outside => rfl
  | name => exact absurd rfl h
  | literal => rfl

/-- Whether a text ends outside of quotes and has neither `?` nor `$` there. -/
def quiet : QuoteState → List Char → Bool
  | s, [] => s == outside
  | s, c :: rest => !(s == outside && (c == '?' || c == '$')) && quiet (s.after c) rest

theorem quiet_cons {s : QuoteState} {c : Char} {rest : List Char}
    (h : s = outside → c ≠ '?' ∧ c ≠ '$') : quiet s (c :: rest) = quiet (s.after c) rest := by
  cases s with
  | outside => simp [quiet, h rfl]
  | name => rfl
  | literal => rfl

theorem quiet_append {s : QuoteState} {text more : List Char} (ht : quiet s text = true)
    (hm : quiet outside more = true) : quiet s (text ++ more) = true := by
  induction text generalizing s with
  | nil =>
    have here : s = outside := by simpa [quiet] using ht
    rw [here]
    exact hm
  | cons c rest ih =>
    simp only [quiet, Bool.and_eq_true] at ht
    simp only [List.cons_append, quiet, Bool.and_eq_true]
    exact ⟨ht.1, ih ht.2⟩

/-- A name in quotes is read past, whatever its characters are. -/
theorem quiet_doubleQuotes (name : List Char) :
    quiet .name (Statement.doubleQuotes name ++ ['"']) = true := by
  induction name with
  | nil => rfl
  | cons c rest ih =>
    have inside : QuoteState.name ≠ outside := by decide
    by_cases quote : c = '"'
    · rw [Statement.doubleQuotes, if_pos quote]
      exact ih
    · rw [Statement.doubleQuotes, if_neg quote, List.cons_append,
        quiet_cons fun here => absurd here inside, after, if_neg quote]
      exact ih

theorem quiet_digits {text : List Char} (h : ∀ c ∈ text, c.isDigit = true) :
    quiet outside text = true := by
  induction text with
  | nil => rfl
  | cons c rest ih =>
    have digit : c.isDigit = true := h c List.mem_cons_self
    have plain : c ≠ '?' ∧ c ≠ '$' ∧ c ≠ '"' ∧ c ≠ '\'' := by
      refine ⟨?_, ?_, ?_, ?_⟩ <;>
      · rintro rfl
        cases digit
    rw [quiet_cons fun _ => ⟨plain.1, plain.2.1⟩, after, if_neg plain.2.2.1, if_neg plain.2.2.2]
    exact ih fun x hx => h x (List.mem_cons_of_mem c hx)

end QuoteState

/-- A text without placeholders, after which the reader is outside of quotes again. -/
def Quiet (text : String) : Prop := QuoteState.quiet .outside text.toList = true

instance (text : String) : Decidable (Quiet text) := inferInstanceAs (Decidable (_ = _))

theorem Quiet.append {text more : String} (ht : Quiet text) (hm : Quiet more) :
    Quiet (text ++ more) := by
  rw [Quiet, String.toList_append]
  exact QuoteState.quiet_append ht hm

theorem quiet_decimalDigits (n : Nat) : Quiet (String.ofList (decimalDigits n)) := by
  rw [Quiet, String.toList_ofList]
  exact QuoteState.quiet_digits fun _ => isDigit_of_mem_decimalDigits

theorem quiet_quoteIdent (name : String) : Quiet (Statement.quoteIdent name) := by
  rw [Quiet, Statement.quoteIdent, String.toList_ofList,
    QuoteState.quiet_cons fun _ => by decide]
  exact QuoteState.quiet_doubleQuotes name.toList

theorem quiet_qualify (table column : String) : Quiet (Statement.qualify table column) :=
  ((quiet_quoteIdent table).append (by decide)).append (quiet_quoteIdent column)

theorem ColumnRef.quiet_qualified (c : ColumnRef) : Quiet c.qualified :=
  quiet_qualify c.source c.column

theorem quiet_intercalate {sep : String} (hs : Quiet sep) {texts : List String}
    (h : ∀ text ∈ texts, Quiet text) : Quiet (sep.intercalate texts) := by
  induction texts with
  | nil => exact (show Quiet "" by decide)
  | cons text rest ih =>
    have now : Quiet text := h text List.mem_cons_self
    have later : Quiet (sep.intercalate rest) := ih fun x hx => h x (List.mem_cons_of_mem text hx)
    cases rest with
    | nil =>
      rw [String.intercalate_singleton]
      exact now
    | cons next rest =>
      rw [String.intercalate_cons_cons]
      exact (now.append hs).append later

theorem JoinStep.quiet_text (hidesDeleted : Bool) (j : JoinStep) : Quiet (j.text hidesDeleted) := by
  have joined : Quiet (" LEFT JOIN " ++ Statement.quoteIdent j.table ++ " AS " ++
      Statement.quoteIdent j.label) :=
    (((show Quiet " LEFT JOIN " by decide).append (quiet_quoteIdent _)).append
      (by decide)).append (quiet_quoteIdent _)
  have left : Quiet (" ON " ++ Statement.qualify j.parent j.localKey ++ " = ") :=
    ((show Quiet " ON " by decide).append (quiet_qualify _ _)).append (by decide)
  unfold JoinStep.text
  refine ((joined.append left).append (quiet_qualify _ _)).append ?_
  split
  · exact ((show Quiet " AND " by decide).append (quiet_qualify _ _)).append (by decide)
  · decide

theorem OrderKey.quiet_text (key : OrderKey) : Quiet key.text := by
  cases key with
  | isNull c => exact ((show Quiet "(" by decide).append c.quiet_qualified).append (by decide)
  | folded c => exact ((show Quiet "LOWER(" by decide).append c.quiet_qualified).append (by decide)
  | plain c => exact c.quiet_qualified

theorem OrderTerm.quiet_text (t : OrderTerm) : Quiet t.text := by
  have keyword : Quiet t.direction.keyword := by cases t.direction <;> decide
  exact (t.key.quiet_text.append (show Quiet " " by decide)).append keyword

namespace Plan

variable (p : Plan)

theorem quiet_orderText : Quiet p.orderText := by
  unfold orderText
  split
  · decide
  · refine (show Quiet " ORDER BY " by decide).append (quiet_intercalate (by decide) ?_)
    intro text mem
    obtain ⟨t, -, rfl⟩ := List.mem_map.mp mem
    exact t.quiet_text

theorem quiet_windowText (window : Option PageWindow) : Quiet (windowText window) := by
  cases window with
  | none => decide
  | some w =>
    exact (((show Quiet " LIMIT " by decide).append (quiet_decimalDigits _)).append
      (by decide)).append (quiet_decimalDigits _)

theorem quiet_lockText (lock : Bool) : Quiet (p.lockText lock) := by
  unfold lockText
  split
  · exact (show Quiet " FOR UPDATE OF " by decide).append (quiet_quoteIdent _)
  · decide

end Plan

end FieldQuery

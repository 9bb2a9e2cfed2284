import FieldQuery.Proofs.Alignment
import FieldQuery.Proofs.Formulas
import FieldQuery.Statement.Qualifier

/-!
# Qualifiers of a plan

What a plan writes by itself qualifies columns by the names that stand in its parts and by no other,
whatever characters these names have. Main statement: `Plan.Keeps.reads`.
-/
namespace FieldQuery

open Statement Fragment

variable {d : Dialect} {good : String → Prop}

namespace Statement

variable {a b : List Lexeme}

theorem qualifiers_append (h : b.head? ≠ some (.sign '.')) :
    qualifiers (a ++ b) = qualifiers a ++ qualifiers b := by
  induction a with
  | nil => rfl
  | cons l rest ih =>
    cases l with
    | name s =>
      have next : (rest ++ b).head? = some (.sign '.') ↔ rest.head? = some (.sign '.') := by
        cases rest with
        | nil => exact ⟨fun dot => absurd dot h, nofun⟩
        | cons m _ => exact Iff.rfl
      simp only [List.cons_append, qualifiers, ih, next, List.append_assoc]
    | literal | word | sign => exact ih

theorem Refers.append (ha : Refers good a) (hb : Refers good b) : Refers good (a ++ b) := by
  constructor
  · cases a with
    | nil => exact hb.1
    | cons => exact ha.1
  · intro name mem
    rw [qualifiers_append hb.1] at mem
    rcases List.mem_append.mp mem with first | second
    · exact ha.2 name first
    · exact hb.2 name second

/-- Lexemes none of which is a dot after a name. -/
def qualifiesNothing (ls : List Lexeme) : Bool :=
  (qualifiers ls).isEmpty && ls.head? != some (.sign '.')

theorem refers_of_qualifiesNothing (h : qualifiesNothing a = true) : Refers good a := by
  simp only [qualifiesNothing, Bool.and_eq_true, bne_iff_ne, List.isEmpty_iff] at h
  refine ⟨h.2, ?_⟩
  rw [h.1]
  exact nofun

theorem refers_qualified {c : ColumnRef} (h : good c.source) :
    Refers good [.name c.source.toList, .sign '.', .name c.column.toList] := by
  refine ⟨by simp, ?_⟩
  intro name mem
  obtain rfl : name = c.source := by simpa [qualifiers] using mem
  exact h

theorem lexemes_decimalDigits (n : Nat) :
    lexemes (String.ofList (decimalDigits n)).toList = some [.word (decimalDigits n)] := by
  have word : ∀ c ∈ decimalDigits n, isWordChar c = true := fun _ mem =>
    LexState.isWordChar_of_isDigit (isDigit_of_mem_decimalDigits mem)
  rw [String.toList_ofList]
  cases hd : decimalDigits n with
  | nil => exact absurd hd (decimalDigits_ne_nil n)
  | cons c rest =>
    rw [hd] at word
    have first : LexState.between.take c = (.word [c], []) :=
      LexState.begin_of_isWordChar (word c List.mem_cons_self)
    have read : LexState.between.takeAll (c :: rest) = (.word (rest.reverse ++ [c]), []) := by
      rw [LexState.takeAll_cons, first,
        LexState.takeAll_word fun x mem => word x (List.mem_cons_of_mem c mem)]
      rfl
    refine lexemes_iff.mpr ⟨[.word (c :: rest)], ?_, ?_⟩
    · rw [read, LexState.close]
      simp
    · rw [read]
      rfl

end Statement

/-- A text that can be read by itself and qualifies nothing. -/
def Bare (s : String) : Prop := (lexemes s.toList).any qualifiesNothing = true

/-- A bare text that is read by itself wherever it stands between others. -/
def Separates (s : String) : Prop := Bare s ∧ Fresh s ∧ Loose s

instance (s : String) : Decidable (Bare s) := inferInstanceAs (Decidable (_ = _))

instance (s : String) : Decidable (Separates s) := inferInstanceAs (Decidable (_ ∧ _ ∧ _))

theorem Bare.read {s : String} (h : Bare s) :
    ∃ ls, lexemes s.toList = some ls ∧ Refers good ls := by
  unfold Bare at h
  cases read : lexemes s.toList with
  | none =>
    rw [read] at h
    cases h
  | some ls =>
    rw [read] at h
    exact ⟨ls, rfl, refers_of_qualifiesNothing h⟩

theorem Separates.spaced {s : String} (h : Separates s) :
    ∃ ls, Spaced s ls ∧ Refers good ls := by
  obtain ⟨ls, read, refers⟩ := h.1.read
  exact ⟨ls, ⟨read, h.2⟩, refers⟩

namespace Fragment

variable {f g : Fragment} {s : String}

theorem reads_nil : Reads d (Refers good) [] :=
  fun _ => ⟨[], rfl, refers_of_qualifiesNothing rfl⟩

theorem reads_bare (h : Bare s) : Reads d (Refers good) [.text s] := by
  obtain ⟨ls, read, refers⟩ := h.read
  exact reads_text read refers

/-- A text before a fragment. -/
theorem Reads.led (hf : Reads d (Refers good) f) (bare : Bare s) (loose : Loose s) :
    Reads d (Refers good) (.text s :: f) := by
  obtain ⟨ls, read, refers⟩ : ∃ ls, lexemes s.toList = some ls ∧ Refers good ls := bare.read
  exact hf.cons_text read loose fun a ha => refers.append ha

/-- A fragment before a text that goes on with nothing. -/
theorem Reads.followed (hf : Reads d (Refers good) f)
    (hg : Reads d (Refers good) (.text s :: g)) (fresh : Fresh s) :
    Reads d (Refers good) (f ++ .text s :: g) :=
  hf.append hg (breaking_text fresh) fun _ _ => Refers.append

theorem Reads.ended (hf : Reads d (Refers good) f) (bare : Bare s) (fresh : Fresh s) :
    Reads d (Refers good) (f ++ [.text s]) :=
  hf.followed (reads_bare bare) fresh

theorem Reads.separated (hf : Reads d (Refers good) f) (hg : Reads d (Refers good) g)
    (h : Separates s) : Reads d (Refers good) (f ++ [.text s] ++ g) := by
  obtain ⟨ls, spaced, refers⟩ := h.spaced
  exact hf.around hg spaced fun _ _ ha hb => ha.append (refers.append hb)

theorem Reads.in_parentheses (hf : Reads d (Refers good) f) :
    Reads d (Refers good) f.enclosed :=
  (hf.ended (by decide) (by decide)).led (s := "(") (by decide) (by decide)

theorem reads_reference {c : ColumnRef} (h : good c.source) :
    Reads d (Refers good) [.text c.qualified] :=
  reads_text (lexemes_qualify c.source c.column) (refers_qualified h)

/-- The name of an item by itself. -/
theorem reads_name (name : String) : Reads d (Refers good) [.text (quoteIdent name)] :=
  reads_text (lexemes_quoteIdent name) (refers_of_qualifiesNothing rfl)

theorem reads_number (n : Nat) :
    Reads d (Refers good) [.text (String.ofList (decimalDigits n))] :=
  reads_text (lexemes_decimalDigits n) (refers_of_qualifiesNothing rfl)

theorem reads_value (v : SqlValue) : Reads d (Refers good) [.place v] := by
  intro n
  rw [write_place]
  rcases lexemes_placeholder d (n + 1) with read | read
  · exact ⟨_, read, refers_of_qualifiesNothing rfl⟩
  · exact ⟨_, read, refers_of_qualifiesNothing rfl⟩

theorem Reads.listed {α : Type} {frag : α → Fragment} {xs : List α}
    (h : ∀ x ∈ xs, Reads d (Refers good) (frag x)) (sep : Separates s) :
    Reads d (Refers good) (Fragment.join s (xs.map frag)) := by
  obtain ⟨ls, spaced, refers⟩ := sep.spaced
  exact .interspersed (refers_of_qualifiesNothing rfl) h spaced fun _ _ ha hb =>
    ha.append (refers.append hb)

/-- A column between two texts. -/
theorem reads_around (before after : String) {c : ColumnRef} (h : good c.source)
    (first : Bare before ∧ Loose before) (last : Bare after ∧ Fresh after) :
    Reads d (Refers good) [.text (before ++ c.qualified ++ after)] := by
  have column := (reads_reference (d := d) h).ended last.1 last.2
  refine (column.led first.1 first.2).of_write fun n => ?_
  simp [write, String.append_assoc]

end Fragment

theorem SqlExpr.On.refers {e : SqlExpr} {c : ColumnRef} (h : e.On c) (known : good c.source) :
    Reads d (Refers good) (e.fragment d) := by
  induction e with
  | column text =>
    cases h
    exact reads_reference known
  | timeOfDay text =>
    cases h
    cases d with
    | sqlite => exact reads_around "time(" ")" known (by decide) (by decide)
    | postgres =>
      exact reads_around "to_char(" ", 'HH24:MI:SS')" known (by decide)
        (by decide)
  | instant text =>
    cases h
    cases d with
    | sqlite =>
      exact reads_around "strftime('%Y-%m-%d %H:%M:%f', " ")" known
        (by decide) (by decide)
    | postgres => exact reads_reference known
  | lower e ih => exact ((ih h).ended (by decide) (by decide)).led (by decide) (by decide)
  | bound v => exact reads_value v

theorem Comparison.separates (op : Comparison) : Separates (" " ++ op.sign ++ " ") := by
  cases op <;> decide

theorem SqlTest.On.refers {t : SqlTest} {c : ColumnRef} (h : t.On c) (known : good c.source) :
    Reads d (Refers good) (t.fragment d) := by
  have expr {e : SqlExpr} (he : e.On c) : Reads d (Refers good) (e.fragment d) := he.refers known
  cases t with
  | compare op left right => exact (expr h.1).separated (expr h.2) op.separates
  | between e low high =>
    obtain ⟨he, hlow, hhigh⟩ := h
    exact ((expr he).separated (expr hlow) (by decide)).separated (expr hhigh) (by decide)
  | outside e low high =>
    obtain ⟨he, hlow, hhigh⟩ := h
    have below := (expr he).separated (s := " < ") (expr hlow) (by decide)
    have again := below.separated (s := " OR ") (expr he) (by decide)
    have above := again.separated (s := " > ") (expr hhigh) (by decide)
    exact (above.ended (by decide) (by decide)).led (by decide) (by decide)
  | like e pattern negated =>
    have escape : Reads d (Refers good) ([.place pattern] ++ [.text " ESCAPE '\\'"]) :=
      (reads_value pattern).ended (by decide) (by decide)
    have whole (s : String) (sep : Separates s) : Reads d (Refers good)
        (.text "LOWER(" :: (e.fragment d ++ .text s :: ([.place pattern] ++
          [.text " ESCAPE '\\'"]))) :=
      ((expr h).followed (escape.led sep.1 sep.2.2) sep.2.1).led (by decide) (by decide)
    cases negated with
    | false => exact whole ") LIKE " (by decide)
    | true => exact whole ") NOT LIKE " (by decide)
  | isNull e => exact (expr h).ended (by decide) (by decide)
  | isNotNull e => exact (expr h).ended (by decide) (by decide)
  | isBlank e =>
    have both := (expr h).separated (s := " IS NULL OR ") (expr h) (by decide)
    exact (both.ended (by decide) (by decide)).led (by decide) (by decide)
  | isNotBlank e =>
    have both := (expr h).separated (s := " IS NOT NULL AND ") (expr h) (by decide)
    exact (both.ended (by decide) (by decide)).led (by decide) (by decide)

theorem ColumnOperator.separates (op : ColumnOperator) : Separates (" " ++ op.sign ++ " ") := by
  cases op <;> decide

theorem ColumnTest.refers {c : ColumnRef} (t : ColumnTest) (known : good c.source) :
    Reads d (Refers good) (t.fragment c.qualified) := by
  have column := reads_reference (d := d) known
  cases t with
  | null negated =>
    have whole (s : String) (bare : Bare s) (fresh : Fresh s) :
        Reads d (Refers good) [.text (c.qualified ++ s)] :=
      (column.ended bare fresh).of_write fun n => by simp [write]
    cases negated with
    | false => exact whole " IS NULL" (by decide) (by decide)
    | true => exact whole " IS NOT NULL" (by decide) (by decide)
  | constant outcome => cases outcome <;> exact reads_bare (by decide)
  | member values negated =>
    have members : Reads d (Refers good)
        (Fragment.join ", " (values.map fun v => [.place v]) ++ [.text ")"]) :=
      (Reads.listed (fun v _ => reads_value v) (by decide)).ended (by decide) (by decide)
    have whole (s : String) (sep : Separates s) : Reads d (Refers good)
        ([.text (c.qualified ++ s)] ++ Fragment.join ", " (values.map fun v => [.place v]) ++
          [.text ")"]) := by
      refine (column.separated members sep).of_write fun n => ?_
      simp [write, String.append_assoc]
    cases negated with
    | false => exact whole " IN (" (by decide)
    | true => exact whole " NOT IN (" (by decide)
  | compare op value =>
    refine (column.separated (reads_value value) op.separates).of_write fun n => ?_
    simp [fragment, write, toString, String.append_assoc]

/-- What a conjunct holds is read with good qualifiers. -/
def Conjunct.Keeps (d : Dialect) (good : String → Prop) : Conjunct → Prop
  | group _ tests => ∀ t ∈ tests, Reads d (Refers good) (t.fragment d)
  | notDeleted mark => good mark.source
  | raw f => Reads d (Refers good) f

theorem Conjunct.Keeps.reads {c : Conjunct} (h : c.Keeps d good) :
    Reads d (Refers good) (c.fragment d) := by
  cases c with
  | notDeleted mark =>
    have ended := (reads_reference (d := d) h).ended (s := " IS NULL") (by decide) (by decide)
    refine ended.of_write fun n => ?_
    simp [fragment, write]
  | raw f => exact h.in_parentheses
  | group logic tests =>
    have each : ∀ t ∈ tests, Reads d (Refers good) (t.fragment d) := h
    cases tests with
    | nil =>
      cases logic with
      | and => exact reads_nil
      | or => exact (Reads.listed each (s := " OR ") (by decide)).in_parentheses
    | cons t rest =>
      cases rest with
      | nil => cases logic <;> exact each t List.mem_cons_self
      | cons u rest =>
        cases logic with
        | and => exact .listed (fun t mem => (each t mem).in_parentheses) (by decide)
        | or => exact (Reads.listed each (by decide)).in_parentheses

theorem JoinStep.refers {j : JoinStep} (hides : Bool) (parent : good j.parent)
    (label : good j.label) : Reads d (Refers good) [.text (j.text hides)] := by
  have join {f : Fragment} (hf : Reads d (Refers good) f) : Reads d (Refers good)
      (.text " LEFT JOIN " :: ([.text (quoteIdent j.table)] ++ .text " AS " ::
        ([.text (quoteIdent j.label)] ++ .text " ON " ::
          ([.text (ColumnRef.qualified ⟨j.parent, j.localKey⟩)] ++ .text " = " :: f)))) :=
    ((reads_name _).separated ((reads_name _).separated
      ((reads_reference parent).separated hf (by decide)) (by decide)) (by decide)).led
      (by decide) (by decide)
  have key : Reads d (Refers good) [.text (ColumnRef.qualified ⟨j.label, j.foreignKey⟩)] :=
    reads_reference label
  unfold text
  split
  · rename_i mark _
    have marked : Reads d (Refers good)
        ([.text (ColumnRef.qualified ⟨j.label, mark⟩)] ++ [.text " IS NULL"]) :=
      (reads_reference label).ended (by decide) (by decide)
    refine (join (key.separated (s := " AND ") marked (by decide))).of_write fun n => ?_
    simp [write, toString, ColumnRef.qualified, String.append_assoc]
  · refine (join key).of_write fun n => ?_
    simp [write, toString, ColumnRef.qualified, String.append_assoc]

theorem JoinStep.fresh_text (hides : Bool) (j : JoinStep) : Fresh (j.text hides) := by
  have first : Fresh " LEFT JOIN " := by decide
  exact (((((first.append _).append _).append _).append _).append _).append _

theorem OrderTerm.refers {t : OrderTerm} (known : good t.key.column.source) :
    Reads d (Refers good) [.text t.text] := by
  obtain ⟨key, direction⟩ := t
  have read : Reads d (Refers good) [.text key.text] := by
    cases key with
    | isNull c =>
      exact reads_around "(" " IS NULL)" known (by decide) (by decide)
    | folded c =>
      exact reads_around "LOWER(" ")" known (by decide) (by decide)
    | plain c => exact reads_reference known
  have word : Bare (" " ++ direction.keyword) ∧ Fresh (" " ++ direction.keyword) := by
    cases direction <;> decide
  refine (read.ended word.1 word.2).of_write fun n => ?_
  simp [write, text, toString, String.append_assoc]

namespace Fragment

variable {f : Fragment} {s : String}

theorem write_join_texts (sep : String) (texts : List String) (n : Nat) :
    (Fragment.join sep (texts.map fun s => [.text s])).write d n = sep.intercalate texts := by
  induction texts with
  | nil => rfl
  | cons text rest ih =>
    cases rest with
    | nil => simp [Fragment.join, write]
    | cons next rest =>
      rw [String.intercalate_cons_cons, ← ih]
      simp [Fragment.join, ofText, write, String.append_assoc]

/-- A text that may be missing and goes on with nothing. -/
def Trails (d : Dialect) (good : String → Prop) (s : String) : Prop :=
  s = "" ∨ Fresh s ∧ Reads d (Refers good) [.text s]

theorem Reads.trailed (hf : Reads d (Refers good) f) (h : Trails d good s) :
    Reads d (Refers good) (f ++ [.text s]) := by
  rcases h with rfl | ⟨fresh, read⟩
  · refine hf.of_write fun n => ?_
    simp [write_append, write]
  · exact hf.followed read fresh

end Fragment

namespace Plan

structure Keeps (p : Plan) (good : String → Prop) : Prop where
  base : ∀ f ∈ p.base, Reads p.dialect (Refers good) f
  table : good p.table
  joins : ∀ j ∈ p.joins, good j.parent ∧ good j.label
  conjuncts : ∀ c ∈ p.conjuncts, c.Keeps p.dialect good
  order : ∀ t ∈ p.order, good t.key.column.source
  target : ∀ c ∈ p.target, good c.source

namespace Keeps

variable {p : Plan}

theorem reads_joins {f : Fragment} {joins : List JoinStep} (hides : Bool)
    (h : ∀ j ∈ joins, good j.parent ∧ good j.label) (hf : Reads d (Refers good) f) :
    Reads d (Refers good) (f ++ joins.map fun j => .text (j.text hides)) := by
  induction joins generalizing f with
  | nil => simpa using hf
  | cons j rest ih =>
    obtain ⟨parent, label⟩ := h j List.mem_cons_self
    have first := hf.followed (j.refers hides parent label) (j.fresh_text hides)
    simpa using ih (fun k mem => h k (List.mem_cons_of_mem j mem)) first

theorem reads_source (h : p.Keeps good) : Reads p.dialect (Refers good) p.sourceFragment := by
  refine reads_joins p.hidesDeleted h.joins ?_
  have name : Reads p.dialect (Refers good) [.text (quoteIdent p.table)] := reads_name _
  cases hb : p.base with
  | none =>
    refine (name.led (s := "FROM ") (by decide) (by decide)).of_write fun n => ?_
    simp [Fragment.write, toString]
  | some f =>
    have base := (h.base f hb).in_parentheses
    refine ((base.separated (s := " AS ") name (by decide)).led (s := "FROM ") (by decide)
      (by decide)).of_write fun n => ?_
    simp [Fragment.write, write_append, toString]

theorem reads_rows (h : p.Keeps good) : Reads p.dialect (Refers good) p.rowsFragment := by
  unfold rowsFragment whereFragment
  split
  · simpa using h.reads_source
  · have each : Reads p.dialect (Refers good)
        (Fragment.join " AND " (p.conjuncts.map (·.fragment p.dialect))) :=
      .listed (fun c mem => (h.conjuncts c mem).reads) (by decide)
    exact h.reads_source.followed (each.led (by decide) (by decide)) (by decide)

theorem trails_order (h : p.Keeps good) : Trails d good p.orderText := by
  unfold orderText
  split
  · exact .inl rfl
  · refine .inr ⟨(show Fresh " ORDER BY " by decide).append _, ?_⟩
    have terms : Reads d (Refers good)
        (Fragment.join ", " (p.order.map fun t => [.text t.text])) :=
      .listed (fun t mem => OrderTerm.refers (h.order t mem)) (by decide)
    refine (terms.led (s := " ORDER BY ") (by decide) (by decide)).of_write fun n => ?_
    have texts := write_join_texts (d := d) ", " (p.order.map (·.text)) n
    rw [List.map_map] at texts
    simp [Fragment.write, ← texts, Function.comp_def]

theorem trails_window (window : Option PageWindow) : Trails d good (windowText window) := by
  cases window with
  | none => exact .inl rfl
  | some w =>
    refine .inr ⟨((show Fresh " LIMIT " by decide).append _).append _ |>.append _, ?_⟩
    refine (((reads_number w.limit).separated (s := " OFFSET ") (reads_number w.offset)
      (by decide)).led (s := " LIMIT ") (by decide) (by decide)).of_write fun n => ?_
    simp [Fragment.write, windowText, toString, String.append_assoc]

theorem trails_lock (p : Plan) (lock : Bool) : Trails d good (p.lockText lock) := by
  unfold lockText
  split
  · refine .inr ⟨(show Fresh " FOR UPDATE OF " by decide).append _, ?_⟩
    refine ((reads_name p.table).led (s := " FOR UPDATE OF ") (by decide)
      (by decide)).of_write fun n => ?_
    simp [Fragment.write, toString]
  · exact .inl rfl

/-- A fragment behind all columns of a table. -/
theorem reads_all {table : String} {f : Fragment} (known : good table)
    (hf : Reads d (Refers good) f) :
    Reads d (Refers good) (.text (quoteIdent table) :: .text ".* " :: f) := by
  have dot : Reads d (fun ls => ∃ rest, ls = [.sign '.', .sign '*'] ++ rest ∧ Refers good rest)
      (.text ".* " :: f) :=
    hf.cons_text (l := [.sign '.', .sign '*']) rfl (by decide) fun a ha => ⟨a, rfl, ha⟩
  have name : Reads d (· = [.name table.toList]) [.text (quoteIdent table)] :=
    reads_text (lexemes_quoteIdent table) rfl
  refine name.append dot (breaking_text (by decide)) ?_
  rintro _ _ rfl ⟨rest, rfl, refers⟩
  have all : Refers good [.name table.toList, .sign '.', .sign '*'] := by
    refine ⟨by simp, ?_⟩
    intro name mem
    obtain rfl : name = table := by simpa [qualifiers] using mem
    exact known
  exact all.append refers

/-- Whatever a plan writes qualifies columns by good names only. -/
theorem reads {text : String} (h : p.Keeps good) (writes : p.Writes text) :
    ∃ ls, lexemes text.toList = some ls ∧ ∀ name ∈ qualifiers ls, good name := by
  have rows := h.reads_rows
  have whole {f : Fragment} (hf : Reads p.dialect (Refers good) f) :
      ∃ ls, lexemes (p.write f).toList = some ls ∧ ∀ name ∈ qualifiers ls, good name := by
    obtain ⟨ls, read, refers⟩ := hf 0
    exact ⟨ls, read, refers.2⟩
  cases writes with
  | select window lock =>
    have order := ((rows.trailed h.trails_order).trailed (trails_window window)).trailed
      (trails_lock p lock)
    refine whole (((reads_all h.table order).led (s := "SELECT ") (by decide)
      (by decide)).of_write fun n => ?_)
    simp [selectFragment, Fragment.write, write_append, toString, String.append_assoc]
  | count => exact whole (rows.led (by decide) (by decide))
  | existence =>
    exact whole ((rows.ended (by decide) (by decide)).led (s := "SELECT EXISTS(SELECT 1 ")
      (by decide) (by decide))
  | aggregate asked =>
    rename_i a
    obtain ⟨f, hf, rfl⟩ := Option.map_eq_some_iff.mp asked
    obtain ⟨c, target, rfl⟩ := Option.map_eq_some_iff.mp hf
    have before : Bare ("SELECT " ++ a.name ++ "(") ∧ Loose ("SELECT " ++ a.name ++ "(") := by
      cases a <;> decide
    have call := ((reads_reference (h.target c target)).separated (s := ") ") rows
      (by decide)).led before.1 before.2
    refine whole (call.of_write fun n => ?_)
    simp [Fragment.write, toString, String.append_assoc]

end Keeps

end Plan

end FieldQuery

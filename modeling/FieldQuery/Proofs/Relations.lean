import FieldQuery.Proofs.Capitals
import FieldQuery.Table.Schema

/-!
# Relations by their labels

Joins go by the names of their relations, set apart by two underscores. A path names a relation in
its capitalised spelling, which has no underscore, so only relations without one are ever followed,
and a label tells all the relations on the way, in any case of its letters. Main statement:
`TableSchema.Leads.agree_of_alike`.
-/
namespace FieldQuery

/-- What comes before the first underscore is the same in equal texts. -/
theorem append_inj_of_underscore {a b x y : List Char} (ha : '_' ∉ a) (hb : '_' ∉ b)
    (hx : ∀ c ∈ x.head?, c = '_') (hy : ∀ c ∈ y.head?, c = '_') (h : a ++ x = b ++ y) :
    a = b ∧ x = y := by
  induction a generalizing b with
  | nil =>
    cases b with
    | nil => exact ⟨rfl, h⟩
    | cons c rest =>
      have begins : x = c :: (rest ++ y) := h
      exact absurd (hx c (begins ▸ rfl) ▸ List.mem_cons_self) hb
  | cons c rest ih =>
    cases b with
    | nil =>
      have begins : c :: (rest ++ x) = y := h
      exact absurd (hy c (begins ▸ rfl) ▸ List.mem_cons_self) ha
    | cons d more =>
      obtain ⟨rfl, rest_eq⟩ := List.cons.inj h
      obtain ⟨rfl, same⟩ := ih (fun mem => ha (List.mem_cons_of_mem c mem))
        (fun mem => hb (List.mem_cons_of_mem c mem)) rest_eq
      exact ⟨rfl, same⟩

/-- Each of two elements is the first to pass one test and passes the other test as well. -/
theorem eq_of_find?_of_find? {α : Type} {l : List α} {f g : α → Bool} {a b : α}
    (ha : l.find? f = some a) (hb : l.find? g = some b) (fb : f b = true) (ga : g a = true) :
    a = b := by
  induction l with
  | nil => cases ha
  | cons c rest ih =>
    rw [List.find?_cons] at ha hb
    split at ha
    · cases ha
      rw [ga] at hb
      exact Option.some.inj hb
    · rename_i refused
      split at hb
      · cases hb
        rw [refused] at fb
        cases fb
      · exact ih ha hb

namespace TableSchema

variable {t : TableSchema} {p q : String} {r u : Relation}

theorem findRelation_named (h : t.findRelation p = some r) :
    Text.eqIgnoreAsciiCase r.name (Text.pascal p) = true := by
  unfold findRelation at h
  exact List.find?_some (p := fun r : Relation => Text.eqIgnoreAsciiCase r.name _) h

theorem findRelation_plain (h : t.findRelation p = some r) : '_' ∉ r.name.toList := by
  rw [Text.separator_mem_iff (by decide) (findRelation_named h)]
  exact Text.underscore_not_mem_pascal p

/-- Of relations of one name, in any case, only the first is ever followed. -/
theorem findRelation_inj (hr : t.findRelation p = some r) (hu : t.findRelation q = some u)
    (name : Text.eqIgnoreAsciiCase r.name u.name = true) : r = u := by
  have same := Text.eqIgnoreAsciiCase_iff.mp name
  have rNamed := Text.eqIgnoreAsciiCase_iff.mp (findRelation_named hr)
  have uNamed := Text.eqIgnoreAsciiCase_iff.mp (findRelation_named hu)
  exact eq_of_find?_of_find? hr hu (Text.eqIgnoreAsciiCase_iff.mpr (same.symm.trans rNamed))
    (Text.eqIgnoreAsciiCase_iff.mpr (same.trans uNamed))

def labelFrom (source : String) (isBase : Bool) (r : Relation) : String :=
  if isBase then r.name else source ++ "__" ++ r.name

def stepFrom (source : String) (isBase : Bool) (r : Relation) : JoinStep :=
  ⟨labelFrom source isBase r, source, r.target.table, r.localKey, r.foreignKey, r.target.deletedAt⟩

theorem follow_cons {source : String} {isBase : Bool} {segment : String} {rest : List String}
    {steps : List JoinStep} {last : String} {target : TableSchema} :
    t.follow source isBase (segment :: rest) = some (steps, last, target) ↔
      ∃ r more, t.findRelation segment = some r ∧
        r.target.follow (labelFrom source isBase r) false rest = some (more, last, target) ∧
        steps = stepFrom source isBase r :: more := by
  constructor
  · intro h
    obtain ⟨r, found, h⟩ := Option.bind_eq_some_iff.mp h
    obtain ⟨⟨more, last, target⟩, next, h⟩ := Option.bind_eq_some_iff.mp h
    cases h
    exact ⟨r, more, found, next, rfl⟩
  · rintro ⟨r, more, found, next, rfl⟩
    refine Option.bind_eq_some_iff.mpr ⟨r, found, ?_⟩
    exact Option.bind_eq_some_iff.mpr ⟨(more, last, target), next, rfl⟩

/-- A path resolves to what its last segment finds where the others lead. -/
theorem resolve?_eq_some {path : String} {column : ResolvedColumn} :
    t.resolve? path = some column ↔ ∃ names terminal joins source target c,
      segments path = names ++ [terminal] ∧ terminal ≠ "" ∧
      t.follow t.table true names = some (joins, source, target) ∧
      target.findColumn terminal = some c ∧
      column = ⟨⟨source, c.name⟩, joins, c.kind, !joins.isEmpty || c.nullable⟩ := by
  constructor
  · intro h
    obtain ⟨terminal, last, h⟩ := Option.bind_eq_some_iff.mp h
    split at h
    · cases h
    · rename_i named
      obtain ⟨⟨joins, source, target⟩, way, h⟩ := Option.bind_eq_some_iff.mp h
      obtain ⟨c, found, h⟩ := Option.bind_eq_some_iff.mp h
      cases h
      obtain ⟨names, split⟩ := List.getLast?_eq_some_iff.mp last
      rw [split, List.dropLast_concat] at way
      refine ⟨names, terminal, joins, source, target, c, split, ?_, way, found, rfl⟩
      exact fun empty => named (String.isEmpty_iff.mpr empty)
  · rintro ⟨names, terminal, joins, source, target, c, split, named, way, found, rfl⟩
    have last := List.getLast?_eq_some_iff.mpr ⟨names, split⟩
    refine Option.bind_eq_some_iff.mpr ⟨terminal, last, ?_⟩
    rw [if_neg (mt String.isEmpty_iff.mp named), split, List.dropLast_concat]
    refine Option.bind_eq_some_iff.mpr ⟨(joins, source, target), way, ?_⟩
    exact Option.bind_eq_some_iff.mpr ⟨c, found, rfl⟩

/-- Whether the joins are those of relations followed one after the other from a source. -/
def Leads (t : TableSchema) (source : String) (isBase : Bool) (steps : List JoinStep) : Prop :=
  ∃ segments last target, t.follow source isBase segments = some (steps, last, target)

theorem leads_cons {source : String} {isBase : Bool} {step : JoinStep} {steps : List JoinStep} :
    t.Leads source isBase (step :: steps) ↔
      ∃ segment r, t.findRelation segment = some r ∧ step = stepFrom source isBase r ∧
        r.target.Leads (labelFrom source isBase r) false steps := by
  constructor
  · rintro ⟨_ | ⟨segment, rest⟩, last, target, h⟩
    · cases h
    · obtain ⟨r, more, found, next, eq⟩ := follow_cons.mp h
      obtain ⟨rfl, rfl⟩ := List.cons.inj eq
      exact ⟨segment, r, found, rfl, rest, last, target, next⟩
  · rintro ⟨segment, r, found, rfl, rest, last, target, next⟩
    exact ⟨segment :: rest, last, target, follow_cons.mpr ⟨r, steps, found, next, rfl⟩⟩

/-- Beyond a joined table, labels go on from its own. -/
theorem Leads.label {source : String} {steps : List JoinStep} (h : t.Leads source false steps)
    {step : JoinStep} (mem : step ∈ steps) :
    ∃ more, step.label.toList = source.toList ++ '_' :: '_' :: more := by
  induction steps generalizing t source with
  | nil => cases mem
  | cons first rest ih =>
    obtain ⟨segment, r, found, rfl, next⟩ := leads_cons.mp h
    have here : (stepFrom source false r).label.toList =
        source.toList ++ '_' :: '_' :: r.name.toList := by
      simp [stepFrom, labelFrom]
    rcases List.mem_cons.mp mem with rfl | later
    · exact ⟨_, here⟩
    · obtain ⟨more, label⟩ := ih next later
      refine ⟨r.name.toList ++ '_' :: '_' :: more, ?_⟩
      rw [label]
      change (stepFrom source false r).label.toList ++ _ = _
      rw [here]
      simp

/-- Labels from one source tell the relation that comes first, also in another case. -/
theorem labelFrom_inj {source : String} {isBase : Bool} {x y : List Char}
    (hr : '_' ∉ r.name.toList) (hu : '_' ∉ u.name.toList) (hx : ∀ c ∈ x.head?, c = '_')
    (hy : ∀ c ∈ y.head?, c = '_')
    (h : Text.asciiLower ((labelFrom source isBase r).toList ++ x) =
      Text.asciiLower ((labelFrom source isBase u).toList ++ y)) :
    Text.eqIgnoreAsciiCase r.name u.name = true ∧ (x = [] ↔ y = []) := by
  have names : Text.asciiLower r.name.toList ++ Text.asciiLower x =
      Text.asciiLower u.name.toList ++ Text.asciiLower y := by
    cases isBase <;> simpa [labelFrom, Text.asciiLower] using h
  have lowered {z : List Char} (hz : ∀ c ∈ z.head?, c = '_') :
      ∀ c ∈ (Text.asciiLower z).head?, c = '_' := by
    cases z with
    | nil =>
      intro c mem
      exact absurd mem (Option.not_mem_none c)
    | cons d _ =>
      obtain rfl : d = '_' := hz d rfl
      exact fun c mem => (Option.some.inj mem).symm
  obtain ⟨same, rest⟩ := append_inj_of_underscore
    (mt (Text.separator_mem_asciiLower (by decide)).mp hr)
    (mt (Text.separator_mem_asciiLower (by decide)).mp hu) (lowered hx) (lowered hy) names
  have ends : Text.asciiLower x = [] ↔ Text.asciiLower y = [] := by rw [rest]
  exact ⟨Text.eqIgnoreAsciiCase_iff.mpr same, by simpa [Text.asciiLower] using ends⟩

/-- Every label on a way begins with that of its first join, and goes on only beyond it. -/
theorem Leads.first {source : String} {isBase : Bool} {a a' : List JoinStep} {x : JoinStep}
    (h : t.Leads source isBase (a ++ x :: a')) :
    ∃ segment r steps more, t.findRelation segment = some r ∧
      a ++ x :: a' = stepFrom source isBase r :: steps ∧
      r.target.Leads (labelFrom source isBase r) false steps ∧
      x.label.toList = (labelFrom source isBase r).toList ++ more ∧
      (∀ c ∈ more.head?, c = '_') ∧ (more = [] ↔ a = []) := by
  cases a with
  | nil =>
    obtain ⟨segment, r, found, rfl, next⟩ := leads_cons.mp h
    have whole : (stepFrom source isBase r).label.toList =
        (labelFrom source isBase r).toList ++ [] := (List.append_nil _).symm
    exact ⟨segment, r, a', [], found, rfl, next, whole, nofun, by simp⟩
  | cons first rest =>
    obtain ⟨segment, r, found, rfl, next⟩ := leads_cons.mp h
    obtain ⟨more, longer⟩ := next.label (List.mem_append_right rest List.mem_cons_self)
    exact ⟨segment, r, _, _, found, rfl, next, longer, by simp, by simp⟩

/-- Two ways from one source agree up to any label that they share, in any case. -/
theorem Leads.agree_of_alike {source : String} {isBase : Bool} {a a' b b' : List JoinStep}
    {x y : JoinStep} (hx : t.Leads source isBase (a ++ x :: a'))
    (hy : t.Leads source isBase (b ++ y :: b'))
    (label : Text.eqIgnoreAsciiCase x.label y.label = true) : a = b ∧ x = y := by
  induction a generalizing t source isBase b with
  | nil =>
    obtain ⟨p, r, steps, more, hr, split, -, xLabel, xMore, xFirst⟩ := hx.first
    obtain ⟨q, u, steps', more', hu, split', -, yLabel, yMore, yFirst⟩ := hy.first
    have labels := Text.eqIgnoreAsciiCase_iff.mp label
    rw [xLabel, yLabel] at labels
    obtain ⟨name, ends⟩ := labelFrom_inj (findRelation_plain hr) (findRelation_plain hu) xMore yMore
      labels
    obtain rfl := findRelation_inj hr hu name
    obtain rfl : b = [] := yFirst.mp (ends.mp (xFirst.mpr rfl))
    exact ⟨rfl, (List.cons.inj split).1.trans (List.cons.inj split').1.symm⟩
  | cons first rest ih =>
    obtain ⟨p, r, steps, more, hr, split, next, xLabel, xMore, xFirst⟩ := hx.first
    obtain ⟨q, u, steps', more', hu, split', next', yLabel, yMore, yFirst⟩ := hy.first
    have labels := Text.eqIgnoreAsciiCase_iff.mp label
    rw [xLabel, yLabel] at labels
    obtain ⟨name, ends⟩ := labelFrom_inj (findRelation_plain hr) (findRelation_plain hu) xMore yMore
      labels
    obtain rfl := findRelation_inj hr hu name
    cases b with
    | nil => exact absurd (xFirst.mp (ends.mpr (yFirst.mpr rfl))) (List.cons_ne_nil first rest)
    | cons second others =>
      obtain ⟨rfl, rfl⟩ := List.cons.inj split
      obtain ⟨rfl, rfl⟩ := List.cons.inj split'
      obtain ⟨rfl, same⟩ := ih next next'
      exact ⟨rfl, same⟩

theorem Leads.agree {source : String} {isBase : Bool} {a a' b b' : List JoinStep}
    {x y : JoinStep} (hx : t.Leads source isBase (a ++ x :: a'))
    (hy : t.Leads source isBase (b ++ y :: b')) (label : x.label = y.label) : a = b ∧ x = y :=
  hx.agree_of_alike hy (Text.eqIgnoreAsciiCase_iff.mpr (by rw [label]))

end TableSchema

end FieldQuery

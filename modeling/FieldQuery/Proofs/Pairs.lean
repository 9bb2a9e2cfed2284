import FieldQuery.Proofs.Answers
import FieldQuery.Request.Basic
import Mathlib.Data.List.Induction

/-!
# Requests as pairs and as one text

The parts of a request stand in one text with bars between them, or in pairs that name them. Pairs
are taken in one after the other, and after each of them a part is what the last value of its key
decodes to. Main statement: `pairs_agree_with_text`.
-/
namespace FieldQuery.Request

variable {limits : Limits} {pairs : List (String × String)} {filter sort index size : String}
  {r : Request}

/-- The keys that count among pairs. -/
def keys : List String := ["filter", "sort", "pageIndex", "pageSize"]

/-- The pairs of a request in the order of the parts of its text. -/
def named (filter sort index size : String) : List (String × String) :=
  [("filter", filter), ("sort", sort), ("pageIndex", index), ("pageSize", size)]

def barred (filter sort index size : String) : String :=
  "|".intercalate [filter, sort, index, size]

/-- The last value that a key is given. A key that is missing counts as blank. -/
def lastValue (pairs : List (String × String)) (key : String) : String :=
  (((pairs.filter (·.1 = key)).getLast?).map (·.2)).getD ""

/-- Whether the value of a pair decodes as its key asks. Other keys may have any value. -/
def Decodes (limits : Limits) : String × String → Prop
  | ("filter", v) => ∃ f, Parameter.decodeFilter limits v = .ok f
  | ("sort", v) => ∃ sort, Parameter.decodeSort limits v = .ok sort
  | ("pageIndex", v) => ∃ n, Parameter.decodePageIndex v = .ok n
  | ("pageSize", v) => ∃ n, Parameter.decodePageSize v = .ok n
  | _ => True

/-- Whether four parts decode to a request, the sort fields of the second replacing those of the
first unless there are none. -/
def DecodeTo (limits : Limits) (filter sort index size : String) (r : Request) : Prop :=
  ∃ f fields, Parameter.decodeFilter limits filter = .ok f ∧
    Parameter.decodeSort limits sort = .ok fields ∧
    Parameter.decodePageIndex index = .ok r.pageIndex ∧
    Parameter.decodePageSize size = .ok r.pageSize ∧ r.filter = f.sortedBy fields

theorem cutAtBar_append {part : List Char} (h : '|' ∉ part) (rest : List Char) :
    cutAtBar (part ++ '|' :: rest) = (part, rest) := by
  have plain : ∀ c ∈ part, decide (c ≠ '|') = true := by
    intro c mem
    exact decide_eq_true fun bar => h (bar ▸ mem)
  have front : (part ++ '|' :: rest).takeWhile (· ≠ '|') = part := by
    rw [List.takeWhile_append_of_pos plain]
    simp
  have back : (part ++ '|' :: rest).dropWhile (· ≠ '|') = '|' :: rest := by
    rw [List.dropWhile_append_of_pos plain]
    simp
  rw [cutAtBar, front, back]
  rfl

/-- The parts of a text are decoded from left to right. -/
theorem parse_barred (hf : '|' ∉ filter.toList) (hs : '|' ∉ sort.toList)
    (hi : '|' ∉ index.toList) :
    parse limits (barred filter sort index size) = (do
      let f ← Parameter.decodeFilter limits filter
      let fields ← Parameter.decodeSort limits sort
      let n ← Parameter.decodePageIndex index
      let m ← Parameter.decodePageSize size
      .ok ⟨f.sortedBy fields, n, m⟩) := by
  have text : (barred filter sort index size).toList =
      filter.toList ++ '|' :: (sort.toList ++ '|' :: (index.toList ++ '|' :: size.toList)) := by
    simp [barred, String.intercalate_cons_cons, String.intercalate_singleton]
  unfold parse
  rw [text, cutAtBar_append hf]
  dsimp only
  rw [cutAtBar_append hs]
  dsimp only
  rw [cutAtBar_append hi]
  simp only [String.ofList_toList]

theorem parse_barred_ok_iff (hf : '|' ∉ filter.toList) (hs : '|' ∉ sort.toList)
    (hi : '|' ∉ index.toList) :
    parse limits (barred filter sort index size) = .ok r ↔
      DecodeTo limits filter sort index size r := by
  rw [parse_barred hf hs hi]
  constructor
  · intro h
    obtain ⟨f, hf, h⟩ := bind_ok_iff.mp h
    obtain ⟨fields, hs, h⟩ := bind_ok_iff.mp h
    obtain ⟨n, hi, h⟩ := bind_ok_iff.mp h
    obtain ⟨m, hz, h⟩ := bind_ok_iff.mp h
    cases h
    exact ⟨f, fields, hf, hs, hi, hz, rfl⟩
  · rintro ⟨f, fields, hf, hs, hi, hz, whole⟩
    obtain ⟨given, n, m⟩ := r
    subst whole
    rw [hf, hs, hi, hz]
    rfl

theorem lastValue_concat (pairs : List (String × String)) (p : String × String) (key : String) :
    lastValue (pairs ++ [p]) key = if p.1 = key then p.2 else lastValue pairs key := by
  unfold lastValue
  rw [List.filter_append]
  by_cases same : p.1 = key
  · simp [same]
  · simp [same]

namespace PairsRead

variable {s s' : PairsRead} {p : String × String}

/-- What has been read of pairs: each part is what the last value of its key decodes to. -/
structure Tells (limits : Limits) (pairs : List (String × String)) (s : PairsRead) : Prop where
  filter : Parameter.decodeFilter limits (lastValue pairs "filter") = .ok s.request.filter
  sort : Parameter.decodeSort limits (lastValue pairs "sort") = .ok s.sort
  pageIndex : Parameter.decodePageIndex (lastValue pairs "pageIndex") = .ok s.request.pageIndex
  pageSize : Parameter.decodePageSize (lastValue pairs "pageSize") = .ok s.request.pageSize

/-- Before any pair every part is what a blank decodes to. -/
theorem Tells.none : Tells limits [] {} := ⟨rfl, rfl, rfl, rfl⟩

theorem Tells.take (h : Tells limits pairs s) (taken : s.take limits p = .ok s') :
    Tells limits (pairs ++ [p]) s' := by
  unfold PairsRead.take at taken
  split at taken
  · obtain ⟨f, decoded, taken⟩ := bind_ok_iff.mp taken
    cases taken
    constructor <;> simp [lastValue_concat, decoded, h.sort, h.pageIndex, h.pageSize]
  · obtain ⟨fields, decoded, taken⟩ := bind_ok_iff.mp taken
    cases taken
    constructor <;> simp [lastValue_concat, decoded, h.filter, h.pageIndex, h.pageSize]
  · obtain ⟨n, decoded, taken⟩ := bind_ok_iff.mp taken
    cases taken
    constructor <;> simp [lastValue_concat, decoded, h.filter, h.sort, h.pageSize]
  · obtain ⟨n, decoded, taken⟩ := bind_ok_iff.mp taken
    cases taken
    constructor <;> simp [lastValue_concat, decoded, h.filter, h.sort, h.pageIndex]
  · rename_i noFilter noSort noIndex noSize
    cases taken
    have other : ∀ key, p.1 = key → p = (key, p.2) := by
      rintro key rfl
      rfl
    have unknown : p.1 ∉ keys := by
      intro mem
      simp only [keys, List.mem_cons, List.not_mem_nil, or_false] at mem
      rcases mem with key | key | key | key
      · exact noFilter _ (other _ key)
      · exact noSort _ (other _ key)
      · exact noIndex _ (other _ key)
      · exact noSize _ (other _ key)
    simp only [keys, List.mem_cons, List.not_mem_nil, or_false, not_or] at unknown
    obtain ⟨f, s, i, z⟩ := unknown
    constructor <;> simp [lastValue_concat, f, s, i, z, h.filter, h.sort, h.pageIndex, h.pageSize]

/-- A pair is taken in exactly if its value decodes. -/
theorem take_ok_iff : (∃ s', s.take limits p = .ok s') ↔ Decodes limits p := by
  unfold PairsRead.take Decodes
  split
  all_goals simp [bind_ok_iff]

theorem takeAll_concat :
    takeAll limits s (pairs ++ [p]) = takeAll limits s pairs >>= fun s => s.take limits p := by
  induction pairs generalizing s with
  | nil =>
    change (s.take limits p >>= fun s => .ok s) = s.take limits p
    exact bind_pure _
  | cons q rest ih =>
    change (s.take limits q >>= fun s => takeAll limits s (rest ++ [p])) =
      (s.take limits q >>= fun s => takeAll limits s rest) >>= fun s => s.take limits p
    rw [bind_assoc]
    exact bind_congr fun s => ih

theorem takeAll_tells (h : takeAll limits {} pairs = .ok s) : Tells limits pairs s := by
  induction pairs using List.reverseRecOn generalizing s with
  | nil =>
    cases h
    exact .none
  | append_singleton earlier p ih =>
    rw [takeAll_concat] at h
    obtain ⟨before, taken, h⟩ := bind_ok_iff.mp h
    exact (ih taken).take h

theorem takeAll_ok_iff :
    (∃ s', takeAll limits s pairs = .ok s') ↔ ∀ p ∈ pairs, Decodes limits p := by
  induction pairs generalizing s with
  | nil => exact ⟨fun _ => nofun, fun _ => ⟨s, rfl⟩⟩
  | cons p rest ih =>
    rw [List.forall_mem_cons, ← take_ok_iff (s := s)]
    constructor
    · rintro ⟨last, h⟩
      obtain ⟨next, taken, h⟩ := bind_ok_iff.mp h
      exact ⟨⟨next, taken⟩, ih.mp ⟨last, h⟩⟩
    · rintro ⟨⟨next, taken⟩, decode⟩
      obtain ⟨last, h⟩ := (ih (s := next)).mpr decode
      exact ⟨last, bind_ok_iff.mpr ⟨next, taken, h⟩⟩

end PairsRead

/-- Pairs are read if all their values decode, and the last value of each key decides. -/
theorem ofPairs_ok_iff :
    ofPairs limits pairs = .ok r ↔ (∀ p ∈ pairs, Decodes limits p) ∧
      DecodeTo limits (lastValue pairs "filter") (lastValue pairs "sort")
        (lastValue pairs "pageIndex") (lastValue pairs "pageSize") r := by
  constructor
  · intro h
    obtain ⟨s, taken, h⟩ := bind_ok_iff.mp h
    obtain ⟨filter, sort, index, size⟩ := PairsRead.takeAll_tells taken
    cases h
    exact ⟨PairsRead.takeAll_ok_iff.mp ⟨s, taken⟩, _, _, filter, sort, index, size, rfl⟩
  · rintro ⟨decode, f, fields, filter, sort, index, size, whole⟩
    obtain ⟨s, taken⟩ := PairsRead.takeAll_ok_iff (s := {}) |>.mpr decode
    have tells := PairsRead.takeAll_tells taken
    cases tells.filter.symm.trans filter
    cases tells.sort.symm.trans sort
    have pageIndex := Except.ok.inj (tells.pageIndex.symm.trans index)
    have pageSize := Except.ok.inj (tells.pageSize.symm.trans size)
    refine bind_ok_iff.mpr ⟨s, taken, ?_⟩
    obtain ⟨given, n, m⟩ := r
    subst whole pageIndex pageSize
    rfl

theorem decodes_of_unknown {p : String × String} (h : p.1 ∉ keys) : Decodes limits p := by
  unfold Decodes
  split <;> simp [keys] at h ⊢

/-- However four pairs are ordered, and whatever pairs of other keys stand between them, the last
value of each key is the one that it has. -/
theorem lastValue_of_perm (order : (pairs.filter (·.1 ∈ keys)).Perm (named filter sort index size))
    {key value : String}
    (only : (named filter sort index size).filter (·.1 = key) = [(key, value)]) :
    lastValue pairs key = value := by
  have known : key ∈ keys := by
    have mem : (key, value) ∈ (named filter sort index size).filter (·.1 = key) := by simp [only]
    have here := order.mem_iff.mpr (List.mem_of_mem_filter mem)
    simpa using (List.mem_filter.mp here).2
  have among : pairs.filter (·.1 = key) = (pairs.filter (·.1 ∈ keys)).filter (·.1 = key) := by
    rw [List.filter_filter]
    refine List.filter_congr fun p _ => ?_
    by_cases same : p.1 = key
    · simp [same, known]
    · simp [same]
  have alone := order.filter (·.1 = key)
  rw [only, ← among] at alone
  rw [lastValue, List.perm_singleton.mp alone]
  rfl

theorem decodes_of_perm
    (order : (pairs.filter (·.1 ∈ keys)).Perm (named filter sort index size)) :
    (∀ p ∈ pairs, Decodes limits p) ↔ ∀ p ∈ named filter sort index size, Decodes limits p := by
  constructor
  · intro h p mem
    exact h p (List.mem_of_mem_filter (order.mem_iff.mpr mem))
  · intro h p mem
    by_cases known : p.1 ∈ keys
    · exact h p (order.mem_iff.mp (List.mem_filter.mpr ⟨mem, decide_eq_true known⟩))
    · exact decodes_of_unknown known

theorem decodes_of_decodeTo (h : DecodeTo limits filter sort index size r) :
    ∀ p ∈ named filter sort index size, Decodes limits p := by
  obtain ⟨f, fields, hf, hs, hi, hz, -⟩ := h
  intro p mem
  simp only [named, List.mem_cons, List.not_mem_nil, or_false] at mem
  rcases mem with rfl | rfl | rfl | rfl
  · exact ⟨_, hf⟩
  · exact ⟨_, hs⟩
  · exact ⟨_, hi⟩
  · exact ⟨_, hz⟩

theorem ofPairs_of_perm_ok_iff
    (order : (pairs.filter (·.1 ∈ keys)).Perm (named filter sort index size)) :
    ofPairs limits pairs = .ok r ↔ DecodeTo limits filter sort index size r := by
  rw [ofPairs_ok_iff, decodes_of_perm order,
    lastValue_of_perm order (show _ = [("filter", filter)] by simp [named]),
    lastValue_of_perm order (show _ = [("sort", sort)] by simp [named]),
    lastValue_of_perm order (show _ = [("pageIndex", index)] by simp [named]),
    lastValue_of_perm order (show _ = [("pageSize", size)] by simp [named])]
  exact ⟨fun h => h.2, fun h => ⟨decodes_of_decodeTo h, h⟩⟩

/-- Pairs in the order of the parts are decoded in that order, up to the first fault. -/
theorem ofPairs_named :
    ofPairs limits (named filter sort index size) = (do
      let f ← Parameter.decodeFilter limits filter
      let fields ← Parameter.decodeSort limits sort
      let n ← Parameter.decodePageIndex index
      let m ← Parameter.decodePageSize size
      .ok ⟨f.sortedBy fields, n, m⟩) := by
  simp only [ofPairs, named, PairsRead.takeAll, PairsRead.take]
  cases Parameter.decodeFilter limits filter with
  | error fault => rfl
  | ok f =>
    cases Parameter.decodeSort limits sort with
    | error fault => rfl
    | ok fields =>
      cases Parameter.decodePageIndex index with
      | error fault => rfl
      | ok n => cases Parameter.decodePageSize size <;> rfl

/-- Four pairs and the text of their values give one answer. In another order, and among pairs of
other keys, they are read in the same cases and as the same request. Of a key that comes again the
last value decides. -/
theorem pairs_agree_with_text (limits : Limits) :
    (∀ filter sort index size : String,
      '|' ∉ filter.toList → '|' ∉ sort.toList → '|' ∉ index.toList →
        ofPairs limits (named filter sort index size) =
          parse limits (barred filter sort index size) ∧
        ∀ pairs, (pairs.filter (·.1 ∈ keys)).Perm (named filter sort index size) →
          ∀ r, ofPairs limits pairs = .ok r ↔
            parse limits (barred filter sort index size) = .ok r) ∧
    ∀ pairs, (∀ p ∈ pairs, Decodes limits p) →
      ∃ r, ofPairs limits pairs = .ok r ∧
        DecodeTo limits (lastValue pairs "filter") (lastValue pairs "sort")
          (lastValue pairs "pageIndex") (lastValue pairs "pageSize") r := by
  constructor
  · intro filter sort index size hf hs hi
    constructor
    · rw [ofPairs_named, parse_barred hf hs hi]
    · intro pairs order r
      rw [ofPairs_of_perm_ok_iff order, parse_barred_ok_iff hf hs hi]
  · intro pairs decode
    obtain ⟨s, taken⟩ := PairsRead.takeAll_ok_iff (s := {}) |>.mpr decode
    have read : ofPairs limits pairs = .ok _ := bind_ok_iff.mpr ⟨s, taken, rfl⟩
    exact ⟨_, read, (ofPairs_ok_iff.mp read).2⟩

namespace Sample

/-- A list of sort fields as a parameter: by age, the oldest first. -/
def byAge : String := "W3siZmllbGQiOiJhZ2UiLCJvcmRlciI6ImRlc2MifV0="

/-- The parts of a request in another order than in its text, with pairs that do not count. -/
def shuffled : List (String × String) :=
  [("lang", "en"), ("pageSize", "20"), ("sort", byAge), ("filter", ""), ("Sort", "|"),
    ("pageIndex", " 3 ")]

/-- A page index that is given twice. -/
def turned : List (String × String) := [("pageIndex", "1"), ("sort", byAge), ("pageIndex", "2")]

end Sample

open Request.Sample in
theorem pairs_agree_with_text_shuffled :
    (shuffled.filter (·.1 ∈ keys)).Perm (named "" byAge " 3 " "20") ∧
      (∀ r, ofPairs {} shuffled = .ok r ↔ parse {} (barred "" byAge " 3 " "20") = .ok r) ∧
      (ofPairs {} shuffled).toOption.map (fun r => (r.filter.sort, r.pageIndex, r.pageSize)) =
        some ([⟨"age", .desc⟩], 3, 20) ∧
      (∀ p ∈ turned, Decodes {} p) ∧ ∃ r, ofPairs {} turned = .ok r ∧ r.pageIndex = 2 := by
  have order : (shuffled.filter (·.1 ∈ keys)).Perm (named "" byAge " 3 " "20") := by decide
  have sorted : ∃ sort, Parameter.decodeSort {} byAge = .ok sort := by
    have read : (Parameter.decodeSort {} byAge).isOk = true := by decide +kernel
    cases decoded : Parameter.decodeSort {} byAge with
    | error fault =>
      rw [decoded] at read
      cases read
    | ok sort => exact ⟨sort, rfl⟩
  have decode : ∀ p ∈ turned, Decodes {} p := by
    intro p mem
    simp only [turned, List.mem_cons, List.not_mem_nil, or_false] at mem
    rcases mem with rfl | rfl | rfl
    · exact ⟨1, rfl⟩
    · exact sorted
    · exact ⟨2, rfl⟩
  obtain ⟨asText, repeated⟩ := pairs_agree_with_text {}
  have agree := (asText "" byAge " 3 " "20" (by decide) (by decide) (by decide)).2 shuffled order
  refine ⟨order, agree, by decide +kernel, decode, ?_⟩
  obtain ⟨r, read, f, fields, -, -, index, -⟩ := repeated turned decode
  exact ⟨r, read, (Except.ok.inj index).symm⟩

end FieldQuery.Request

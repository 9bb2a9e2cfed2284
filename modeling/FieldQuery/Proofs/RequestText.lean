import FieldQuery.Proofs.Digits
import FieldQuery.Proofs.Pairs
import FieldQuery.Proofs.Transport

/-!
# Requests as text

A request is written as one text, its sort fields apart from its filter. No part of the text has a
bar or a blank, so the parts are cut where they were joined and trimming leaves each as it is. Main
statement: `parse_encode`.
-/
namespace FieldQuery

open Text

namespace Text

/-- A text without blanks is not trimmed. -/
theorem trim_of_visible {text : List Char} (h : ∀ c ∈ text, isBlank c = false) :
    trim text = text := by
  have kept : ∀ s : List Char, (∀ c ∈ s, isBlank c = false) → s.dropWhile isBlank = s := by
    intro s visible
    cases s with
    | nil => rfl
    | cons c rest => exact List.dropWhile_cons_of_neg (by simp [visible c List.mem_cons_self])
  unfold trim trimStart trimEnd
  rw [kept text h, kept text.reverse (fun c mem => h c (List.mem_reverse.mp mem)),
    List.reverse_reverse]

end Text

/-- Characters that no part of a request is cut or trimmed at. -/
def Seamless (c : Char) : Prop := isBlank c = false ∧ c ≠ '|'

instance (c : Char) : Decidable (Seamless c) := inferInstanceAs (Decidable (_ ∧ _))

theorem bar_not_mem {text : List Char} (h : ∀ c ∈ text, Seamless c) : '|' ∉ text :=
  fun mem => (h '|' mem).2 rfl

/-- The digits of a number that fits are read to the end. -/
theorem readDigits_eq (negative : Bool) {ds : List Char} {n value : Nat}
    (digits : ∀ c ∈ ds, c.isDigit = true)
    (whole : ds.foldl (fun n c => 10 * n + digitValue c) n = value)
    (fits : value < intLimit ∨ negative = true ∧ value ≤ intLimit) :
    Parameter.readDigits negative n ds = .ok (if negative then -(value : Int) else value) := by
  induction ds generalizing n with
  | nil =>
    subst whole
    rfl
  | cons c rest ih =>
    have first : c.isDigit = true := digits c List.mem_cons_self
    have later := ih (fun d mem => digits d (List.mem_cons_of_mem c mem)) whole
    have grows : 10 * n + digitValue c ≤ value :=
      whole ▸ NumeralText.le_foldl_digits rest _
    unfold Parameter.readDigits
    cases negative with
    | true =>
      have small : ¬ intLimit < 10 * n + digitValue c := by omega
      simpa [first, small] using later
    | false =>
      have small : ¬ intLimit ≤ 10 * n + digitValue c := by
        rcases fits with fits | ⟨wrong, -⟩
        · omega
        · cases wrong
      simpa [first, small] using later

theorem takeSign_digits {ds : List Char} (digits : ∀ c ∈ ds, c.isDigit = true) :
    takeSign ds = (false, ds) := by
  cases ds with
  | nil => rfl
  | cons c rest =>
    have first := digits c List.mem_cons_self
    unfold takeSign
    split
    · rename_i minus
      cases minus
      cases first
    · rename_i plus
      cases plus
      cases first
    · rfl

theorem seamless_of_isDigit {c : Char} (h : c.isDigit = true) : Seamless c := by
  have each : ∀ n < 0x80, (Char.ofNat n).isDigit = true → Seamless (Char.ofNat n) := by decide
  have small : c.toNat < 0x80 := by
    simp only [Char.isDigit, Bool.and_eq_true, decide_eq_true_eq] at h
    exact Nat.lt_of_le_of_lt (UInt32.le_iff_toNat_le.mp h.2) (by decide)
  have here := each c.toNat small
  rw [Char.ofNat_toNat] at here
  exact here h

/-- The text of an integer: perhaps a minus, and the digits of its size. -/
theorem toList_intText (n : Int) :
    (intText n).toList = (if n < 0 then ['-'] else []) ++ decimalDigits n.natAbs := by
  rw [intText, String.toList_ofList]
  split <;> rfl

theorem seamless_intText (n : Int) : ∀ c ∈ (intText n).toList, Seamless c := by
  intro c mem
  rw [toList_intText] at mem
  rcases List.mem_append.mp mem with sign | digit
  · split at sign
    · rw [List.mem_singleton.mp sign]
      decide
    · cases sign
  · exact seamless_of_isDigit (isDigit_of_mem_decimalDigits digit)

namespace Parameter

/-- An integer of 64 bits is read from its text, at either limit too. -/
theorem readInteger_intText {n : Int} (low : -(intLimit : Int) ≤ n) (high : n < intLimit) :
    readInteger (intText n).toList = .ok n := by
  have digits : ∀ c ∈ decimalDigits n.natAbs, c.isDigit = true :=
    fun c mem => isDigit_of_mem_decimalDigits mem
  have value := digitsValue_decimalDigits n.natAbs
  obtain ⟨d, ds, written⟩ := List.exists_cons_of_ne_nil (decimalDigits_ne_nil n.natAbs)
  have sign := takeSign_digits digits
  rw [toList_intText]
  rw [written] at digits value sign ⊢
  by_cases negative : n < 0
  · have read := readDigits_eq true digits value (.inr ⟨rfl, by omega⟩)
    rw [if_pos negative]
    refine Eq.trans read (congrArg Except.ok ?_)
    rw [if_pos rfl]
    omega
  · have read := readDigits_eq false digits value (.inl (by omega))
    rw [if_neg negative, List.nil_append, readInteger, sign]
    refine Eq.trans read (congrArg Except.ok ?_)
    rw [if_neg nofun]
    omega

theorem decodeNumber_intText (name : String) {n : Int} (low : -(intLimit : Int) ≤ n)
    (high : n < intLimit) : decodeNumber name (intText n) = .ok n := by
  have visible : trim (intText n).toList = (intText n).toList :=
    trim_of_visible fun c mem => (seamless_intText n c mem).1
  have nonempty : (intText n).toList.isEmpty = false := by
    rw [toList_intText]
    simp [decimalDigits_ne_nil]
  unfold decodeNumber
  simp only [visible, nonempty, readInteger_intText low high]
  rfl

theorem seamless_encode {bs : List UInt8} {c : Char} (h : c ∈ Base64.encode bs) : Seamless c := by
  rcases Base64.value?_of_decode? (Base64.decode?_encode bs) h with rfl | sign
  · decide
  · have each : ∀ n < 0x80, (Base64.Alphabet.standard.value? (Char.ofNat n)).isSome = true →
        Seamless (Char.ofNat n) := by decide
    have here := each c.toNat (Base64.toNat_lt_of_value? sign)
    rw [Char.ofNat_toNat] at here
    exact here sign

theorem seamless_encodeFilter (f : Filter) : ∀ c ∈ (encodeFilter f).toList, Seamless c := by
  intro c mem
  rw [toList_encodeFilter] at mem
  exact seamless_encode mem

/-- A document that nothing happened to on its way is decoded as it reads. -/
theorem decode_encode {α : Type} {read : Origin → Draft → Draft.Read α} {limits : Limits}
    {bs : List UInt8} {a : α} (name : String) (nonempty : Base64.encode bs ≠ [])
    (size : Utf8.size (Base64.encode bs) ≤ limits.paramSize)
    (document : readDocument read bs = .ok a) :
    decode read limits name (String.ofList (Base64.encode bs)) = .ok (some a) := by
  have visible : trim (Base64.encode bs) = Base64.encode bs :=
    trim_of_visible fun c mem => (seamless_encode mem).1
  have present : (Base64.encode bs).isEmpty = false := by simpa using nonempty
  have carried : CarriedText (Base64.encode bs) (Base64.encode bs) := by
    have each := carriedText_flatMap Carried.same (Base64.encode bs)
    rwa [List.flatMap_singleton'] at each
  have behind := octets_of_carried name List.mem_cons_self
    (fun c => travels_of_mem List.mem_cons_self) carried
  unfold decode
  simp only [String.toList_ofList, visible, present, Nat.not_lt.mpr size, Bool.false_eq_true,
    if_false, behind]
  refine bind_ok_iff.mpr ⟨bs, rfl, ?_⟩
  rw [document]

theorem encode_arr_ne_nil (items : List Json) :
    Base64.encode (Utf8.encode (Json.compact (.arr items))) ≠ [] := by
  intro none
  have first := Base64.head?_encode 0x5B (Utf8.encode (Json.compactItems items) ++ [0x5D])
  rw [← Draft.encode_arr, none] at first
  cases first

theorem encode_obj_ne_nil (members : List (String × Json)) :
    Base64.encode (Utf8.encode (Json.compact (.obj members))) ≠ [] := by
  intro none
  have first := Base64.head?_encode 0x7B (Utf8.encode (Json.compactMembers members) ++ [0x7D])
  rw [← Draft.encode_obj, none] at first
  cases first

/-- A filter within the limits is decoded from the parameter that it is written as. -/
theorem decodeFilter_encodeFilter {limits : Limits} {f : Filter}
    (values : ∀ t ∈ f.terms, t.value.Faithful) (depth : f.toJson.nesting < Origin.depthLimit)
    (terms : f.terms.length ≤ limits.terms) (sort : f.sort.length ≤ limits.terms)
    (size : Utf8.size (encodeFilter f).toList ≤ limits.paramSize) :
    decodeFilter limits (encodeFilter f) = .ok f := by
  rw [toList_encodeFilter] at size
  have decoded : decode Filter.read limits "filter" (encodeFilter f) = .ok (some f) :=
    decode_encode "filter" (encode_obj_ne_nil _) size (Filter.ofOctets_compact values depth)
  unfold decodeFilter
  rw [decoded]
  change checkFilter limits f = .ok f
  rw [checkFilter, if_neg (Nat.not_lt.mpr terms), checkSort, if_neg (Nat.not_lt.mpr sort)]
  rfl

end Parameter

/-- Sort fields nest two deep: a list of objects. -/
theorem SortField.nesting_listJson (sort : List SortField) : (listJson sort).nesting ≤ 2 := by
  have items : Json.nestingItems (sort.map toJson) ≤ 1 := by
    induction sort with
    | nil => exact Nat.zero_le 1
    | cons s rest ih => exact Nat.max_le.mpr ⟨Nat.le_refl 1, ih⟩
  exact Nat.succ_le_succ items

theorem SortField.faithful_listJson (sort : List SortField) : (listJson sort).Faithful := by
  refine .arr fun j mem => ?_
  obtain ⟨s, -, rfl⟩ := List.mem_map.mp mem
  exact s.faithful_toJson

namespace Parameter

/-- Sort fields within the limits are decoded from the parameter that they are written as. -/
theorem decodeSort_encodeSort {limits : Limits} {sort : List SortField}
    (count : sort.length ≤ limits.terms)
    (size : Utf8.size (encodeSort sort).toList ≤ limits.paramSize) :
    decodeSort limits (encodeSort sort) = .ok sort := by
  have nesting : (SortField.listJson sort).nesting < Origin.depthLimit :=
    Nat.lt_of_le_of_lt (SortField.nesting_listJson sort) (by decide)
  have document : readDocument (fun o => Draft.readList o SortField.read)
      (Utf8.encode (SortField.listJson sort).compact) = .ok sort := by
    refine Draft.readDocument_ok_iff.mpr ?_
    rw [Draft.read_compact (SortField.faithful_listJson sort)]
    exact ⟨rfl, SortField.readList_toJson nesting⟩
  have written : (encodeSort sort).toList =
      Base64.encode (Utf8.encode (SortField.listJson sort).compact) := String.toList_ofList
  rw [written] at size
  have decoded : decode (fun o => Draft.readList o SortField.read) limits "sort" (encodeSort sort) =
      .ok (some sort) := decode_encode "sort" (encode_arr_ne_nil _) size document
  unfold decodeSort
  rw [decoded]
  exact if_neg (Nat.not_lt.mpr count)

end Parameter

namespace Request

/-- The sort fields of a request as they are written: a blank part if there are none. -/
def sortPart (sort : List SortField) : String :=
  if sort.isEmpty then "" else Parameter.encodeSort sort

theorem encode_eq (r : Request) :
    r.encode = barred (Parameter.encodeFilter { r.filter with sort := [] }) (sortPart r.filter.sort)
      (intText r.pageIndex) (intText r.pageSize) := rfl

theorem seamless_sortPart (sort : List SortField) : ∀ c ∈ (sortPart sort).toList, Seamless c := by
  intro c mem
  unfold sortPart at mem
  split at mem
  · exact nomatch mem
  · rw [Parameter.encodeSort, Parameter.encode, String.toList_ofList] at mem
    exact Parameter.seamless_encode mem

theorem decodeSort_sortPart {limits : Limits} {sort : List SortField}
    (count : sort.length ≤ limits.terms)
    (size : sort ≠ [] → Utf8.size (Parameter.encodeSort sort).toList ≤ limits.paramSize) :
    Parameter.decodeSort limits (sortPart sort) = .ok sort := by
  cases sort with
  | nil => rfl
  | cons s rest => exact Parameter.decodeSort_encodeSort count (size nofun)

/-- Sort fields that were taken out of a filter come back, none of them being no replacement. -/
theorem sortedBy_self (f : Filter) : { f with sort := [] }.sortedBy f.sort = f := by
  obtain ⟨terms, sort, logic, preload⟩ := f
  cases sort <;> rfl

/-- A request within the limits is read from the text that it is written as. -/
theorem parse_encode {limits : Limits} {r : Request}
    (values : ∀ t ∈ r.filter.terms, t.value.Faithful)
    (depth : { r.filter with sort := [] }.toJson.nesting < Origin.depthLimit)
    (terms : r.filter.terms.length ≤ limits.terms) (sort : r.filter.sort.length ≤ limits.terms)
    (filterSize : Utf8.size (Parameter.encodeFilter { r.filter with sort := [] }).toList ≤
      limits.paramSize)
    (sortSize : r.filter.sort ≠ [] →
      Utf8.size (Parameter.encodeSort r.filter.sort).toList ≤ limits.paramSize)
    (index : -(intLimit : Int) ≤ r.pageIndex ∧ r.pageIndex < intLimit)
    (size : -(intLimit : Int) ≤ r.pageSize ∧ r.pageSize < intLimit) :
    parse limits r.encode = .ok r := by
  rw [encode_eq, parse_barred_ok_iff (bar_not_mem (Parameter.seamless_encodeFilter _))
    (bar_not_mem (seamless_sortPart r.filter.sort)) (bar_not_mem (seamless_intText r.pageIndex))]
  refine ⟨{ r.filter with sort := [] }, r.filter.sort, ?_, decodeSort_sortPart sort sortSize,
    Parameter.decodeNumber_intText _ index.1 index.2,
    Parameter.decodeNumber_intText _ size.1 size.2, (sortedBy_self r.filter).symm⟩
  exact Parameter.decodeFilter_encodeFilter values depth terms (Nat.zero_le _) filterSize

namespace Sample

/-- Books of some length by title, on the least page there is and as many of them as can be. -/
def longTitles : Request where
  filter := {
    terms := [
      { field := "title", value := .str "~?|~?", mode := .contains, declared := some .text },
      { field := "pages", value := .num (.int 300), mode := .gte }]
    sort := [⟨"title", .desc⟩, ⟨"pages", .asc⟩]
    logic := .or }
  pageIndex := -9223372036854775808
  pageSize := 9223372036854775807

/-- The first page of what a filter finds whose number does not come back. -/
def unevenPage : Request := { filter := Parameter.Sample.uneven }

end Sample

theorem parse_encode_longTitles :
    parse {} Sample.longTitles.encode = .ok Sample.longTitles := by
  refine parse_encode ?_ (by decide) (by decide) (by decide) ?_ ?_ (by decide) (by decide)
  · intro t mem
    simp only [Sample.longTitles, List.mem_cons, List.not_mem_nil, or_false] at mem
    rcases mem with rfl | rfl
    · exact .str _
    · exact .num ⟨by decide, by decide⟩
  · rw [Parameter.toList_encodeFilter]
    decide +kernel
  · intro _
    rw [Parameter.encodeSort, Parameter.encode, String.toList_ofList]
    decide +kernel

/-- A whole number too long for the reader comes back changed in a request as well. -/
theorem request_altered_in_text :
    (Number.ofInt 1801439850948199).toInt? = some 1801439850948199 ∧
      { Sample.unevenPage.filter with sort := [] }.toJson.nesting < Origin.depthLimit ∧
      Utf8.size (Parameter.encodeFilter { Sample.unevenPage.filter with sort := [] }).toList ≤
        ({} : Limits).paramSize ∧
      parse {} Sample.unevenPage.encode ≠ .ok Sample.unevenPage := by
  refine ⟨by decide +kernel, by decide, ?_, ?_⟩
  · rw [Parameter.toList_encodeFilter]
    decide +kernel
  · intro same
    have parts := Parameter.seamless_encodeFilter Parameter.Sample.uneven
    have decoded : DecodeTo {} (Parameter.encodeFilter Parameter.Sample.uneven) (sortPart [])
        (intText 0) (intText 0) Sample.unevenPage :=
      (parse_barred_ok_iff (bar_not_mem parts) (by decide) (by decide)).mp same
    obtain ⟨f, fields, filter, sort, -, -, whole⟩ := decoded
    obtain rfl : [] = fields := Except.ok.inj sort
    obtain rfl : Parameter.Sample.uneven = f := whole
    have numbers := congrArg Parameter.Sample.numbers filter
    simp only [Parameter.decodeFilter, Parameter.decode, Parameter.toList_encodeFilter] at numbers
    exact absurd numbers (by decide +kernel)

end Request

end FieldQuery

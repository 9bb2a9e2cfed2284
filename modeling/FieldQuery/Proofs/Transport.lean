import FieldQuery.Proofs.Alphabets
import FieldQuery.Proofs.FilterWire

/-!
# Filters survive transport

A filter is written as a parameter, and the parameter may be escaped, safe-signed, blanked and put
between blanks on its way. What arrives is decoded as the filter. Trimming takes away only what was
put around the parameter, since neither its first nor its last sign can become a blank.
-/
namespace FieldQuery

open Text

namespace Parameter

/-- Characters that transport brings back: they are of ASCII, and neither percent signs nor
blanks. -/
def Travels (c : Char) : Prop := c.toNat < 0x80 ∧ c ≠ '%' ∧ c ≠ ' '

instance (c : Char) : Decidable (Travels c) := inferInstanceAs (Decidable (_ ∧ _))

/-- What a reader makes of a blank that was a plus sign. -/
def repair (c : Char) : Char := if c = ' ' then '+' else c

theorem encodeChar_ascii {c : Char} (h : c.toNat < 0x80) :
    Utf8.encodeChar c = [Utf8.octet c.toNat] := if_pos h

theorem unescape_plain {b : UInt8} (h : b ≠ Percent.percent) (rest : List UInt8) :
    Percent.unescape (b :: rest) = b :: Percent.unescape rest := by
  cases rest with
  | nil => rfl
  | cons c rest =>
    cases rest with
    | nil => rfl
    | cons d rest => rw [Percent.unescape, if_neg h]

theorem unescape_escape {y z : UInt8} {high low : Nat} (hy : Percent.hexValue? y = some high)
    (hz : Percent.hexValue? z = some low) (rest : List UInt8) :
    Percent.unescape (Percent.percent :: y :: z :: rest) =
      UInt8.ofNat (high * 16 + low) :: Percent.unescape rest := by
  rw [Percent.unescape, if_pos rfl, hy, hz]

/-- A hexadecimal digit in either case has the value it stands for. -/
theorem hexDigit_octet {value : Nat} {c : Char} (h : IsHexDigit value c) :
    c.toNat < 0x80 ∧ isBlank c = false ∧ Percent.hexValue? (Utf8.octet c.toNat) = some value := by
  have lower : ∀ v < 16, v.digitChar.toNat < 0x80 ∧ isBlank v.digitChar = false ∧
      Percent.hexValue? (Utf8.octet v.digitChar.toNat) = some v := by decide
  have upper : ∀ v < 16, v.digitChar.toUpper.toNat < 0x80 ∧ isBlank v.digitChar.toUpper = false ∧
      Percent.hexValue? (Utf8.octet v.digitChar.toUpper.toNat) = some v := by decide
  obtain ⟨small, rfl | rfl⟩ := h
  · exact lower value small
  · exact upper value small

theorem encode_cons_ascii {c : Char} (h : c.toNat < 0x80) (rest : List Char) :
    Utf8.encode (c :: rest) = Utf8.octet c.toNat :: Utf8.encode rest := by
  rw [Utf8.encode, List.flatMap_cons, encodeChar_ascii h]
  rfl

theorem octet_ne_percent {c : Char} (h : c.toNat < 0x80) (other : c ≠ '%') :
    Utf8.octet c.toNat ≠ Percent.percent := by
  intro same
  have code := congrArg UInt8.toNat same
  rw [Utf8.octet_toNat (by omega)] at code
  exact other (Char.toNat_inj.mp code)

/-- Once escapes are resolved, a sign is itself or a blank that was a plus sign. -/
theorem Carried.unescape {c : Char} {cs : List Char} (h : Carried c cs) (travels : Travels c)
    (rest : List Char) : ∃ d, repair d = c ∧ ∀ mid : List Char,
      Percent.unescape (Utf8.encode rest) = Utf8.encode mid →
        Percent.unescape (Utf8.encode (cs ++ rest)) = Utf8.encode (d :: mid) := by
  obtain ⟨ascii, percent, blank⟩ := travels
  cases h with
  | same =>
    refine ⟨c, if_neg blank, fun mid later => ?_⟩
    rw [List.singleton_append, encode_cons_ascii ascii, encode_cons_ascii ascii,
      unescape_plain (octet_ne_percent ascii percent), later]
  | escaped high low =>
    rename_i x y
    obtain ⟨asciiX, -, valueX⟩ := hexDigit_octet high
    obtain ⟨asciiY, -, valueY⟩ := hexDigit_octet low
    refine ⟨c, if_neg blank, fun mid later => ?_⟩
    have escape : Utf8.encode (['%', x, y] ++ rest) =
        Percent.percent :: Utf8.octet x.toNat :: Utf8.octet y.toNat :: Utf8.encode rest := by
      rw [List.cons_append, List.cons_append, List.singleton_append,
        encode_cons_ascii (by decide), encode_cons_ascii asciiX, encode_cons_ascii asciiY]
      rfl
    rw [escape, unescape_escape valueX valueY, later, encode_cons_ascii ascii,
      Nat.div_add_mod' c.toNat 16]
    rfl
  | blank =>
    refine ⟨' ', rfl, fun mid later => ?_⟩
    rw [List.singleton_append, encode_cons_ascii (by decide), encode_cons_ascii (by decide),
      unescape_plain (by decide), later]

/-- What is left of the signs once escapes are resolved differs from them by blanks only. -/
theorem unescape_carried {signs body : List Char} (h : CarriedText signs body)
    (travels : ∀ c ∈ signs, Travels c) :
    ∃ mid : List Char, mid.map repair = signs ∧
      Percent.unescape (Utf8.encode body) = Utf8.encode mid := by
  induction h with
  | nil => exact ⟨[], rfl, rfl⟩
  | cons carried later ih =>
    rename_i c s cs rest
    obtain ⟨mid, repaired, resolved⟩ := ih fun x hx => travels x (List.mem_cons_of_mem c hx)
    obtain ⟨d, back, unescaped⟩ := carried.unescape (travels c List.mem_cons_self) rest
    exact ⟨d :: mid, by rw [List.map_cons, back, repaired], unescaped mid resolved⟩

/-- The octets behind a parameter as it arrives. -/
theorem octets_of_carried {bs : List UInt8} {signs body : List Char} (name : String)
    (h : signs ∈ [Base64.encode bs, (Base64.encode bs).map safeSign])
    (travels : ∀ c ∈ signs, Travels c) (carried : CarriedText signs body) :
    octets name body = .ok bs := by
  obtain ⟨mid, repaired, resolved⟩ := unescape_carried carried travels
  have unescaped : Percent.decode body = .ok mid := by
    rw [Percent.decode, resolved, Utf8.decode_encode]
  have encoded : (mid.map fun c => if c = ' ' then '+' else c) = signs := repaired
  unfold octets
  rw [unescaped]
  simp only [encoded, Base64.decode?_of_encode h, bind, Except.bind]

/-- A text whose first and last character are no blanks. -/
def Bordered (text : List Char) : Prop :=
  (∃ c ∈ text.head?, isBlank c = false) ∧ ∃ c ∈ text.getLast?, isBlank c = false

theorem dropWhile_blank {before text : List Char} (blank : ∀ c ∈ before, isBlank c = true)
    (visible : ∃ c ∈ text.head?, isBlank c = false) :
    (before ++ text).dropWhile isBlank = text := by
  obtain ⟨c, first, visible⟩ := visible
  cases text with
  | nil => cases first
  | cons d rest =>
    cases first
    rw [List.dropWhile_append_of_pos blank]
    exact List.dropWhile_cons_of_neg (by simp [visible])

theorem trim_bordered {before text after : List Char} (h : Bordered text)
    (blank : ∀ c ∈ before ++ after, isBlank c = true) : trim (before ++ text ++ after) = text := by
  obtain ⟨⟨c, first, visible⟩, last⟩ := h
  have start : trimStart (before ++ text ++ after) = text ++ after := by
    rw [List.append_assoc]
    refine dropWhile_blank (fun x hx => blank x (List.mem_append_left after hx)) ⟨c, ?_, visible⟩
    rw [List.head?_append, first]
    rfl
  rw [trim, start, trimEnd, List.reverse_append, dropWhile_blank _ (by simpa using last),
    List.reverse_reverse]
  exact fun x hx => blank x (List.mem_append_right before (List.mem_reverse.mp hx))

theorem Carried.bordered {c : Char} {cs : List Char} (h : Carried c cs) (plus : c ≠ '+')
    (visible : isBlank c = false) : Bordered cs := by
  cases h with
  | same => exact ⟨⟨c, rfl, visible⟩, c, rfl, visible⟩
  | escaped high low =>
    rename_i x y
    exact ⟨⟨'%', rfl, by decide⟩, y, rfl, (hexDigit_octet low).2.1⟩
  | blank => exact absurd rfl plus

/-- A sign that stays visible on its way. -/
def StaysVisible (c : Char) : Prop := c ≠ '+' ∧ isBlank c = false

instance (c : Char) : Decidable (StaysVisible c) := inferInstanceAs (Decidable (_ ∧ _))

theorem CarriedText.last_visible {signs body : List Char} (h : CarriedText signs body)
    (last : ∃ c ∈ signs.getLast?, StaysVisible c) : ∃ c ∈ body.getLast?, isBlank c = false := by
  induction h with
  | nil =>
    obtain ⟨c, none, -⟩ := last
    cases none
  | cons carried later ih =>
    rename_i c s cs rest
    obtain ⟨d, last, stays⟩ := last
    cases s with
    | nil =>
      cases last
      cases later
      rw [List.append_nil]
      exact (carried.bordered stays.1 stays.2).2
    | cons e s =>
      obtain ⟨x, found, visible⟩ := ih ⟨d, last, stays⟩
      refine ⟨x, ?_, visible⟩
      rw [List.getLast?_append, found]
      rfl

/-- A parameter whose first and last sign stay visible arrives with visible ends. -/
theorem CarriedText.bordered {signs body : List Char} (h : CarriedText signs body)
    (first : ∃ c ∈ signs.head?, StaysVisible c) (last : ∃ c ∈ signs.getLast?, StaysVisible c) :
    Bordered body := by
  refine ⟨?_, h.last_visible last⟩
  obtain ⟨c, first, stays⟩ := first
  cases h with
  | nil => cases first
  | cons carried later =>
    cases first
    obtain ⟨⟨d, found, visible⟩, -⟩ := carried.bordered stays.1 stays.2
    refine ⟨d, ?_, visible⟩
    rw [List.head?_append, found]
    rfl

theorem travels_of_sign {c : Char}
    (h : c = '=' ∨ (Base64.Alphabet.standard.value? c).isSome = true) :
    Travels c ∧ Travels (safeSign c) := by
  have here : Travels c := by
    rcases h with rfl | sign
    · decide
    · refine ⟨Base64.toNat_lt_of_value? sign, ?_, ?_⟩ <;>
      · rintro rfl
        cases sign
  refine ⟨here, ?_⟩
  unfold safeSign
  split
  · decide
  · split
    · decide
    · exact here

/-- Every sign of a parameter passes through transport, exchanged or not. -/
theorem travels_of_mem {bs : List UInt8} {signs : List Char}
    (h : signs ∈ [Base64.encode bs, (Base64.encode bs).map safeSign]) {c : Char} (mem : c ∈ signs) :
    Travels c := by
  have sign {x : Char} (written : x ∈ Base64.encode bs) :=
    travels_of_sign (Base64.value?_of_decode? (Base64.decode?_encode bs) written)
  simp only [List.mem_cons, List.not_mem_nil, or_false] at h
  rcases h with rfl | rfl
  · exact (sign mem).1
  · obtain ⟨x, written, rfl⟩ := List.mem_map.mp mem
    exact (sign written).2

/-- The parameter of an object begins and ends with signs that stay visible. -/
theorem visible_of_object {bs : List UInt8} {signs : List Char}
    (h : signs ∈ [Base64.encode (0x7B :: (bs ++ [0x7D])),
      (Base64.encode (0x7B :: (bs ++ [0x7D]))).map safeSign]) :
    (∃ c ∈ signs.head?, StaysVisible c) ∧ ∃ c ∈ signs.getLast?, StaysVisible c := by
  have first : (Base64.encode (0x7B :: (bs ++ [0x7D]))).head? = some 'e' := Base64.head?_encode _ _
  have last : (0x7B :: (bs ++ [0x7D])).getLast? = some (0x7D : UInt8) := by
    rw [← List.cons_append, List.getLast?_concat]
  have ends : ∃ c ∈ (Base64.encode (0x7B :: (bs ++ [0x7D]))).getLast?,
      StaysVisible c ∧ safeSign c = c := by
    rcases Base64.getLast?_encode last with pad | digit
    · exact ⟨'=', pad, by decide⟩
    · exact ⟨'9', digit, by decide⟩
  have exchanged {place : Option Char} (h : ∃ c ∈ place, StaysVisible c ∧ safeSign c = c) :
      ∃ c ∈ place.map safeSign, StaysVisible c := by
    obtain ⟨c, found, stays, same⟩ := h
    exact ⟨c, by rw [found, Option.map_some, same]; rfl, stays⟩
  simp only [List.mem_cons, List.not_mem_nil, or_false] at h
  rcases h with rfl | rfl
  · obtain ⟨c, found, stays, -⟩ := ends
    exact ⟨⟨'e', first, by decide⟩, c, found, stays⟩
  · rw [List.head?_map, List.getLast?_map]
    exact ⟨exchanged ⟨'e', first, by decide⟩, exchanged ends⟩

/-- The JSON text of an object arrives as it was written. -/
theorem decode_of_arrives {α : Type} {read : Origin → Draft → Draft.Read α} {limits : Limits}
    {name received : String} {bs : List UInt8} {a : α}
    (arrives : Arrives (Base64.encode (0x7B :: (bs ++ [0x7D]))) received.toList)
    (size : Utf8.size (trim received.toList) ≤ limits.paramSize)
    (document : readDocument read (0x7B :: (bs ++ [0x7D])) = .ok a) :
    decode read limits name received = .ok (some a) := by
  obtain ⟨signs, sent, body, before, after, carried, whole, blank⟩ := arrives
  obtain ⟨first, last⟩ := visible_of_object sent
  have bordered : Bordered body := carried.bordered first last
  have trimmed : trim received.toList = body := by
    rw [whole]
    exact trim_bordered bordered blank
  have nonempty : body.isEmpty = false := by
    obtain ⟨⟨c, first, -⟩, -⟩ := bordered
    cases body with
    | nil => cases first
    | cons => rfl
  have fits : ¬ limits.paramSize < Utf8.size body := by
    rw [← trimmed]
    exact Nat.not_lt.mpr size
  have behind := octets_of_carried name sent (fun c => travels_of_mem sent) carried
  unfold decode
  simp only [trimmed, nonempty, fits, Bool.false_eq_true, if_false, behind]
  refine bind_ok_iff.mpr ⟨_, rfl, ?_⟩
  rw [document]

theorem toList_encodeFilter (f : Filter) :
    (encodeFilter f).toList = Base64.encode (Utf8.encode f.toJson.compact) := String.toList_ofList

/-- A filter that is written as a parameter is decoded as itself, whatever became of the parameter
on its way. -/
theorem filter_survives_transport {limits : Limits} {f : Filter} {received : String}
    (values : ∀ t ∈ f.terms, t.value.Faithful) (depth : f.toJson.nesting < Origin.depthLimit)
    (terms : f.terms.length ≤ limits.terms) (sort : f.sort.length ≤ limits.terms)
    (arrives : Arrives (encodeFilter f).toList received.toList)
    (size : Utf8.size (trim received.toList) ≤ limits.paramSize) :
    decodeFilter limits received = .ok f := by
  have octets : Utf8.encode f.toJson.compact =
      0x7B :: (Utf8.encode (Json.compactMembers _) ++ [0x7D]) := Draft.encode_obj _
  have document : readDocument Filter.read (Utf8.encode f.toJson.compact) = .ok f :=
    Filter.ofOctets_compact values depth
  rw [toList_encodeFilter] at arrives
  rw [octets] at arrives document
  have checked : checkFilter limits f = .ok f := by
    rw [checkFilter, if_neg (Nat.not_lt.mpr terms), checkSort, if_neg (Nat.not_lt.mpr sort)]
    rfl
  rw [decodeFilter, decode_of_arrives arrives size document]
  exact checked

/-- Each sign of a parameter may be changed by itself. -/
theorem carriedText_flatMap {change : Char → List Char} (h : ∀ c, Carried c (change c))
    (signs : List Char) : CarriedText signs (signs.flatMap change) := by
  induction signs with
  | nil => exact .nil
  | cons c rest ih => exact .cons (h c) ih

namespace Sample

/-- A search whose parameter has each of the signs that transport treats apart. -/
def search : Filter where
  terms := [{ field := "title", value := .str "~?~?~?", mode := .contains, declared := some .text },
    { field := "price", value := .num (.real ⟨false, 0x4004000000000000⟩), mode := .lt }]
  sort := [⟨"title", .desc⟩]
  logic := .or
  preload := ["tags"]

/-- Escapes slashes and padding, and turns plus signs into blanks. -/
def formEncoded (c : Char) : List Char :=
  if c = '+' then [' ']
  else if c = '/' then ['%', '2', 'f']
  else if c = '=' then ['%', '3', 'D']
  else [c]

theorem carried_formEncoded (c : Char) : Carried c (formEncoded c) := by
  unfold formEncoded
  split
  · rename_i plus
    rw [plus]
    exact .blank
  split
  · rename_i slash
    rw [slash]
    exact .escaped ⟨by decide, .inl rfl⟩ ⟨by decide, .inl rfl⟩
  split
  · rename_i pad
    rw [pad]
    exact .escaped ⟨by decide, .inl rfl⟩ ⟨by decide, .inr rfl⟩
  · exact .same c

/-- The parameter of the search, encoded for a form and with blanks around it. -/
def received : String :=
  String.ofList (['\n'] ++ (encodeFilter search).toList.flatMap formEncoded ++ [' '])

end Sample

/-- The search as it arrives is within the usual limit. -/
theorem size_received : Utf8.size (trim Sample.received.toList) ≤ ({} : Limits).paramSize := by
  rw [Sample.received, String.toList_ofList, toList_encodeFilter]
  decide +kernel

theorem filter_survives_transport_search :
    decodeFilter {} Sample.received = .ok Sample.search := by
  have half : (Numeral.real ⟨false, 0x4004000000000000⟩).ReadsBack := by
    have text : (Numeral.real ⟨false, 0x4004000000000000⟩).text.toList =
        (if false then ['-'] else []) ++ (decimalDigits 2 ++ ['.', '5']) := by decide +kernel
    have value : NumeralText.value? ⟨false, ['2'], some ['5'], none⟩ =
        some (.real ⟨false, 0x4004000000000000⟩) := by decide +kernel
    exact Draft.readsBack_of_takeNumeral text rfl value
  refine filter_survives_transport ?_ (by decide) (by decide) (by decide) ?_ size_received
  · intro t mem
    simp only [Sample.search, List.mem_cons, List.not_mem_nil, or_false] at mem
    rcases mem with rfl | rfl
    · exact .str _
    · exact .num (.inr half)
  · refine ⟨_, List.mem_cons_self, _, ['\n'], [' '],
      carriedText_flatMap Sample.carried_formEncoded _, String.toList_ofList, ?_⟩
    intro c mem
    rcases List.mem_cons.mp mem with rfl | mem
    · rfl
    · rw [List.mem_singleton.mp mem]
      rfl

namespace Sample

/-- The least whole number whose tenfold has no code of its own, looked for among pages. -/
def uneven : Filter where
  terms := [{
    field := "pages"
    value := .num (.real (Number.ofInt 1801439850948199))
    mode := .equal }]

def numbers (answer : Answer Filter) : List Numeral :=
  match answer with
  | .ok f => f.terms.filterMap fun t => match t.value with
    | .num n => some n
    | _ => none
  | .error _ => []

end Sample

/-- A whole number too long for the reader comes back changed, though nothing happens to the
parameter on its way. -/
theorem filter_altered_in_transport :
    (Number.ofInt 1801439850948199).toInt? = some 1801439850948199 ∧
      Sample.uneven.toJson.nesting < Origin.depthLimit ∧
      Utf8.size (trim (encodeFilter Sample.uneven).toList) ≤ ({} : Limits).paramSize ∧
      Arrives (encodeFilter Sample.uneven).toList (encodeFilter Sample.uneven).toList ∧
      decodeFilter {} (encodeFilter Sample.uneven) ≠ .ok Sample.uneven := by
  refine ⟨by decide +kernel, by decide, ?_, ?_, ?_⟩
  · rw [toList_encodeFilter]
    decide +kernel
  · refine ⟨_, List.mem_cons_self, _, [], [], carriedText_flatMap Carried.same _, ?_, ?_⟩
    · rw [List.flatMap_singleton', List.nil_append, List.append_nil]
    · intro c mem
      cases mem
  · intro same
    have numbers := congrArg Sample.numbers same
    simp only [decodeFilter, decode, toList_encodeFilter] at numbers
    exact absurd numbers (by decide +kernel)

end Parameter

end FieldQuery

import FieldQuery.Proofs.Pairs

/-!
# Limits of requests

What is decoded of a request never has more terms or sort fields than the limits allow, whichever
way it comes and whatever replaces what. A parameter that is too long is refused before anything of
it is decoded. Main statement: `decoded_within_limits`.
-/
namespace FieldQuery

open Text

variable {limits : Limits} {param name : String} {α : Type}

structure Filter.Within (limits : Limits) (f : Filter) : Prop where
  terms : f.terms.length ≤ limits.terms
  sort : f.sort.length ≤ limits.terms

/-- Whether a parameter has more octets than the limits allow, apart from the blanks around it. -/
def Limits.Oversized (limits : Limits) (param : String) : Prop :=
  limits.paramSize < Utf8.size (trim param.toList)

def Limits.tooLarge (limits : Limits) (name : String) : QueryFault :=
  .parameter name (.tooLarge limits.paramSize)

theorem Filter.within_empty (limits : Limits) : ({} : Filter).Within limits :=
  ⟨Nat.zero_le _, Nat.zero_le _⟩

/-- Sort fields that are few enough can take the place of others. -/
theorem Filter.Within.sortedBy {f : Filter} (h : f.Within limits) {sort : List SortField}
    (few : sort.length ≤ limits.terms) : (f.sortedBy sort).Within limits := by
  unfold Filter.sortedBy
  split
  · exact h
  · exact ⟨h.terms, few⟩

namespace Parameter

/-- The value that a text was sent for. -/
def undo (read : Origin → Draft → Draft.Read α) (name : String) (text : List Char) : Answer α :=
  octets name text >>= fun bs =>
    (readDocument read bs).mapError fun _ => .parameter name .notJson

/-- The value behind a parameter, by anything that undoes the transport of a text. -/
def decodeBy (undo : List Char → Answer α) (limits : Limits) (name param : String) :
    Answer (Option α) :=
  let text := trim param.toList
  if text.isEmpty then .ok none
  else if limits.paramSize < Utf8.size text then
    .error (limits.tooLarge name)
  else (undo text).map some

theorem decode_eq_decodeBy (read : Origin → Draft → Draft.Read α) :
    decode read limits name param = decodeBy (undo read name) limits name param := by
  refine ite_congr rfl (fun _ => rfl) fun _ => ite_congr rfl (fun _ => rfl) fun _ => ?_
  unfold undo
  cases octets name (trim param.toList) with
  | error fault => rfl
  | ok bs =>
    -- what is read is the value either way, and every fault of reading is the same to the sender
    change _ = ((readDocument read bs).mapError fun _ => _).map some
    cases found : readDocument read bs <;>
      simp [Bind.bind, Except.bind, found, Except.mapError, Except.map]

/-- What is too long is refused, whatever would undo its transport. -/
theorem decodeBy_of_oversized (long : limits.Oversized param) (undo : List Char → Answer α) :
    decodeBy undo limits name param = .error (limits.tooLarge name) := by
  have there : ¬ (trim param.toList).isEmpty = true := by
    intro blank
    have nothing : Utf8.size (trim param.toList) = 0 := by
      rw [List.isEmpty_iff.mp blank]
      rfl
    unfold Limits.Oversized at long
    rw [nothing] at long
    exact Nat.not_lt_zero _ long
  exact (if_neg there).trans (if_pos long)

theorem decodeFilter_of_oversized (long : limits.Oversized param) :
    decodeFilter limits param = .error (limits.tooLarge "filter") := by
  rw [decodeFilter, decode_eq_decodeBy, decodeBy_of_oversized long]
  rfl

theorem decodeSort_of_oversized (long : limits.Oversized param) :
    decodeSort limits param = .error (limits.tooLarge "sort") := by
  rw [decodeSort, decode_eq_decodeBy, decodeBy_of_oversized long]
  rfl

theorem checkSort_ok {sort kept : List SortField} (h : checkSort limits name sort = .ok kept) :
    kept.length ≤ limits.terms := by
  unfold checkSort at h
  split at h
  · cases h
  · rename_i few
    cases h
    exact Nat.le_of_not_lt few

theorem checkFilter_ok {f kept : Filter} (h : checkFilter limits f = .ok kept) :
    kept.Within limits := by
  unfold checkFilter at h
  split at h
  · cases h
  · rename_i few
    obtain ⟨sort, checked, rfl⟩ := map_ok_iff.mp h
    have same : sort = f.sort := by
      unfold checkSort at checked
      split at checked
      · cases checked
      · exact (Except.ok.inj checked).symm
    exact ⟨Nat.le_of_not_lt few, same ▸ checkSort_ok checked⟩

theorem decodeFilter_within {f : Filter} (h : decodeFilter limits param = .ok f) :
    f.Within limits := by
  obtain ⟨found, -, h⟩ := bind_ok_iff.mp h
  cases found with
  | none =>
    cases h
    exact Filter.within_empty limits
  | some g => exact checkFilter_ok h

theorem decodeSort_within {sort : List SortField} (h : decodeSort limits param = .ok sort) :
    sort.length ≤ limits.terms := by
  obtain ⟨found, -, h⟩ := bind_ok_iff.mp h
  exact checkSort_ok h

end Parameter

namespace Request

open Parameter

variable {query : String} {before after : List (String × String)} {r : Request}

def filterText (query : String) : String := String.ofList (cutAtBar query.toList).1

def sortText (query : String) : String :=
  String.ofList (cutAtBar (cutAtBar query.toList).2).1

def unpagedSortText (query : String) : String := String.ofList (cutAtBar query.toList).2

theorem DecodeTo.within {filter sort index size : String}
    (h : DecodeTo limits filter sort index size r) : r.filter.Within limits := by
  obtain ⟨f, fields, filter, sort, -, -, whole⟩ := h
  rw [whole]
  exact (decodeFilter_within filter).sortedBy (decodeSort_within sort)

theorem parse_within (h : parse limits query = .ok r) : r.filter.Within limits := by
  obtain ⟨f, filter, h⟩ := bind_ok_iff.mp h
  obtain ⟨sort, fields, h⟩ := bind_ok_iff.mp h
  obtain ⟨n, -, h⟩ := bind_ok_iff.mp h
  obtain ⟨m, -, h⟩ := bind_ok_iff.mp h
  cases h
  exact (decodeFilter_within filter).sortedBy (decodeSort_within fields)

theorem parseUnpaged_within {f : Filter} (h : parseUnpaged limits query = .ok f) :
    f.Within limits := by
  obtain ⟨g, filter, h⟩ := bind_ok_iff.mp h
  obtain ⟨sort, fields, h⟩ := bind_ok_iff.mp h
  cases h
  exact (decodeFilter_within filter).sortedBy (decodeSort_within fields)

/-- After a pair that is refused no further one is taken in. -/
theorem ofPairs_of_refused {p : String × String} {fault : QueryFault}
    (refused : ∀ s, PairsRead.take limits s p = .error fault) :
    ofPairs limits (before ++ p :: after) = ofPairs limits before >>= fun _ => .error fault := by
  have stops (s : PairsRead) : PairsRead.takeAll limits s (before ++ p :: after) =
      PairsRead.takeAll limits s before >>= fun _ => .error fault := by
    induction before generalizing s with
    | nil =>
      change (s.take limits p >>= fun s => PairsRead.takeAll limits s after) = .error fault
      rw [refused]
      rfl
    | cons q before ih =>
      change (s.take limits q >>= fun s => PairsRead.takeAll limits s (before ++ p :: after)) =
        (s.take limits q >>= fun s => PairsRead.takeAll limits s before) >>= fun _ => .error fault
      rw [bind_assoc]
      exact bind_congr fun s => ih s
  rw [ofPairs, stops, ofPairs, bind_assoc, bind_assoc]
  rfl

/-- Whatever is decoded keeps to the limits: a filter, a list of sort fields, and a request of
either kind of text or of pairs, also after sort fields have taken the place of others. A parameter
that is too long is refused, whatever its transport would be undone by and whatever it is a part of.
Only what comes before it is still decoded. -/
theorem decoded_within_limits (limits : Limits) :
    (∀ param f, decodeFilter limits param = .ok f → f.Within limits) ∧
    (∀ param sort, decodeSort limits param = .ok sort → sort.length ≤ limits.terms) ∧
    (∀ query r, parse limits query = .ok r → r.filter.Within limits) ∧
    (∀ query f, parseUnpaged limits query = .ok f → f.Within limits) ∧
    (∀ pairs r, ofPairs limits pairs = .ok r → r.filter.Within limits) ∧
    (∀ (α : Type) (read : Origin → Draft → Draft.Read α) name param,
      decode read limits name param = decodeBy (undo read name) limits name param) ∧
    ∀ param, limits.Oversized param →
      (∀ (α : Type) (undo : List Char → Answer α) name,
        decodeBy undo limits name param = .error (limits.tooLarge name)) ∧
      decodeFilter limits param = .error (limits.tooLarge "filter") ∧
      decodeSort limits param = .error (limits.tooLarge "sort") ∧
      (∀ query, filterText query = param →
        parse limits query = .error (limits.tooLarge "filter") ∧
        parseUnpaged limits query = .error (limits.tooLarge "filter")) ∧
      (∀ query, sortText query = param → parse limits query =
        decodeFilter limits (filterText query) >>= fun _ => .error (limits.tooLarge "sort")) ∧
      (∀ query, unpagedSortText query = param → parseUnpaged limits query =
        decodeFilter limits (filterText query) >>= fun _ => .error (limits.tooLarge "sort")) ∧
      ∀ before after,
        ofPairs limits (before ++ ("filter", param) :: after) =
          (ofPairs limits before >>= fun _ => .error (limits.tooLarge "filter")) ∧
        ofPairs limits (before ++ ("sort", param) :: after) =
          (ofPairs limits before >>= fun _ => .error (limits.tooLarge "sort")) := by
  refine ⟨fun _ _ => decodeFilter_within, fun _ _ => decodeSort_within, fun _ _ => parse_within,
    fun _ _ => parseUnpaged_within, fun _ _ h => (ofPairs_ok_iff.mp h).2.within,
    fun _ read _ _ => decode_eq_decodeBy read, ?_⟩
  intro param long
  have filter := decodeFilter_of_oversized long
  have sort := decodeSort_of_oversized long
  refine ⟨fun _ undo _ => decodeBy_of_oversized long undo, filter, sort, ?_, ?_, ?_, ?_⟩
  · rintro query rfl
    constructor
    · change (decodeFilter limits (filterText query) >>= _) = _
      rw [filter]
      rfl
    · change (decodeFilter limits (filterText query) >>= _) = _
      rw [filter]
      rfl
  · rintro query rfl
    change (decodeFilter limits (filterText query) >>= fun f =>
      decodeSort limits (sortText query) >>= _) = _
    rw [sort]
    rfl
  · rintro query rfl
    change (decodeFilter limits (filterText query) >>= fun f =>
      decodeSort limits (unpagedSortText query) >>= _) = _
    rw [sort]
    rfl
  · intro before after
    refine ⟨ofPairs_of_refused fun s => ?_, ofPairs_of_refused fun s => ?_⟩
    · rw [PairsRead.take, filter]
      rfl
    · rw [PairsRead.take, sort]
      rfl

open Request.Sample in
/-- Sort fields that are given twice keep to a limit of one field; a limit of eight octets refuses
them, and the page index after them is not looked at. -/
theorem decoded_within_limits_byAge :
    (∀ r, ofPairs ⟨64, 1⟩ (("sort", byAge) :: turned) = .ok r → r.filter.Within ⟨64, 1⟩) ∧
    (ofPairs ⟨64, 1⟩ (("sort", byAge) :: turned)).isOk = true ∧
    Limits.Oversized ⟨8, 1⟩ byAge ∧
    ofPairs ⟨8, 1⟩ ([("pageIndex", "1")] ++ ("sort", byAge) :: [("pageIndex", "x")]) =
      .error (.parameter "sort" (.tooLarge 8)) := by
  obtain ⟨-, -, -, -, within, -⟩ := decoded_within_limits ⟨64, 1⟩
  obtain ⟨-, -, -, -, -, -, refused⟩ := decoded_within_limits ⟨8, 1⟩
  have long : Limits.Oversized ⟨8, 1⟩ byAge := by
    unfold Limits.Oversized
    decide
  obtain ⟨-, -, -, -, -, -, pairs⟩ := refused byAge long
  refine ⟨within _, by decide +kernel, long, ?_⟩
  rw [(pairs [("pageIndex", "1")] [("pageIndex", "x")]).2]
  rfl

end Request

end FieldQuery

import FieldQuery.Proofs.Histories
import FieldQuery.Resolution.Sharing
import Mathlib.Data.List.Dedup

/-!
# A shared cache is filled once

However calls on a cache interleave, only one of them is alone with it at a time, and it has looked
again before it asks its source. So of the calls for one key at most one has the path found, every
answer is what is then remembered, and what is remembered stays. Main statement:
`shared_cache_fills_once`.
-/
namespace FieldQuery

variable {M : RecordModel} [DecidableEq M.Kind]

namespace ResolutionCache

variable {c : ResolutionCache M} {s : Source M} {path : String} {t : s.family.Target M}

/-- What is remembered under other keys stays when something is put in. -/
theorem findIn_insert {key : ResolutionKey M.Kind} {u : key.family.Target M}
    (unknown : c.find? s path = none) (known : findIn key c.entries = some u) :
    findIn key (c.insert s path t).entries = some u := by
  rw [insert_of_unknown unknown]
  have other : keyOf s path ≠ key := by
    rintro rfl
    cases unknown.symm.trans known
  rwa [findIn, dif_neg other]

end ResolutionCache

open ResolutionCache

/-- What a call takes for granted about the cache, or knows of its source. -/
def Caller.Fits (c : ResolutionCache M) : Caller M → Prop
  | asking _ _ | missed _ _ | entered _ _ => True
  | confirmed s path => c.find? s path = none
  | located s path answer => c.find? s path = none ∧ answer = s.locate path
  | answered s path answer _ => ∀ t, answer = .ok t → c.find? s path = some t

namespace SharedCache

variable {c d : SharedCache M} {i : Nat} {old new : Caller M}

/-- What holds of a shared cache at every moment. -/
structure Sound (c : SharedCache M) : Prop where
  solo : ∀ {i j : Nat} {v w : Caller M}, c.callers[i]? = some v → c.callers[j]? = some w →
    v.IsAlone → w.IsAlone → i = j
  fits : ∀ {i : Nat} {w : Caller M}, c.callers[i]? = some w → w.Fits c.cache
  once : ∀ {key : ResolutionKey M.Kind} {i j : Nat} {v w : Caller M}, c.callers[i]? = some v →
    c.callers[j]? = some w → v.Found key → w.Found key → i = j
  credited : ∀ e ∈ c.cache.entries, e.key ∈ c.answeredKeys
  distinct : (c.cache.entries.map (·.key)).Nodup

theorem Sound.start : Sound ({} : SharedCache M) where
  solo there := nomatch there
  fits there := nomatch there
  once there := nomatch there
  credited _ mem := nomatch mem
  distinct := List.nodup_nil

omit [DecidableEq M.Kind] in
theorem getElem?_concat_cases {l : List (Caller M)} {j : Nat} {w : Caller M}
    (there : (l ++ [new])[j]? = some w) : w = new ∨ l[j]? = some w := by
  rcases List.getElem?_eq_some_iff.mp there with ⟨inside, rfl⟩
  rw [List.getElem_append]
  split
  · rename_i early
    exact .inr (List.getElem?_eq_getElem early)
  · exact .inl (by simp)

omit [DecidableEq M.Kind] in
theorem getElem?_set_cases {l : List (Caller M)} {j : Nat} {w : Caller M}
    (there : (l.set i new)[j]? = some w) : j = i ∧ w = new ∨ j ≠ i ∧ l[j]? = some w := by
  by_cases same : j = i
  · subst same
    rw [List.getElem?_set_self'] at there
    obtain ⟨v, -, eq⟩ := Option.map_eq_some_iff.mp there
    exact .inl ⟨rfl, eq.symm⟩
  · rw [List.getElem?_set_ne (Ne.symm same)] at there
    exact .inr ⟨same, there⟩

omit [DecidableEq M.Kind] in
/-- Keys that have been answered stay so when a call without an answer goes on. -/
theorem answeredKeys_set {key : ResolutionKey M.Kind} (there : c.callers[i]? = some old)
    (open' : old.answeredKey? = none) (mem : key ∈ c.answeredKeys) :
    key ∈ (c.callers.set i new).filterMap (·.answeredKey?) := by
  obtain ⟨w, known, answered⟩ := List.mem_filterMap.mp mem
  obtain ⟨j, hj⟩ := List.mem_iff_getElem?.mp known
  have other : i ≠ j := by
    rintro rfl
    cases there.symm.trans hj
    cases open'.symm.trans answered
  refine List.mem_filterMap.mpr ⟨w, List.mem_of_getElem? (i := j) ?_, answered⟩
  rw [List.getElem?_set_ne other, hj]

/-- A new call changes nothing for the others. -/
theorem Sound.call (h : Sound c) (s : Source M) (path : String) :
    Sound { c with callers := c.callers ++ [.asking s path] } where
  solo {j k v w} hj hk hv hw := by
    rcases getElem?_concat_cases hj with rfl | hj
    · cases hv
    · rcases getElem?_concat_cases hk with rfl | hk
      · cases hw
      · exact h.solo hj hk hv hw
  fits {j w} hj := by
    rcases getElem?_concat_cases hj with rfl | hj
    · trivial
    · exact h.fits hj
  once {key j k v w} hj hk hv hw := by
    rcases getElem?_concat_cases hj with rfl | hj
    · cases hv
    · rcases getElem?_concat_cases hk with rfl | hk
      · cases hw
      · exact h.once hj hk hv hw
  credited e mem := by
    unfold answeredKeys
    rw [List.filterMap_append]
    exact List.mem_append_left _ (h.credited e mem)
  distinct := h.distinct

/-- A call goes on and leaves the cache as it is. -/
theorem Sound.turn (h : Sound c) (there : c.callers[i]? = some old)
    (waiting : old.answeredKey? = none) (alone : new.IsAlone → old.IsAlone ∨ c.Open)
    (fits : new.Fits c.cache)
    (first : ∀ key j w, new.Found key → c.callers[j]? = some w → w.Found key → j = i) :
    Sound { c with callers := c.callers.set i new } where
  solo {j k v w} hj hk hv hw := by
    -- whoever else is alone was so before, which leaves no room for the one that goes on
    have others {k : Nat} {w : Caller M} (hk : c.callers[k]? = some w) (hw : w.IsAlone)
        (hn : new.IsAlone) : i = k := by
      rcases alone hn with before | free
      · exact h.solo there hk before hw
      · exact absurd hw (free w (List.mem_of_getElem? hk))
    rcases getElem?_set_cases hj with ⟨rfl, rfl⟩ | ⟨-, before⟩
    · rcases getElem?_set_cases hk with ⟨rfl, -⟩ | ⟨-, before⟩
      · rfl
      · exact others before hw hv
    · rcases getElem?_set_cases hk with ⟨rfl, rfl⟩ | ⟨-, before'⟩
      · exact (others before hv hw).symm
      · exact h.solo before before' hv hw
  fits {j w} hj := by
    rcases getElem?_set_cases hj with ⟨-, rfl⟩ | ⟨-, hj⟩
    · exact fits
    · exact h.fits hj
  once {key j k v w} hj hk hv hw := by
    rcases getElem?_set_cases hj with ⟨rfl, rfl⟩ | ⟨-, before⟩
    · rcases getElem?_set_cases hk with ⟨rfl, -⟩ | ⟨-, before⟩
      · rfl
      · exact (first key k w hv before hw).symm
    · rcases getElem?_set_cases hk with ⟨rfl, rfl⟩ | ⟨-, before'⟩
      · exact first key j v hw before hv
      · exact h.once before before' hv hw
  credited e mem := answeredKeys_set there waiting (h.credited e mem)
  distinct := h.distinct

/-- A call that has looked again puts in what its source found. -/
theorem Sound.store (h : Sound c) {s : Source M} {path : String} {t : s.family.Target M}
    (located : c.callers[i]? = some (.located s path (.ok t))) :
    Sound
      { cache := c.cache.insert s path t
        callers := c.callers.set i (.answered s path (.ok t) true) } := by
  have unknown : c.cache.find? s path = none := (h.fits located).1
  have mine : keyOf s path ∈ (c.callers.set i (.answered s path (.ok t) true)).filterMap
      (·.answeredKey?) := by
    refine List.mem_filterMap.mpr ⟨_, List.mem_set ?_ _, rfl⟩
    exact (List.getElem?_eq_some_iff.mp located).1
  constructor
  · intro j k v w hj hk hv hw
    rcases getElem?_set_cases hj with ⟨-, rfl⟩ | ⟨-, hj⟩
    · cases hv
    · rcases getElem?_set_cases hk with ⟨-, rfl⟩ | ⟨-, hk⟩
      · cases hw
      · exact h.solo hj hk hv hw
  · intro j w hj
    rcases getElem?_set_cases hj with ⟨-, rfl⟩ | ⟨other, hj⟩
    · rintro _ ⟨⟩
      exact find?_insert_self c.cache s path t
    · have company : ¬ w.IsAlone := fun alone => other (h.solo hj located alone trivial)
      cases w with
      | asking | missed => trivial
      | entered | confirmed | located => exact absurd trivial company
      | answered s' path' answer asked =>
        exact fun u eq => findIn_insert unknown (h.fits hj u eq)
  · intro key j k v w hj hk hv hw
    -- the call found the path before, and others did not turn to anything else
    have before {j : Nat} {v : Caller M} (hv : v.Found key)
        (hj : (c.callers.set i (.answered s path (.ok t) true))[j]? = some v) :
        ∃ u, c.callers[j]? = some u ∧ u.Found key := by
      rcases getElem?_set_cases hj with ⟨rfl, rfl⟩ | ⟨-, hj⟩
      · exact ⟨_, located, hv.1, rfl⟩
      · exact ⟨v, hj, hv⟩
    obtain ⟨v', hj, hv⟩ := before hv hj
    obtain ⟨w', hk, hw⟩ := before hw hk
    exact h.once hj hk hv hw
  · rw [insert_of_unknown unknown]
    intro e mem
    rcases List.mem_cons.mp mem with rfl | mem
    · exact mine
    · exact answeredKeys_set located rfl (h.credited e mem)
  · rw [insert_of_unknown unknown, List.map_cons, List.nodup_cons]
    refine ⟨fun mem => ?_, h.distinct⟩
    obtain ⟨e, known, same⟩ := List.mem_map.mp mem
    exact findIn_eq_none_iff.mp unknown e known same

/-- A source is asked only for a key that is not there, so nobody else has had it found. -/
theorem Sound.unfound (h : Sound c) {s : Source M} {path : String}
    (confirmed : c.callers[i]? = some (.confirmed s path)) {j : Nat} {w : Caller M}
    (hj : c.callers[j]? = some w) : ¬ w.Found (keyOf s path) := by
  have unknown : c.cache.find? s path = none := h.fits confirmed
  intro found
  cases w with
  | located s' path' answer =>
    obtain rfl := h.solo hj confirmed trivial trivial
    cases hj.symm.trans confirmed
  | answered s' path' answer asked =>
    obtain ⟨key, good, -⟩ := found
    cases answer with
    | error fault => cases good
    | ok u =>
      have known : c.cache.find? s' path' = some u := h.fits hj u rfl
      have there := congrArg (fun key => (findIn key c.cache.entries).isSome) key
      change (c.cache.find? s' path').isSome = (c.cache.find? s path).isSome at there
      rw [known, unknown] at there
      cases there
  | _ => exact found

theorem Step.sound (step : Step c d) (h : Sound c) : Sound d := by
  cases step with
  | call s path => exact h.call s path
  | hit asking free known =>
    exact h.turn asking rfl nofun (fun _ eq => by cases eq; exact known) fun _ _ _ found =>
      nomatch found.2.2
  | miss asking free unknown => exact h.turn asking rfl nofun trivial nofun
  | enter missed free => exact h.turn missed rfl (fun _ => .inr free) trivial nofun
  | findAgain entered known =>
    exact h.turn entered rfl nofun (fun _ eq => by cases eq; exact known) fun _ _ _ found =>
      nomatch found.2.2
  | missAgain entered unknown => exact h.turn entered rfl (fun _ => .inl trivial) unknown nofun
  | @locate i s path confirmed =>
    refine h.turn confirmed rfl (fun _ => .inl trivial) ⟨h.fits confirmed, rfl⟩ ?_
    intro key j w found hj mine
    obtain ⟨rfl, -⟩ := found
    exact absurd mine (h.unfound confirmed hj)
  | store located => exact h.store located
  | fail located =>
    exact h.turn located rfl nofun nofun fun _ _ _ found => nomatch found.2.1

theorem Run.sound (run : Run c d) (h : Sound c) : Sound d := by
  induction run with
  | stay => exact h
  | step _ step ih => exact step.sound ih

/-- What is remembered stays as it is. -/
theorem Step.kept (step : Step c d) (h : Sound c) {key : ResolutionKey M.Kind}
    {t : key.family.Target M} (known : findIn key c.cache.entries = some t) :
    findIn key d.cache.entries = some t := by
  cases step with
  | store located => exact findIn_insert (h.fits located).1 known
  | _ => exact known

theorem Run.kept (run : Run c d) (h : Sound c) {key : ResolutionKey M.Kind}
    {t : key.family.Target M} (known : findIn key c.cache.entries = some t) :
    findIn key d.cache.entries = some t := by
  induction run with
  | stay => exact known
  | step before step ih => exact step.kept (before.sound h) ih

omit [DecidableEq M.Kind] in
theorem found_of_set {l : List (Caller M)} {j : Nat} {key : ResolutionKey M.Kind} {w : Caller M}
    (there : l[i]? = some old) (keeps : old.Found key → new.Found key) (hj : l[j]? = some w)
    (found : w.Found key) : ∃ w', (l.set i new)[j]? = some w' ∧ w'.Found key := by
  by_cases same : i = j
  · subst same
    cases there.symm.trans hj
    exact ⟨new, by rw [List.getElem?_set_self', hj]; rfl, keeps found⟩
  · exact ⟨w, by rw [List.getElem?_set_ne same, hj], found⟩

/-- Whoever had a path found is known to have done so ever after. -/
theorem Step.found (step : Step c d) {key : ResolutionKey M.Kind} {w : Caller M}
    (there : c.callers[i]? = some w) (found : w.Found key) :
    ∃ w', d.callers[i]? = some w' ∧ w'.Found key := by
  cases step with
  | call s path =>
    have inside := (List.getElem?_eq_some_iff.mp there).1
    exact ⟨w, (List.getElem?_append_left inside).trans there, found⟩
  | hit asking | miss asking | enter asking | findAgain asking | missAgain asking
  | locate asking => exact found_of_set asking False.elim there found
  | store located => exact found_of_set located (fun h => ⟨h.1, rfl, rfl⟩) there found
  | fail located => exact found_of_set located (fun h => nomatch h.2) there found

theorem Run.found (run : Run c d) {key : ResolutionKey M.Kind} {w : Caller M}
    (there : c.callers[i]? = some w) (found : w.Found key) :
    ∃ w', d.callers[i]? = some w' ∧ w'.Found key := by
  induction run with
  | stay => exact ⟨w, there, found⟩
  | step _ step ih =>
    obtain ⟨v, hv, found⟩ := ih
    exact step.found hv found

/-- No step of a call whose source fails changes what is remembered. -/
theorem Step.cache_of_failing (step : Step c d) (h : Sound c) {w : Caller M}
    (there : c.callers[i]? = some w) (moved : d.callers[i]? ≠ some w)
    (failing : (w.source.locate w.path).isOk = false) : d.cache = c.cache := by
  cases step with
  | @store j s path t located =>
    by_cases same : j = i
    · subst same
      cases there.symm.trans located
      have said : .ok t = s.locate path := (h.fits located).2
      change (s.locate path).isOk = false at failing
      rw [← said] at failing
      cases failing
    · exact absurd ((List.getElem?_set_ne same).trans there) moved
  | _ => rfl

/-- Just the keys that calls were answered for are remembered. -/
theorem Sound.mem_answeredKeys_iff (h : Sound c) (key : ResolutionKey M.Kind) :
    key ∈ c.answeredKeys ↔ key ∈ c.cache.entries.map (·.key) := by
  constructor
  · intro mem
    obtain ⟨w, known, answered⟩ := List.mem_filterMap.mp mem
    obtain ⟨i, there⟩ := List.mem_iff_getElem?.mp known
    cases w with
    | answered s path answer asked =>
      cases answer with
      | error fault => cases answered
      | ok t =>
        cases answered
        by_contra absent
        have unknown : findIn (keyOf s path) c.cache.entries = none :=
          findIn_eq_none_iff.mpr fun e mem same => absent (List.mem_map.mpr ⟨e, mem, same⟩)
        cases (h.fits there t rfl).symm.trans unknown
    | _ => cases answered
  · intro mem
    obtain ⟨e, known, rfl⟩ := List.mem_map.mp mem
    exact h.credited e known

theorem Sound.size_eq (h : Sound c) : c.cache.size = c.answeredKeys.dedup.length := by
  have same : (c.cache.entries.map (·.key)).Perm c.answeredKeys.dedup := by
    refine (List.perm_ext_iff_of_nodup h.distinct (List.nodup_dedup _)).mpr fun key => ?_
    rw [List.mem_dedup, h.mem_answeredKeys_iff]
  rw [← same.length_eq, List.length_map]
  rfl

/-- Whatever calls share a cache from the start, and however they interleave: of the calls for one
key at most one ever has its source find the path; a path that is answered for is remembered with
just that answer; what is remembered stays; a call whose source fails changes nothing; and as many
paths are remembered as different keys have been answered for. -/
theorem shared_cache_fills_once (reached : Reachable c) :
    (∀ (key : ResolutionKey M.Kind) (i j : Nat) (v w : Caller M), c.callers[i]? = some v →
      c.callers[j]? = some w → v.Found key → w.Found key → i = j) ∧
    (∀ s path t asked, .answered s path (.ok t) asked ∈ c.callers →
      c.cache.find? s path = some t) ∧
    (∀ d, Run c d →
      (∀ key t, findIn key c.cache.entries = some t → findIn key d.cache.entries = some t) ∧
      ∀ (key : ResolutionKey M.Kind) (i : Nat) (w : Caller M), c.callers[i]? = some w →
        w.Found key → ∃ w' : Caller M, d.callers[i]? = some w' ∧ w'.Found key) ∧
    (∀ (d : SharedCache M) (i : Nat) (w : Caller M), Step c d → c.callers[i]? = some w →
      d.callers[i]? ≠ some w → (w.source.locate w.path).isOk = false → d.cache = c.cache) ∧
    c.cache.size = c.answeredKeys.dedup.length := by
  have h : Sound c := Run.sound reached .start
  refine ⟨fun _ _ _ _ _ => h.once, ?_, ?_, ?_, h.size_eq⟩
  · intro s path t asked mem
    obtain ⟨i, there⟩ := List.mem_iff_getElem?.mp mem
    exact h.fits there t rfl
  · exact fun d run => ⟨fun _ _ => run.kept h, fun _ _ _ => run.found⟩
  · exact fun d i w step => step.cache_of_failing h

end SharedCache

namespace Sample

open SharedCache

def ids : Source shelf := .table plainUsers

def idColumn : ResolvedColumn := ⟨⟨"users", "id"⟩, [], .integer, false⟩

/-- Two calls miss the same path; the second one is alone with the cache first and puts it in, so
that the first one finds it after all. A third call leads nowhere. -/
def afterRace : SharedCache shelf where
  cache := ⟨[⟨keyOf ids "id", idColumn⟩]⟩
  callers := [.answered ids "id" (.ok idColumn) false, .answered ids "id" (.ok idColumn) true,
    .answered ids "name" (.error (.unknownField "name" "users")) true]

theorem reachable_afterRace : Reachable afterRace := by
  have r : Reachable (M := shelf) {} := .stay
  have r := r.step (.call ids "id")
  have r := r.step (.call ids "id")
  have r := r.step (.call ids "name")
  have r := r.step (.miss (i := 0) rfl (by simp [Open, Caller.IsAlone]) rfl)
  have r := r.step (.miss (i := 1) rfl (by simp [Open, Caller.IsAlone]) rfl)
  have r := r.step (.enter (i := 1) rfl (by simp [Open, Caller.IsAlone]))
  have r := r.step (.missAgain (i := 1) rfl rfl)
  have r := r.step (.locate (i := 1) rfl)
  have r := r.step (.store (i := 1) (s := ids) (t := idColumn) rfl)
  have r := r.step (.enter (i := 0) rfl (by simp [Open, Caller.IsAlone]))
  have r := r.step (.findAgain (i := 0) (s := ids) (t := idColumn) rfl rfl)
  have r := r.step (.miss (i := 2) rfl (by simp [Open, Caller.IsAlone]) rfl)
  have r := r.step (.enter (i := 2) rfl (by simp [Open, Caller.IsAlone]))
  have r := r.step (.missAgain (i := 2) rfl rfl)
  have r := r.step (.locate (i := 2) rfl)
  have r := r.step (.fail (i := 2) rfl)
  exact r

end Sample

open Sample in
theorem shared_cache_fills_once_race :
    SharedCache.Reachable afterRace ∧ afterRace.cache.find? ids "id" = some idColumn ∧
      afterRace.cache.size = afterRace.answeredKeys.dedup.length ∧
      afterRace.answeredKeys = [keyOf ids "id", keyOf ids "id"] := by
  have all := SharedCache.shared_cache_fills_once reachable_afterRace
  exact ⟨reachable_afterRace, all.2.1 ids "id" idColumn true (by simp [afterRace]),
    all.2.2.2.2, rfl⟩

end FieldQuery

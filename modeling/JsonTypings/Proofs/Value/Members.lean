import JsonTypings.Value
import Mathlib.Data.List.Basic
import Mathlib.Data.List.Induction

/-! Members made of pairs in which keys may be repeated: a key stands where it came first, with the
value that came last. Adding the pairs one after the other comes to the same. -/
namespace JsonTypings.Members

/-- The last pair of a key. -/
def last? (pairs : List (Text × Value)) (key : Text) : Option (Text × Value) :=
  pairs.reverse.find? fun p => p.1 = key

/-- The members that some pairs leave. -/
def ofPairs (pairs : List (Text × Value)) : Members :=
  (pairs.map Prod.fst).eraseDups.filterMap (last? pairs)

theorem last?_concat (pairs : List (Text × Value)) (k : Text) (v : Value) (key : Text) :
    last? (pairs ++ [(k, v)]) key = if k = key then some (k, v) else last? pairs key := by
  by_cases h : k = key <;> simp [last?, h]

theorem fst_of_last? {pairs : List (Text × Value)} {key : Text} {p : Text × Value}
    (h : last? pairs key = some p) : p.1 = key := by
  simpa using List.find?_some h

theorem exists_last? {pairs : List (Text × Value)} {key : Text} (h : key ∈ pairs.map Prod.fst) :
    ∃ v, last? pairs key = some (key, v) := by
  obtain ⟨p, hp, rfl⟩ := List.mem_map.mp h
  have hsome : (last? pairs p.1).isSome := by
    rw [last?, List.find?_isSome]
    exact ⟨p, List.mem_reverse.mpr hp, by simp⟩
  obtain ⟨⟨k, v⟩, hlast⟩ := Option.isSome_iff_exists.mp hsome
  obtain rfl : k = p.1 := fst_of_last? hlast
  exact ⟨v, hlast⟩

/-- The keys that stand in a list, each with its last pair. -/
theorem map_fst_filterMap_last? {pairs : List (Text × Value)} {keys : List Text}
    (h : ∀ key ∈ keys, key ∈ pairs.map Prod.fst) :
    (keys.filterMap (last? pairs)).map Prod.fst = keys := by
  induction keys with
  | nil => rfl
  | cons key rest ih =>
    obtain ⟨v, hv⟩ := exists_last? (h key List.mem_cons_self)
    simp [hv, ih fun k hk => h k (List.mem_cons_of_mem _ hk)]

/-- Each key stands where it came first. -/
@[simp] theorem keys_ofPairs (pairs : List (Text × Value)) :
    (ofPairs pairs).keys = (pairs.map Prod.fst).eraseDups :=
  map_fst_filterMap_last? fun _ h => List.mem_eraseDups.mp h

theorem insert_of_not_mem {ms : Members} {key : Text} (h : key ∉ ms.keys) (v : Value) :
    ms.insert key v = ms ++ [(key, v)] := by
  induction ms with
  | nil => rfl
  | cons m rest ih =>
    obtain ⟨k, w⟩ := m
    simp only [keys, List.map_cons, List.mem_cons, not_or] at h
    simp [insert, Ne.symm h.1, ih h.2]

theorem length_insert_of_not_mem {ms : Members} {key : Text} (h : key ∉ ms.keys) (v : Value) :
    (ms.insert key v).length = ms.length + 1 := by
  rw [insert_of_not_mem h, List.length_append, List.length_singleton]

/-- A key that is there takes the new value in its place. -/
theorem insert_filterMap {f : Text → Option (Text × Value)} (hf : ∀ k p, f k = some p → p.1 = k)
    {keys : List Text} (hnodup : keys.Nodup) {key : Text} (hmem : key ∈ keys)
    (hkey : (f key).isSome) (v : Value) :
    Members.insert (keys.filterMap f) key v =
      keys.filterMap fun k => if key = k then some (key, v) else f k := by
  induction keys with
  | nil => cases hmem
  | cons k rest ih =>
    rw [List.nodup_cons] at hnodup
    by_cases h : key = k
    · subst h
      obtain ⟨⟨k, w⟩, hp⟩ := Option.isSome_iff_exists.mp hkey
      obtain rfl : k = key := hf key _ hp
      have hrest : (rest.filterMap fun j => if k = j then some (k, v) else f j) = rest.filterMap f := by
        apply List.filterMap_congr
        intro j hj
        rw [if_neg]
        rintro rfl
        exact hnodup.1 hj
      simp [hp, insert, hrest]
    · have hmem' : key ∈ rest := (List.mem_cons.mp hmem).resolve_left h
      have hih := ih hnodup.2 hmem'
      cases hp : f k with
      | none => simp [hp, h, hih]
      | some p =>
        obtain ⟨j, w⟩ := p
        obtain rfl : j = k := hf k _ hp
        simp [hp, h, insert, Ne.symm h, hih]

theorem nodup_eraseDups (keys : List Text) : keys.eraseDups.Nodup := by
  induction h : keys.length using Nat.strongRecOn generalizing keys with
  | ind n ih =>
    cases keys with
    | nil => simp
    | cons key rest =>
      rw [List.eraseDups_cons, List.nodup_cons]
      have hlength := List.length_filter_le (fun k => !k == key) rest
      refine ⟨by simp, ih _ ?_ _ rfl⟩
      rw [← h, List.length_cons]
      exact Nat.lt_succ_of_le hlength

/-- One more pair is added like a member. -/
theorem ofPairs_concat (pairs : List (Text × Value)) (key : Text) (v : Value) :
    ofPairs (pairs ++ [(key, v)]) = (ofPairs pairs).insert key v := by
  have hlast : (fun k => last? (pairs ++ [(key, v)]) k) =
      fun k => if key = k then some (key, v) else last? pairs k :=
    funext fun k => last?_concat pairs key v k
  have hkeys : ((pairs ++ [(key, v)]).map Prod.fst).eraseDups =
      (pairs.map Prod.fst).eraseDups ++ if key ∈ pairs.map Prod.fst then [] else [key] := by
    rw [List.map_append, List.eraseDups_append]
    by_cases h : key ∈ pairs.map Prod.fst <;> simp [List.removeAll, List.eraseDups_cons, h]
  by_cases h : key ∈ pairs.map Prod.fst
  · obtain ⟨w, hw⟩ := exists_last? h
    have hinsert := insert_filterMap (fun _ _ hp => fst_of_last? hp) (nodup_eraseDups _)
      (List.mem_eraseDups.mpr h) (by rw [hw]; rfl) v
    rw [ofPairs, ofPairs, hinsert, hkeys, if_pos h, List.append_nil, ← hlast]
  · have hnew : key ∉ (ofPairs pairs).keys := by
      rw [keys_ofPairs, List.mem_eraseDups]
      exact h
    have hold : ((pairs.map Prod.fst).eraseDups.filterMap fun k =>
        if key = k then some (key, v) else last? pairs k) =
        ofPairs pairs := by
      apply List.filterMap_congr
      intro k hk
      rw [if_neg]
      rintro rfl
      exact h (List.mem_eraseDups.mp hk)
    rw [insert_of_not_mem hnew, ← hold, ofPairs, hkeys, if_neg h, List.filterMap_append,
      ← hlast]
    simp [hlast]

/-- Pairs of different keys are members as they are. -/
theorem ofPairs_eq_self {ms : Members} (h : ms.keys.Nodup) : ofPairs ms = ms := by
  induction ms using List.reverseRecOn with
  | nil => rfl
  | append_singleton ms m ih =>
    obtain ⟨key, v⟩ := m
    rw [keys, List.map_append, List.nodup_append] at h
    have hms := ih h.1
    have hnew : key ∉ (ofPairs ms).keys := by
      intro hmem
      rw [hms] at hmem
      exact h.2.2 key hmem key (by simp) rfl
    rw [ofPairs_concat, insert_of_not_mem hnew, hms]

end JsonTypings.Members

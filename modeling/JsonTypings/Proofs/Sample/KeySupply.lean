import JsonTypings.Proofs.Random.Unfailing
import JsonTypings.Proofs.Sample.Closed
import JsonTypings.Proofs.Sample.Document
import JsonTypings.Proofs.Sample.KeyReading
import Mathlib.Data.List.ProdSigma
import Mathlib.Data.Nat.Factorial.Basic
import Mathlib.Data.Set.Card

/-! How many keys there are for an object. Each takes up one, so a sample document is never wider than
their number: when all are taken, the search for another key never ends. -/
namespace JsonTypings.Sample

open Draw

section Selections

variable {α : Type} [DecidableEq α]

/-- The ways to take `k` elements of a list one after the other. -/
def selections (pool : List α) : (k : ℕ) → List (List α)
  | 0 => [[]]
  | k + 1 => pool.flatMap fun a => (selections (pool.erase a) k).map (a :: ·)

theorem mem_selections {pool : List α} (hpool : pool.Nodup) {k : ℕ} {l : List α} :
    l ∈ selections pool k ↔ l ⊆ pool ∧ l.Nodup ∧ l.length = k := by
  induction k generalizing pool l with
  | zero =>
    rw [selections, List.mem_singleton]
    constructor
    · rintro rfl
      simp
    · rintro ⟨-, -, hlength⟩
      exact List.eq_nil_of_length_eq_zero hlength
  | succ k ih =>
    rw [selections, List.mem_flatMap]
    constructor
    · rintro ⟨a, ha, hl⟩
      obtain ⟨rest, hrest, rfl⟩ := List.mem_map.mp hl
      obtain ⟨hsubset, hnodup, hlength⟩ := (ih (hpool.erase a)).mp hrest
      refine ⟨?_, ?_, by rw [List.length_cons, hlength]⟩
      · exact List.cons_subset.mpr ⟨ha, fun b hb => List.mem_of_mem_erase (hsubset hb)⟩
      · rw [List.nodup_cons]
        exact ⟨fun hmem => (hpool.mem_erase_iff.mp (hsubset hmem)).1 rfl, hnodup⟩
    · rintro ⟨hsubset, hnodup, hlength⟩
      cases l with
      | nil => cases hlength
      | cons a rest =>
        rw [List.cons_subset] at hsubset
        rw [List.nodup_cons] at hnodup
        refine ⟨a, hsubset.1, List.mem_map_of_mem ((ih (hpool.erase a)).mpr ⟨?_, hnodup.2, ?_⟩)⟩
        · intro b hb
          refine hpool.mem_erase_iff.mpr ⟨?_, hsubset.2 hb⟩
          rintro rfl
          exact hnodup.1 hb
        · rw [List.length_cons] at hlength
          omega

theorem length_of_mem_selections {pool : List α} (hpool : pool.Nodup) {k : ℕ} {l : List α}
    (h : l ∈ selections pool k) : l.length = k := ((mem_selections hpool).mp h).2.2

theorem length_selections (pool : List α) (k : ℕ) :
    (selections pool k).length = pool.length.descFactorial k := by
  induction k generalizing pool with
  | zero => rfl
  | succ k ih =>
    have hsame : ∀ a ∈ pool, ((selections (pool.erase a) k).map (a :: ·)).length =
        (pool.length - 1).descFactorial k := by
      intro a ha
      rw [List.length_map, ih, List.length_erase_of_mem ha]
    rw [selections, List.length_flatMap, List.map_congr_left hsame, List.map_const', List.sum_replicate_nat]
    cases pool with
    | nil => simp
    | cons a rest => rw [List.length_cons, Nat.add_sub_cancel, Nat.succ_descFactorial_succ]

theorem nodup_selections {pool : List α} (hpool : pool.Nodup) (k : ℕ) : (selections pool k).Nodup := by
  induction k generalizing pool with
  | zero => exact List.nodup_singleton _
  | succ k ih =>
    rw [selections, List.nodup_flatMap]
    constructor
    · intro a ha
      exact (ih (hpool.erase a)).map (List.cons_injective)
    · refine hpool.imp fun {a b} hab => ?_
      intro l ha hb
      obtain ⟨rest, -, rfl⟩ := List.mem_map.mp ha
      obtain ⟨other, -, hother⟩ := List.mem_map.mp hb
      exact hab (List.cons.inj hother).1.symm

end Selections

/-! The number of keys -/

/-- What keys can be read as: a single word, or two or three words in some style. -/
def readings : List (KeyStyle × List Text) :=
  ((selections keyWords 1).map fun words => (.camel, words)) ++
    [.kebab, .snake, .camel] ×ˢ (selections keyWords 2 ++ selections keyWords 3)

theorem mem_selections_keyWords {words : List Text} {k : ℕ} (hpos : 1 ≤ k) (hle : k ≤ 3) :
    words ∈ selections keyWords k ↔ IsKeyWords words ∧ words.length = k := by
  rw [mem_selections nodup_keyWords]
  constructor
  · rintro ⟨hsubset, hnodup, rfl⟩
    exact ⟨⟨hsubset, hnodup, hpos, hle⟩, rfl⟩
  · rintro ⟨hwords, hlength⟩
    exact ⟨hwords.subset, hwords.nodup, hlength⟩

theorem mem_readings {style : KeyStyle} {words : List Text} :
    (style, words) ∈ readings ↔ IsKeyWords words ∧ (style = .camel ∨ 1 < words.length) := by
  rw [readings, List.mem_append, List.mem_map, List.mem_product, List.mem_append]
  constructor
  · rintro (⟨single, hsingle, heq⟩ | ⟨-, htwo | hthree⟩)
    · cases heq
      obtain ⟨hwords, -⟩ := (mem_selections_keyWords (by decide) (by decide)).mp hsingle
      exact ⟨hwords, .inl rfl⟩
    · obtain ⟨hwords, hlength⟩ := (mem_selections_keyWords (by decide) (by decide)).mp htwo
      exact ⟨hwords, .inr (by omega)⟩
    · obtain ⟨hwords, hlength⟩ := (mem_selections_keyWords (by decide) (by decide)).mp hthree
      exact ⟨hwords, .inr (by omega)⟩
  · rintro ⟨hwords, hstyle⟩
    have hpos := hwords.length_pos
    have hle := hwords.length_le
    have hmem : words ∈ selections keyWords words.length :=
      (mem_selections_keyWords hpos hle).mpr ⟨hwords, rfl⟩
    by_cases hmore : 1 < words.length
    · refine .inr ⟨by cases style <;> simp, ?_⟩
      obtain htwo | hthree : words.length = 2 ∨ words.length = 3 := by omega
      · exact .inl (htwo ▸ hmem)
      · exact .inr (hthree ▸ hmem)
    · have hone : words.length = 1 := by omega
      exact .inl ⟨words, hone ▸ hmem, by rw [hstyle.resolve_right hmore]⟩

/-- There are 12 words, 132 pairs of words, and 1320 times three words. -/
theorem length_readings : readings.length = 4368 := by
  rw [readings, List.length_append, List.length_map, List.length_product, List.length_append,
    length_selections, length_selections, length_selections]
  decide

theorem nodup_readings : readings.Nodup := by
  have hstyles : [KeyStyle.kebab, .snake, .camel].Nodup := by decide
  have hsingle : (selections keyWords 1).Nodup := nodup_selections nodup_keyWords 1
  have hmore : (selections keyWords 2 ++ selections keyWords 3).Nodup := by
    refine (nodup_selections nodup_keyWords 2).append (nodup_selections nodup_keyWords 3) ?_
    intro words htwo hthree
    have htwo := length_of_mem_selections nodup_keyWords htwo
    have hthree := length_of_mem_selections nodup_keyWords hthree
    omega
  refine (hsingle.map fun _ _ h => (Prod.mk.inj h).2).append (hstyles.product hmore) ?_
  rintro ⟨style, words⟩ hone hseveral
  obtain ⟨single, hsingle, heq⟩ := List.mem_map.mp hone
  cases heq
  have hone := length_of_mem_selections nodup_keyWords hsingle
  obtain hmem | hmem := List.mem_append.mp (List.mem_product.mp hseveral).2
  · have htwo := length_of_mem_selections nodup_keyWords hmem
    omega
  · have hthree := length_of_mem_selections nodup_keyWords hmem
    omega

/-- All keys. -/
def sampleKeys : List Text := readings.map fun r => r.1.join r.2

theorem mem_sampleKeys {key : Text} : key ∈ sampleKeys ↔ IsSampleKey key := by
  rw [sampleKeys, List.mem_map]
  constructor
  · rintro ⟨⟨style, words⟩, hreading, rfl⟩
    exact ⟨style, words, (mem_readings.mp hreading).1, rfl⟩
  · rintro ⟨style, words, hwords, rfl⟩
    obtain ⟨shown, hshown, hjoin⟩ := hwords.exists_style style
    exact ⟨(shown, words), mem_readings.mpr ⟨hwords, hshown⟩, hjoin.symm⟩

/-- A key has one reading, as the words and the style come back from it. -/
theorem nodup_sampleKeys : sampleKeys.Nodup := by
  refine nodup_readings.map_on ?_
  rintro ⟨style, words⟩ hreading ⟨style', words'⟩ hreading' hjoin
  obtain ⟨hwords, hstyle⟩ := mem_readings.mp hreading
  obtain ⟨hwords', hstyle'⟩ := mem_readings.mp hreading'
  have hsame : words = words' := by
    rw [← hwords.wordsOf_join style, ← hwords'.wordsOf_join style']
    exact congrArg wordsOf hjoin
  have hsameStyle : style = style' := by
    rw [← hwords.ofKey_join hstyle, ← hwords'.ofKey_join hstyle']
    exact congrArg KeyStyle.ofKey hjoin
  rw [hsame, hsameStyle]

theorem length_sampleKeys : sampleKeys.length = 4368 := by
  rw [sampleKeys, List.length_map, length_readings]

theorem ncard_isSampleKey : {key | IsSampleKey key}.ncard = 4368 := by
  have hset : {key | IsSampleKey key} = (sampleKeys.toFinset : Set Text) := by
    ext key
    rw [Set.mem_ofPred_eq, Finset.mem_coe, List.mem_toFinset, mem_sampleKeys]
  rw [hset, Set.ncard_coe_finset, List.toFinset_card_of_nodup nodup_sampleKeys, length_sampleKeys]

/-! The end of the supply -/

section Supply

variable {P : Value → Prop} {members : Members} (h : Filled P members)

include h

theorem Filled.keys_subperm : members.keys.Subperm sampleKeys :=
  List.subperm_of_subset h.nodup fun key hkey => mem_sampleKeys.mpr (h.keys key hkey)

/-- Each field takes up a key. -/
theorem Filled.length_le : members.length ≤ 4368 := by
  have hle := h.keys_subperm.length_le
  rwa [length_sampleKeys, Members.keys, List.length_map] at hle

theorem Filled.mem_keys (hfull : 4368 ≤ members.length) {key : Text} (hkey : IsSampleKey key) :
    key ∈ members.keys := by
  have hperm : members.keys.Perm sampleKeys := by
    apply h.keys_subperm.perm_of_length_le
    rwa [length_sampleKeys, Members.keys, List.length_map]
  exact hperm.mem_iff.mpr (mem_sampleKeys.mpr hkey)

end Supply

/-- Where all keys are taken, the search for another one never ends. -/
theorem endless_newKey {taken : List Text} (h : ∀ key, IsSampleKey key → key ∈ taken) (t : Twister) :
    Endless (newKey taken) t := by
  refine (closed_newKey closed_unfailing taken).endless fun key hkey => ?_
  obtain ⟨hnew, hsample⟩ := (always_newKey taken).of_gives hkey
  exact hnew (h key hsample)

/-- What the loops over the fields leave, whatever the values are. -/
theorem filled_of_gives {value : Draw Value} {n : ℕ} {t : Twister} {members : Members}
    (h : Gives (fields value [] n) t members ∨ Gives (primitiveFields [] n) t members) :
    Filled (fun _ => True) members ∧ members.length = n := by
  rcases h with h | h
  · obtain ⟨hfilled, hlength⟩ := (always_fields (always_true value) n (filled_nil _)).of_gives h
    exact ⟨hfilled, by rw [hlength, List.length_nil, Nat.zero_add]⟩
  · obtain ⟨hfilled, hlength⟩ :=
      (always_primitiveFields (always_true primitive) n (filled_nil _)).of_gives h
    exact ⟨hfilled, by rw [hlength, List.length_nil, Nat.zero_add]⟩

/-- No document is wider than the number of keys. -/
theorem width_le_of_gives (depth : Int) {width : Int} {t : Twister} {members : Members}
    (h : Gives (document depth width) t members ∨ Gives (primitiveDocument width) t members) :
    width ≤ 4368 := by
  obtain ⟨hfilled, hlength⟩ := filled_of_gives h
  have hle := hfilled.length_le
  omega

/-- The keys of sample documents and their number. A new key is not taken, and it is one to three different
words in some style; the words come back from it, and so does the style of more than one word. So there are
4368 keys. Once an object has a field for each, the search for another key never ends, and therefore no
wider document is ever drawn. -/
theorem key_supply :
    (∀ (members : Members) t key, Gives (newKey members.keys) t key →
      key ∉ members.keys ∧ IsSampleKey key) ∧
    (∀ (style : KeyStyle) words, IsKeyWords words → wordsOf (style.join words) = words ∧
      (1 < words.length → KeyStyle.ofKey (style.join words) = style)) ∧
    {key | IsSampleKey key}.ncard = 4368 ∧
    (∀ value members t, Gives (fields value [] 4368) t members ∨ Gives (primitiveFields [] 4368) t members →
      ∀ t', Endless (newKey members.keys) t') ∧
    ∀ depth width t,
      (∀ members, Gives (document depth width) t members ∨ Gives (primitiveDocument width) t members →
        width ≤ 4368) ∧
      (4368 < width → Endless (document depth width) t ∧ Endless (primitiveDocument width) t) := by
  refine ⟨?_, ?_, ncard_isSampleKey, ?_, ?_⟩
  · intro members t key h
    exact (always_newKey members.keys).of_gives h
  · intro style words hwords
    exact ⟨hwords.wordsOf_join style, fun hmore => hwords.ofKey_join (.inr hmore)⟩
  · intro value members t h t'
    obtain ⟨hfilled, hlength⟩ := filled_of_gives h
    exact endless_newKey (fun key hkey => hfilled.mem_keys hlength.ge hkey) t'
  · intro depth width t
    refine ⟨fun members h => width_le_of_gives depth h, fun hwide => ⟨?_, ?_⟩⟩
    · refine (closed_document closed_unfailing depth width).endless fun members h => ?_
      exact absurd (width_le_of_gives depth (.inl h)) (by omega)
    · refine (closed_primitiveDocument closed_unfailing width).endless fun members h => ?_
      exact absurd (width_le_of_gives depth (.inr h)) (by omega)

/-- A block whose first words draw two words for a key in kebab case, and then one word. -/
def secondTryState : Twister := .ofBlock (1275170866 :: List.replicate 623 0 : List UInt32).toArray

/-- The first key is taken, so another one is drawn. -/
theorem key_supply_second_try :
    (newKey (Members.keys [(Text.ofString "user-address", .null)]) 2 secondTryState).1 =
        .ok (Text.ofString "user") ∧
      Text.ofString "user" ∉ Members.keys [(Text.ofString "user-address", .null)] ∧
      IsSampleKey (Text.ofString "user") := by
  have hkey : (newKey (Members.keys [(Text.ofString "user-address", .null)]) 2 secondTryState).1 =
      .ok (Text.ofString "user") := by decide +kernel
  exact ⟨hkey, key_supply.1 _ secondTryState _ ⟨2, hkey⟩⟩

end JsonTypings.Sample

import JsonTypings.Random.Twister
import Mathlib.Data.List.Basic
import Mathlib.Data.List.GetD

/-! The first block of a seed as lists. Seeding and twisting go over the words in order and look only at
words nearby, so each pass over a block is one recursion along a list. -/
namespace JsonTypings.Twister

variable {ws : Array UInt32} (pre : List UInt32) {post : List UInt32} {a : UInt32} {i : ℕ}

theorem getD_of_toList (post : List UInt32) (h : ws.toList = pre ++ a :: post) (hi : i = pre.length) :
    ws.getD i 0 = a := by
  subst hi
  rw [Array.getD_eq_getD_getElem?, ← Array.getElem?_toList, h, List.getElem?_append_right (Nat.le_refl _),
    Nat.sub_self]
  rfl

theorem toList_set_of_toList (h : ws.toList = pre ++ a :: post) (hi : i = pre.length) (b : UInt32) :
    (ws.setIfInBounds i b).toList = pre ++ b :: post := by
  subst hi
  rw [Array.toList_setIfInBounds, h, List.set_append_right _ _ (Nat.le_refl _), Nat.sub_self]
  rfl

/-! Seeding -/

/-- The words that a word spreads to, each made from the one before. The first has the index `i`. -/
def spreadFrom (i : ℕ) (last : UInt32) : (n : ℕ) → List UInt32
  | 0 => []
  | n + 1 =>
    let w := (1812433253 : UInt32) * (last ^^^ (last >>> 30)) + UInt32.ofNat i
    w :: spreadFrom (i + 1) w n

theorem toList_ofWord (seed : UInt32) : (ofWord seed).toList = seed :: spreadFrom 1 seed (size - 1) := by
  have hgo (n : ℕ) : ∀ (i : ℕ) (pre : List UInt32) (last : UInt32) (ws : Array UInt32),
      ws.toList = pre ++ [last] → i = pre.length →
      ((List.range' i n).foldl
        (fun (ws : Array UInt32) i =>
          let last := ws.getD i 0
          ws.push ((1812433253 : UInt32) * (last ^^^ (last >>> 30)) + UInt32.ofNat (i + 1))) ws).toList =
        pre ++ last :: spreadFrom (i + 1) last n := by
    induction n with
    | zero =>
      intro i pre last ws hws _
      exact hws
    | succ n ih =>
      intro i pre last ws hws hi
      have hlast : ws.getD i 0 = last := getD_of_toList pre _ hws hi
      rw [List.range'_succ, List.foldl_cons]
      simp only [hlast]
      rw [ih (i + 1) (pre ++ [last]) _ _ (by rw [Array.toList_push, hws]) (by simp [hi]), spreadFrom]
      simp
  rw [ofWord, List.range_eq_range']
  exact hgo (size - 1) 0 [] seed #[seed] rfl rfl

/-- Mixes into each word, the first of which has the index `i`, the one before it. -/
def sweep (f : ℕ → UInt32 → UInt32 → UInt32) (i : ℕ) (previous : UInt32) : List UInt32 → List UInt32
  | [] => []
  | w :: rest =>
    let mixed := f i w (previous ^^^ (previous >>> 30))
    mixed :: sweep f (i + 1) mixed rest

variable {f : UInt32 → UInt32 → UInt32} {previous w : UInt32}

theorem toList_mix (h : ws.toList = pre ++ previous :: w :: post) (hi : i = pre.length + 1)
    (hlast : i ≠ size - 1) :
    (mix f ws i).toList = pre ++ previous :: f w (previous ^^^ (previous >>> 30)) :: post := by
  have hprevious : ws.getD (i - 1) 0 = previous := getD_of_toList pre _ h (by omega)
  have hsplit : ws.toList = (pre ++ [previous]) ++ w :: post := by simp [h]
  have hindex : i = (pre ++ [previous]).length := by simp [hi]
  have hset := toList_set_of_toList (pre ++ [previous]) hsplit hindex (f w (previous ^^^ (previous >>> 30)))
  rw [mix, hprevious, getD_of_toList _ _ hsplit hindex, if_neg hlast, hset]
  simp

/-- The last word also takes the place of the first. -/
theorem toList_mix_last (h : ws.toList = pre ++ [previous, w]) (hlast : pre.length + 1 = size - 1) :
    (mix f ws (size - 1)).toList = (pre ++ [previous, f w (previous ^^^ (previous >>> 30))]).set 0
      (f w (previous ^^^ (previous >>> 30))) := by
  have hprevious : ws.getD (size - 1 - 1) 0 = previous := getD_of_toList pre _ h (by omega)
  have hsplit : ws.toList = (pre ++ [previous]) ++ [w] := by simp [h]
  have hindex : size - 1 = (pre ++ [previous]).length := by simp [hlast]
  have hset := toList_set_of_toList (pre ++ [previous]) hsplit hindex (f w (previous ^^^ (previous >>> 30)))
  rw [mix, hprevious, getD_of_toList _ _ hsplit hindex, if_pos rfl, Array.toList_setIfInBounds, hset,
    getD_of_toList _ _ hset hindex]
  simp

/-- A lap to the end of the block sweeps over the words that are left. -/
theorem toList_lap (F : ℕ → UInt32 → UInt32 → UInt32) {words : List UInt32} (hne : words ≠ []) :
    ∀ {i : ℕ} (pre : List UInt32) {previous : UInt32} {ws : Array UInt32},
      ws.toList = pre ++ previous :: words → i = pre.length + 1 → i + words.length = size →
      ((List.range' i words.length).foldl (fun ws i => mix (F i) ws i) ws).toList =
        (pre ++ previous :: sweep F i previous words).set 0 ((sweep F i previous words).getLastD 0) := by
  induction words with
  | nil => exact absurd rfl hne
  | cons w rest ih =>
    intro i pre previous ws hws hi hend
    rw [List.length_cons] at hend ⊢
    rw [List.range'_succ, List.foldl_cons]
    by_cases hrest : rest = []
    · subst hrest
      obtain rfl : i = size - 1 := by
        rw [List.length_nil] at hend
        omega
      exact toList_mix_last pre hws (by omega)
    · have hpos := List.length_pos_of_ne_nil hrest
      have hmixed := toList_mix (f := F i) pre hws hi (by omega)
      rw [List.append_cons] at hmixed
      obtain ⟨last, more, hmore⟩ : ∃ last more, sweep F (i + 1) (F i w (previous ^^^ (previous >>> 30))) rest =
          last :: more := by
        obtain ⟨v, rest, rfl⟩ := List.exists_cons_of_ne_nil hrest
        exact ⟨_, _, rfl⟩
      rw [ih hrest _ hmixed (by simp [hi]) (by omega), sweep]
      simp [hmore]

/-- How the word of a key is mixed into the words of a block. -/
def absorb (key : UInt32) (_ : ℕ) (old previous : UInt32) : UInt32 := (old ^^^ (previous * 1664525)) + key + 0

/-- How an index is mixed into the words of a block. -/
def diffuse (i : ℕ) (old previous : UInt32) : UInt32 := (old ^^^ (previous * 1566083941)) - UInt32.ofNat i

/-- The words that a key of one word spreads to. The second word is passed twice by either sweep. -/
def seeded (key : UInt32) : List UInt32 :=
  let absorbed := sweep (absorb key) 1 19650218 (spreadFrom 1 19650218 (size - 1))
  let last := absorbed.getLastD 0
  let second := absorb key 1 (absorbed.headD 0) (last ^^^ (last >>> 30))
  let diffused := sweep diffuse 2 second absorbed.tail
  let last := diffused.getLastD 0
  0x80000000 :: diffuse 1 second (last ^^^ (last >>> 30)) :: diffused

theorem length_spreadFrom (i : ℕ) (last : UInt32) (n : ℕ) : (spreadFrom i last n).length = n := by
  induction n generalizing i last with
  | zero => rfl
  | succ n ih => rw [spreadFrom, List.length_cons, ih]

theorem length_sweep (F : ℕ → UInt32 → UInt32 → UInt32) (i : ℕ) (previous : UInt32) (words : List UInt32) :
    (sweep F i previous words).length = words.length := by
  induction words generalizing i previous with
  | nil => rfl
  | cons w rest ih => rw [sweep, List.length_cons, List.length_cons, ih]

/-- A key of one word has the same word at each turn. -/
theorem foldl_absorb (key : UInt32) (is : List ℕ) (k : ℕ) (ws : Array UInt32) :
    (is.zipIdx k).foldl (fun ws (i, k) => mix (fun old p => (old ^^^ (p * 1664525)) + #[key].getD (k % 1) 0 +
      UInt32.ofNat (k % 1)) ws i) ws = is.foldl (fun ws i => mix (absorb key i) ws i) ws := by
  induction is generalizing k ws with
  | nil => rfl
  | cons i is ih =>
    rw [List.zipIdx_cons, List.foldl_cons, List.foldl_cons, ih]
    simp only [Nat.mod_one]
    rfl

theorem toList_words_ofKey (key : UInt32) : (ofKey #[key]).words.toList = seeded key := by
  have hwhole : rounds 1 size = List.range' 1 (size - 1) ++ [1] := by decide +kernel
  have hrest : rounds 2 (size - 1) = List.range' 2 (size - 2) ++ [1] := by decide +kernel
  have hspread := length_spreadFrom 1 19650218 (size - 1)
  have habsorbed := length_sweep (absorb key) 1 19650218 (spreadFrom 1 19650218 (size - 1))
  -- The first sweep, and the second word once more.
  have hlap := toList_lap (i := 1) (absorb key)
    (List.ne_nil_of_length_pos (by rw [hspread]; decide)) [] (toList_ofWord 19650218) rfl (by rw [hspread]; decide)
  obtain ⟨first, rest, hrun⟩ : ∃ first rest,
      sweep (absorb key) 1 19650218 (spreadFrom 1 19650218 (size - 1)) = first :: rest :=
    List.exists_cons_of_length_pos (by rw [habsorbed, hspread]; decide)
  rw [hspread, hrun, List.nil_append, List.set_cons_zero] at hlap
  have hagain := toList_mix (f := absorb key 1) (i := 1) [] hlap rfl (by decide)
  -- The second sweep, and the second word once more.
  have hlength : rest.length = size - 2 := by
    rw [hrun, hspread] at habsorbed
    exact Nat.succ.inj habsorbed
  have hlap := toList_lap (i := 2) diffuse (List.ne_nil_of_length_pos (by rw [hlength]; decide)) [_]
    hagain rfl (by rw [hlength]; decide)
  rw [hlength] at hlap
  have hagain := toList_mix (f := diffuse 1) (i := 1) [] hlap rfl (by decide)
  have hkey : (ofKey #[key]).words = (((rounds 2 (size - 1)).foldl (fun ws i => mix (diffuse i) ws i)
      ((rounds 1 size).foldl (fun ws i => mix (absorb key i) ws i) (ofWord 19650218)))).setIfInBounds 0
        0x80000000 := by
    have hsize : max size #[key].size = size := Nat.max_eq_left (show 1 ≤ size by decide)
    have hsecond : size % (size - 1) + 1 = 2 := by decide
    simp only [ofKey, hsize, hsecond, ← foldl_absorb key _ 0]
    rfl
  rw [hkey, hwhole, hrest, List.foldl_append, List.foldl_append, List.foldl_cons, List.foldl_nil, List.foldl_cons,
    List.foldl_nil]
  rw [toList_set_of_toList (i := 0) [] hagain rfl, seeded, hrun]
  rfl

/-! Twisting -/

/-- The word that takes the place of `x`. -/
def renew (x y z : UInt32) : UInt32 :=
  let y := (x &&& 0x80000000) ||| (y &&& 0x7FFFFFFF)
  let flip : UInt32 := if y &&& 1 = 0 then 0 else 0x9908B0DF
  z ^^^ (y >>> 1) ^^^ flip

/-- Renews words, as many as there are words to combine them with. -/
def renewed : List UInt32 → List UInt32 → List UInt32
  | x :: y :: xs, z :: zs => renew x y z :: renewed (y :: xs) zs
  | _, _ => []

theorem length_renewed {xs zs : List UInt32} (h : zs.length < xs.length) : (renewed xs zs).length = zs.length := by
  induction zs generalizing xs with
  | nil => simp [renewed]
  | cons z zs ih =>
    obtain ⟨x, y, xs, rfl⟩ : ∃ x y xs', xs = x :: y :: xs' := by
      match xs, h with
      | x :: y :: xs, _ => exact ⟨x, y, xs, rfl⟩
    rw [renewed, List.length_cons, List.length_cons, ih (by simpa using h)]

/-- The first words after a block, which are combined with words of the block itself. -/
def early (ws : List UInt32) : List UInt32 := renewed ws (ws.drop shift)

/-- The words that are combined with those. -/
def middle (ws : List UInt32) : List UInt32 := renewed (ws.drop 227) (early ws)

/-- The words that are combined with those in turn, but for the last one. -/
def late (ws : List UInt32) : List UInt32 := renewed (ws.drop 454) ((middle ws).take 169)

/-- The words after a block. The last one is also made from the first. -/
def block (ws : List UInt32) : List UInt32 :=
  early ws ++ (middle ws ++
    (late ws ++ [renew (ws.getD 623 0) ((early ws).headD 0) ((middle ws).getD 169 0)]))

/-- One turn of a twist. -/
def renewAt (ws : Array UInt32) (i : ℕ) : Array UInt32 :=
  ws.setIfInBounds i (renew (ws.getD i 0) (ws.getD ((i + 1) % size) 0) (ws.getD ((i + shift) % size) 0))

theorem twist_eq (ws : Array UInt32) : twist ws = (List.range size).foldl renewAt ws := by
  rw [twist]
  rfl

theorem toList_renewAt {x y z : UInt32} (h : ws.toList = pre ++ x :: post) (hi : i = pre.length)
    (hy : ws.getD ((i + 1) % size) 0 = y) (hz : ws.getD ((i + shift) % size) 0 = z) :
    (renewAt ws i).toList = pre ++ renew x y z :: post := by
  rw [renewAt, toList_set_of_toList pre h hi, getD_of_toList pre _ h hi, hy, hz]

/-- The first words are combined with words `zs` of the block itself. -/
theorem toList_early {zs : List UInt32} :
    ∀ {i : ℕ} (done head : List UInt32) {ws : Array UInt32},
      ws.toList = done ++ (head ++ zs) → head.length = shift → i = done.length → i + shift + zs.length = size →
      ((List.range' i zs.length).foldl renewAt ws).toList =
        done ++ renewed (head ++ zs) zs ++ (head ++ zs).drop zs.length := by
  induction zs with
  | nil =>
    intro i done head ws hws _ _ _
    simpa [renewed] using hws
  | cons z zs ih =>
    intro i done head ws hws hhead hi hend
    rw [List.length_cons] at hend
    obtain ⟨x, y, head, rfl⟩ : ∃ x y head', head = x :: y :: head' := by
      match head, hhead with
      | x :: y :: head, _ => exact ⟨x, y, head, rfl⟩
    have hstep : (renewAt ws i).toList = done ++ renew x y z :: (y :: (head ++ z :: zs)) := by
      refine toList_renewAt done hws hi ?_ ?_
      · rw [Nat.mod_eq_of_lt (by simp only [shift, size] at *; omega)]
        exact getD_of_toList (done ++ [x]) (head ++ z :: zs) (by simp [hws]) (by simp [hi])
      · rw [Nat.mod_eq_of_lt (by omega)]
        exact getD_of_toList (done ++ x :: y :: head) zs (by simp [hws])
          (by rw [List.length_append, hhead, hi])
    have hrest := ih (i := i + 1) (done ++ [renew x y z]) (y :: (head ++ [z]))
      (hstep.trans (by simp)) (by simpa using hhead) (by simp [hi]) (by omega)
    rw [List.length_cons, List.range'_succ, List.foldl_cons, hrest]
    simp [renewed]

/-- Later words are combined with words `zs` that have taken the place of others. -/
theorem toList_late {zs : List UInt32} :
    ∀ {i : ℕ} (before between xs : List UInt32) {ws : Array UInt32},
      ws.toList = before ++ (zs ++ (between ++ xs)) → (zs ++ between).length + shift = size →
      i = (before ++ (zs ++ between)).length → zs.length < xs.length → i + xs.length = size →
      ((List.range' i zs.length).foldl renewAt ws).toList =
        before ++ (zs ++ (between ++ (renewed xs zs ++ xs.drop zs.length))) := by
  induction zs with
  | nil =>
    intro i before between xs ws hws _ _ _ _
    simpa [renewed] using hws
  | cons z zs ih =>
    intro i before between xs ws hws hbetween hi hlt hend
    obtain ⟨x, y, xs, rfl⟩ : ∃ x y xs', xs = x :: y :: xs' := by
      match xs, hlt with
      | x :: y :: xs, _ => exact ⟨x, y, xs, rfl⟩
    simp only [List.length_append, List.length_cons] at hbetween hi hlt hend
    have hstep : (renewAt ws i).toList =
        (before ++ (z :: zs ++ between)) ++ renew x y z :: (y :: xs) := by
      refine toList_renewAt _ (by simp [hws]) (by simp [hi]; omega) ?_ ?_
      · rw [Nat.mod_eq_of_lt (by omega)]
        exact getD_of_toList (before ++ (z :: zs ++ between) ++ [x]) xs (by simp [hws])
          (by simp [hi]; omega)
      · have hwrap : (i + shift) % size = before.length := by
          rw [show i + shift = before.length + size by omega, Nat.add_mod_right, Nat.mod_eq_of_lt (by omega)]
        rw [hwrap]
        exact getD_of_toList before (zs ++ (between ++ x :: y :: xs)) (by simp [hws]) rfl
    have hrest := ih (i := i + 1) (before ++ [z]) (between ++ [renew x y z]) (y :: xs)
      (hstep.trans (by simp)) (by simp; omega) (by simp; omega) (by simp; omega) (by simp; omega)
    rw [List.length_cons, List.range'_succ, List.foldl_cons, hrest]
    simp [renewed]

section

variable {xs : List UInt32} (hlength : xs.length = size)

include hlength

theorem length_early : (early xs).length = 227 := by
  rw [early, length_renewed] <;> simp [hlength, shift, size]

theorem length_middle : (middle xs).length = 227 := by
  rw [middle, length_renewed, length_early hlength]
  simp [hlength, length_early hlength, size]

theorem length_late : (late xs).length = 169 := by
  rw [late, length_renewed] <;> simp [hlength, length_middle hlength, size]

/-! The turns of a twist, in the stretches that the words are renewed in -/

theorem toList_firstTurns (h : ws.toList = xs) :
    ((List.range' 0 227).foldl renewAt ws).toList = early xs ++ xs.drop 227 := by
  have hrun := toList_early (i := 0) [] (xs.take shift) (h.trans (List.take_append_drop shift xs).symm)
    (by simp [hlength, shift, size]) rfl (by simp [hlength, shift, size])
  simpa [early, hlength, shift, size] using hrun

theorem toList_nextTurns (h : ws.toList = early xs ++ xs.drop 227) :
    ((List.range' 227 227).foldl renewAt ws).toList = early xs ++ (middle xs ++ xs.drop 454) := by
  have hearly := length_early hlength
  have hrun := toList_late (i := 227) [] [] (xs.drop 227) h (by simp [hearly, shift, size])
    (by simp [hearly]) (by simp [hlength, hearly, size]) (by simp [hlength, size])
  simpa [middle, hearly] using hrun

theorem toList_lastTurns (h : ws.toList = early xs ++ (middle xs ++ xs.drop 454)) :
    ((List.range' 454 169).foldl renewAt ws).toList =
      early xs ++ (middle xs ++ (late xs ++ [xs.getD 623 0])) := by
  have hearly := length_early hlength
  have hmiddle := length_middle hlength
  have hlast : xs.drop 623 = [xs.getD 623 0] := by
    rw [List.drop_eq_getElem_cons (by simp [hlength, size]), List.drop_of_length_le (by simp [hlength, size]),
      List.getD_eq_getElem _ _ (by simp [hlength, size])]
  have hsplit : middle xs = (middle xs).take 169 ++ (middle xs).drop 169 :=
    (List.take_append_drop 169 _).symm
  have hrun := toList_late (i := 454) (early xs) ((middle xs).drop 169) (xs.drop 454)
    (h.trans (by rw [← List.append_assoc ((middle xs).take 169), ← hsplit])) (by simp [hmiddle, shift, size])
    (by simp [hearly, hmiddle]) (by simp [hlength, hmiddle, size]) (by simp [hlength, size])
  simpa [late, hmiddle, hlast, ← List.append_assoc ((middle xs).take 169)] using hrun

/-- The last word is combined with the first, which has been renewed by then. -/
theorem toList_lastTurn (h : ws.toList = early xs ++ (middle xs ++ (late xs ++ [xs.getD 623 0]))) :
    (renewAt ws 623).toList = block xs := by
  have hearly := length_early hlength
  have hmiddle := length_middle hlength
  have hlate := length_late hlength
  have hword (k : ℕ) : ws.getD k 0 = (early xs ++ (middle xs ++ (late xs ++ [xs.getD 623 0]))).getD k 0 := by
    rw [← h, Array.getD_eq_getD_getElem?, ← Array.getElem?_toList, List.getD_eq_getElem?_getD]
  have hnext : ws.getD ((623 + 1) % size) 0 = (early xs).headD 0 := by
    rw [hword, List.getD_append _ _ _ _ (by rw [hearly]; decide)]
    cases early xs <;> rfl
  have hcombined : ws.getD ((623 + shift) % size) 0 = (middle xs).getD 169 0 := by
    rw [hword, List.getD_append_right _ _ _ _ (by rw [hearly]; decide), hearly,
      List.getD_append _ _ _ _ (by rw [hmiddle]; decide)]
    rfl
  rw [← List.append_assoc (middle xs), ← List.append_assoc (early xs)] at h
  rw [toList_renewAt (early xs ++ (middle xs ++ late xs)) h (by simp [hearly, hmiddle, hlate]) hnext hcombined,
    block, List.append_assoc, List.append_assoc]

end

theorem toList_twist {ws : Array UInt32} (h : ws.size = size) : (twist ws).toList = block ws.toList := by
  have hturns : List.range size =
      List.range' 0 227 ++ (List.range' 227 227 ++ (List.range' 454 169 ++ [623])) := by
    decide +kernel
  have hfirst := toList_firstTurns h rfl
  have hlast := toList_lastTurns h (toList_nextTurns h hfirst)
  rw [twist_eq, hturns, List.foldl_append, List.foldl_append, List.foldl_append, List.foldl_cons, List.foldl_nil,
    toList_lastTurn h hlast]

/-! The first block of a seed -/

theorem length_seeded (key : UInt32) : (seeded key).length = size := by
  rw [seeded, List.length_cons, List.length_cons, length_sweep, List.length_tail, length_sweep, length_spreadFrom]
  rfl

/-- The state in which the first block of a small seed begins. -/
def firstBlock (n : ℕ) : Twister := .ofBlock (block (seeded (.ofNat n))).toArray

theorem next_of_used {t b : Twister} (ht : t.ahead = []) (hb : ofBlock (twist t.words) = b)
    (hne : b.ahead.isEmpty = false) : t.next = b.next := by
  subst hb
  simp [next, ht, hne]

/-- The words of a small seed are those of its first block. -/
theorem next_ofSeed {n : ℕ} (h : n < UInt32.size) : (ofSeed n).next = (firstBlock n).next := by
  have hwords : wordsOf (n.log2 / 32 + 1) n = [.ofNat n] := if_pos h
  have hseed : ofSeed n = ofKey #[.ofNat n] := by
    rw [ofSeed, Int.natAbs_natCast, hwords]
  have hsize : (ofKey #[.ofNat n]).words.size = size := by
    rw [← Array.length_toList, toList_words_ofKey, length_seeded]
  have htwist : twist (ofKey #[.ofNat n]).words = (block (seeded (.ofNat n))).toArray := by
    apply Array.toList_inj.mp
    rw [toList_twist hsize, toList_words_ofKey]
  rw [hseed]
  refine next_of_used (by rw [ofKey]) (by rw [htwist, firstBlock]) ?_
  rw [firstBlock, ofBlock, List.isEmpty_eq_false_iff, block]
  simp

end JsonTypings.Twister

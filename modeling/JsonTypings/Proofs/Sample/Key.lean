import JsonTypings.Proofs.Random.Always
import JsonTypings.Sample.Key

/-! What the keys of sample documents are made of. No key comes twice in a document. -/
namespace JsonTypings.Sample

open Draw

/-- One to three different key words. -/
structure IsKeyWords (words : List Text) : Prop where
  subset : words ⊆ keyWords
  nodup : words.Nodup
  length_pos : 1 ≤ words.length
  length_le : words.length ≤ 3

/-- One to three different key words, put together in one of the styles. -/
def IsSampleKey (key : Text) : Prop := ∃ style words, IsKeyWords words ∧ KeyStyle.join style words = key

theorem nodup_keyWords : keyWords.Nodup := by decide

theorem isKeyWords_of_subperm {words : List Text} (h : words.Subperm keyWords) (hpos : 1 ≤ words.length)
    (hle : words.length ≤ 3) : IsKeyWords words where
  subset := h.subset
  nodup := by
    obtain ⟨chosen, hperm, hsublist⟩ := h
    exact hperm.nodup_iff.mp (nodup_keyWords.sublist hsublist)
  length_pos := hpos
  length_le := hle

theorem always_key : Always IsSampleKey key := by
  refine (always_between 1 3).bind fun count hcount => (always_chooseDistinct _ _).bind ?_
  rintro words ⟨hsubperm, hlength⟩
  refine (always_true _).bind fun m _ => always_pure ⟨_, words, ?_, rfl⟩
  exact isKeyWords_of_subperm hsubperm (by omega) (by omega)

/-- A new key is not taken. -/
theorem always_newKey (taken : List Text) :
    Always (fun key => key ∉ taken ∧ IsSampleKey key) (newKey taken) := by
  refine always_retry (always_key.bind fun k hk => always_pure fun a ha => ?_)
  split at ha
  · cases ha
  · rename_i hnew
    cases ha
    exact ⟨hnew, hk⟩

end JsonTypings.Sample

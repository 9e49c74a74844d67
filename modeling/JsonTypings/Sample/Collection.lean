import JsonTypings.Files.Saved
import JsonTypings.Sample.Sampler

/-! A batch of sample documents in one file. -/
namespace JsonTypings.Sample

open Files

/-- Why there is no such file. -/
inductive CollectionError where
  | draw (e : DrawError)
  | save (e : SaveError)

/-- How the collection ended, what was printed, and the files that are there now. -/
structure Collection where
  error? : Option CollectionError
  out : Text
  store : Store

/-- Draws `count` documents from the default seed and saves them; the directories above the file are
made where they are missing. -/
def collect (store : Store) (path : Path) (count : Int) : Collection :=
  let announced :=
    Text.ofString "Generating " ++ Text.ofInt count ++ Text.ofString " sample documents...\n\n"
  match ((Sampler.ofSeed defaultSeed).documents count defaultDepth defaultWidth defaultAttempts).1 with
  | .error e => ⟨some (.draw e), announced, store⟩
  | .ok documents =>
    match store.ensureDirectories path.parent path.parts.length with
    | .error e => ⟨some (.save (.file e)), announced, store⟩
    | .ok store =>
      let line := Text.ofString "✓ Generated " ++ Text.ofNat documents.length ++
        Text.ofString " documents -> " ++ path.toText
      let saved := store.save path (.array (documents.map .object)) announced line
      ⟨saved.error?.map .save, saved.out, saved.store⟩

end JsonTypings.Sample

import JsonTypings.Proofs.Encoding.Detection
import JsonTypings.Proofs.Json.Language
import JsonTypings.Proofs.Typing.Discovery

/-! A document handed in as its bytes, in any encoding, has the interfaces of its text. -/
namespace JsonTypings

open Encoding (Bytes OpensPlainly Scheme decodeDetected decodeDetected_encode)
open Json (Denotes read_eq_ok readDecoded_eq_ok)

/-- The bytes of a document tell their encoding. -/
theorem Json.Denotes.opensPlainly {t : Text} {v : Value} (h : Denotes t v) : OpensPlainly t := by
  obtain ⟨c, hhead, hc⟩ := h.beginsAscii
  obtain ⟨rest, rfl⟩ := List.head?_eq_some_iff.mp hhead
  obtain ⟨hpos, hrest⟩ := List.forall_mem_cons.mp h.nullFree
  exact ⟨c, rest, rfl, ⟨hpos, hc⟩, fun d hd => hrest d (List.mem_of_mem_head? hd)⟩

/-- Bytes that are decoded to a document have its interfaces. -/
theorem generate_bytes_of_denotes {bytes : Bytes} {t root : Text} {document : Value}
    (htext : decodeDetected bytes = .ok t) (hdenotes : Denotes t document) :
    generate (.bytes bytes) root = .ok (describe root document) := by
  have hread : Source.read (.bytes bytes) = .ok document := by
    rw [Source.read, htext]
    dsimp only
    rw [readDecoded_eq_ok.mpr hdenotes, Except.mapError]
  rw [generate, hread, Except.map]

/-- The bytes of a text with interfaces have the same ones, in each encoding, with a byte order mark
in front or without. -/
theorem generate_encode (scheme : Scheme) {t root interfaces : Text}
    (h : generate (.text t) root = .ok interfaces) (hpaired : t.Unpaired) :
    generate (.bytes (scheme.encode t)) root = .ok interfaces ∧
      generate (.bytes (scheme.mark ++ scheme.encode t)) root = .ok interfaces := by
  obtain ⟨document, hread, rfl⟩ := generate_text_eq_ok.mp h
  have hdenotes := (read_eq_ok.mp hread).2
  obtain ⟨hplain, hmarked⟩ := decodeDetected_encode scheme hdenotes.opensPlainly hpaired
  exact ⟨generate_bytes_of_denotes hplain hdenotes, generate_bytes_of_denotes hmarked hdenotes⟩

/-- A low surrogate, and behind it a code point beyond U+FFFF. -/
def surrogateKey : Text := [CodePoint.ofNat 0xDC00, CodePoint.ofNat 0x1F600]

/-- An object with that key. -/
def surrogateKeyText : Text := Text.ofString "\x7b\"" ++ surrogateKey ++ Text.ofString "\":1\x7d"

/-- The object in UTF-16, without a mark. -/
def surrogateKeyBytes : Bytes :=
  [0x7B, 0, 0x22, 0, 0x00, 0xDC, 0x3D, 0xD8, 0x00, 0xDE, 0x22, 0, 0x3A, 0, 0x31, 0, 0x7D, 0]

/-- The interface of the object comes out of these bytes too, and with a mark in front of them. -/
theorem generate_encode_surrogateKey :
    ∃ interfaces, generate (.text surrogateKeyText) defaultRootName = .ok interfaces ∧
      generate (.bytes surrogateKeyBytes) defaultRootName = .ok interfaces ∧
      generate (.bytes (0xFF :: 0xFE :: surrogateKeyBytes)) defaultRootName = .ok interfaces := by
  have hread : Json.read surrogateKeyText = .ok (.object [(surrogateKey, .int 1)]) := by rfl
  have htext : generate (.text surrogateKeyText) defaultRootName =
      .ok (describe defaultRootName (.object [(surrogateKey, .int 1)])) :=
    generate_text_eq_ok.mpr ⟨_, hread, rfl⟩
  have hbytes : (Scheme.utf16 .little).encode surrogateKeyText = surrogateKeyBytes := by decide
  have hmark : (Scheme.utf16 .little).mark = [0xFF, 0xFE] := by decide
  have hboth := generate_encode (.utf16 .little) htext (by decide)
  rw [hbytes, hmark] at hboth
  exact ⟨_, htext, hboth⟩

end JsonTypings

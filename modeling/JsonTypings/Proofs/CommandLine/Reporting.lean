import JsonTypings.Proofs.CommandLine.Agreement
import JsonTypings.Proofs.Typing.Surrogates

/-! What the command says of each document when it prints to the screen. It does not report an
integer that is too long, nor a surrogate in a key that the interfaces show. Then an error escapes. -/
namespace JsonTypings.CommandLine

open Files
open Encoding (Bytes DecodeError)
open Json (Position)

variable {arguments : List Text} {settings : Settings} {desk : Desk} {host : Host} {bytes : Bytes}
  {root : Text}

/-! Bytes that are no text -/

theorem bracket_not_mem_hex (width n : Nat) : CodePoint.ofChar '[' ∉ Text.hex width n := by
  have hdigits : ∀ d < 16, CodePoint.ofChar '[' ≠ CodePoint.ofHexDigit d := by decide
  induction width generalizing n with
  | zero => exact List.not_mem_nil
  | succ width ih =>
    rw [Text.hex, List.mem_append, List.mem_singleton, not_or]
    exact ⟨ih _, hdigits _ (Nat.mod_lt _ (by decide))⟩

theorem bracket_not_mem_decodeError {e : DecodeError} (h : CodePoint.ofChar '[' ∉ e.encoding) :
    CodePoint.ofChar '[' ∉ e.message := by
  have hwording : CodePoint.ofChar '[' ∉ e.defect.reason.wording := by
    cases e.defect.reason <;> decide
  simp only [DecodeError.message, List.mem_append, not_or]
  refine ⟨⟨⟨⟨⟨by decide, h⟩, by decide⟩, ?_⟩, by decide⟩, hwording⟩
  split_ifs
  · simp only [List.mem_append, bracket_not_mem_hex, bracket_not_mem_ofNat, or_false]
    decide
  · simp only [List.mem_append, bracket_not_mem_ofNat, or_false]
    decide

theorem encoding_eq_of_decode {e : DecodeError} (h : Encoding.Utf8.decode bytes = .error e) :
    e.encoding = Encoding.Utf8.name := by
  unfold Encoding.Utf8.decode at h
  cases hrun : Encoding.Utf8.run false .start 0 [] bytes with
  | ok t => simp [hrun, Except.mapError] at h
  | error d =>
    rw [hrun] at h
    cases h
    rfl

theorem Console.ShowsPlain.exists_conclude_undecodable {console : Console} (hconsole : console.ShowsPlain)
    (store : Store) {e : DecodeError} (h : Encoding.Utf8.decode bytes = .error e) :
    ∃ shown, console.conclude store (Problem.undecodable e).notice = ⟨.ok 1, [], shown, store⟩ := by
  refine hconsole.exists_conclude_bold store 1 (.inr rfl) ?_
  rw [List.mem_append, not_or]
  refine ⟨by decide, bracket_not_mem_decodeError ?_⟩
  rw [encoding_eq_of_decode h]
  decide

/-! What comes out of the bytes of a document -/

/-- Each way in which the bytes of a document give interfaces or a problem. -/
inductive Yields (root : Text) (bytes : Bytes) : Except Problem Text → Prop
  | undecodable {e : DecodeError} (h : Encoding.Utf8.decode bytes = .error e) :
    Yields root bytes (.error (.undecodable e))
  | malformed {t : Text} {fault fault' : Json.Fault} {position position' : Position}
    (htext : Encoding.Utf8.decode bytes = .ok t) (h : Json.read t = .error (.malformed fault position)) :
    Yields root bytes (.error (.unreadable (.malformed fault' position')))
  | tooManyDigits {t : Text} {digits : Nat} (htext : Encoding.Utf8.decode bytes = .ok t)
    (h : Json.read t = .error (.tooManyDigits digits)) :
    Yields root bytes (.error (.unreadable (.tooManyDigits digits)))
  | described {t : Text} {document : Value} (htext : Encoding.Utf8.decode bytes = .ok t)
    (h : Json.read t = .ok document) : Yields root bytes (.ok (describe root document))

theorem Host.decode_eq_error (host : Host) (file : Text) {e : DecodeError}
    (h : Encoding.Utf8.decode bytes = .error e) : host.decode file bytes = .error e := by
  unfold Host.decode
  split
  · rw [Encoding.decodeTextFile, h, Except.map]
  · exact h

theorem Settings.yields_interfacesOf (settings : Settings) (host : Host) (bytes : Bytes) :
    Yields settings.rootName bytes (settings.interfacesOf host bytes) := by
  cases htext : Encoding.Utf8.decode bytes with
  | error e =>
    rw [interfacesOf, host.decode_eq_error settings.file htext]
    exact .undecodable htext
  | ok t =>
    obtain ⟨r, hsame, heq⟩ := settings.exists_interfacesOf_eq host htext
    rw [heq]
    generalize hread : Json.read t = r' at hsame
    cases hsame with
    | ok v => exact .described htext hread
    | malformed => exact .malformed htext hread
    | tooManyDigits n => exact .tooManyDigits htext hread

theorem Settings.read_eq (host : Host) (hdocument : desk.document settings.file = .ok bytes) :
    (desk.document settings.file).bind (settings.interfacesOf host) = settings.interfacesOf host bytes := by
  rw [hdocument]
  rfl

/-! Printing -/

/-- Why an error escapes when the interfaces of a document are printed. -/
inductive Unreported (root : Text) (bytes : Bytes) : Prop
  | tooManyDigits {t : Text} {digits : Nat} (htext : Encoding.Utf8.decode bytes = .ok t)
    (h : Json.read t = .error (.tooManyDigits digits))
  | surrogate {t : Text} {document : Value} {s : Shape} {m : Text × Value}
    (htext : Encoding.Utf8.decode bytes = .ok t) (h : Json.read t = .ok document)
    (hs : s ∈ Shape.below root (.object document.rootMembers)) (hm : m ∈ s.node.members)
    (hkey : ¬ m.1.SurrogateFree)

theorem not_unreported_of_decode {e : DecodeError} (h : Encoding.Utf8.decode bytes = .error e) :
    ¬ Unreported root bytes := by
  rintro (⟨htext, -⟩ | ⟨htext, -⟩) <;> rw [h] at htext <;> cases htext

variable {t : Text}

/-- A text is reported when it is malformed, or when its interfaces can be encoded. -/
theorem unreported_iff (htext : Encoding.Utf8.decode bytes = .ok t) (hroot : root.SurrogateFree) :
    Unreported root bytes ↔ (∃ digits, Json.read t = .error (.tooManyDigits digits)) ∨
      ∃ document, Json.read t = .ok document ∧ ¬ (describe root document).SurrogateFree := by
  constructor
  · rintro (⟨htext', h⟩ | ⟨htext', h, hs, hm, hkey⟩)
    · obtain rfl := Except.ok.inj (htext.symm.trans htext')
      exact .inl ⟨_, h⟩
    · obtain rfl := Except.ok.inj (htext.symm.trans htext')
      exact .inr ⟨_, h, fun hall => hkey (((surrogateFree_describe root _).mp hall).2 _ hs _ hm)⟩
  · rintro (⟨digits, h⟩ | ⟨document, h, hnot⟩)
    · exact .tooManyDigits htext h
    · rw [surrogateFree_describe] at hnot
      push Not at hnot
      obtain ⟨s, hs, m, hm, hkey⟩ := hnot hroot
      exact .surrogate htext h hs hm hkey

theorem Console.exists_printInterfaces_escapes (console : Console) (store : Store) {interfaces : Text}
    (h : ¬ interfaces.SurrogateFree) :
    ∃ e, console.printInterfaces store interfaces = ⟨.error (.unencodable e), [], [], store⟩ := by
  have hsurrogate : ∃ c ∈ interfaces, c.isSurrogate = true := by simpa [Text.SurrogateFree] using h
  obtain ⟨e, he⟩ := Encoding.exists_encode_eq_error hsurrogate
  exact ⟨e, by rw [printInterfaces, he]; rfl⟩

/-- The ways to end when nothing is written: with the interfaces of the document, with a message, or
with an error that escapes. -/
inductive Ending (root : Text) (bytes : Bytes) (store : Store) : Outcome → Prop
  | printed {t interfaces : Text} (htext : Encoding.Utf8.decode bytes = .ok t)
    (h : generate (.text t) root = .ok interfaces) (hreported : ¬ Unreported root bytes) :
    Ending root bytes store ⟨.ok 0, interfaces ++ Text.ofString "\n", [], store⟩
  | told (shown : Text) (hreported : ¬ Unreported root bytes) :
    Ending root bytes store ⟨.ok 1, [], shown, store⟩
  | escaped (e : Escape) (h : Unreported root bytes) :
    Ending root bytes store ⟨.error e, [], [], store⟩

theorem Ending.withPlainMessages {store : Store} {o : Outcome} (h : Ending root bytes store o) :
    Ending root bytes store o.withPlainMessages := by
  cases h with
  | printed htext h hreported => exact .printed htext h hreported
  | told shown hreported => exact .told _ hreported
  | escaped e h => exact .escaped e h

theorem Settings.ending_run (hconsole : host.console.ShowsPlain) (hversion : settings.version = false)
    (hnone : settings.output = none ∨ settings.output = some [])
    (hdocument : desk.document settings.file = .ok bytes) (hroot : settings.rootName.SurrogateFree) :
    Ending settings.rootName bytes desk.store (settings.run desk host) := by
  have hread := Settings.read_eq host hdocument
  have hyields := settings.yields_interfacesOf host bytes
  generalize settings.interfacesOf host bytes = r at hread hyields
  cases hyields with
  | undecodable h =>
    obtain ⟨shown, hshown⟩ := hconsole.exists_conclude_undecodable desk.store h
    rw [Settings.run_eq_conclude hversion hread, hshown]
    exact .told shown (not_unreported_of_decode h)
  | @malformed _ _ fault' _ position' htext h =>
    obtain ⟨shown, hshown⟩ := hconsole.exists_conclude_malformed desk.store fault' position'
    rw [Settings.run_eq_conclude hversion hread, hshown]
    exact .told shown (by simp [unreported_iff htext hroot, h])
  | tooManyDigits htext h =>
    rw [Settings.run_eq_conclude hversion hread]
    exact .escaped _ (.tooManyDigits htext h)
  | @described t document htext h =>
    rw [Settings.run_eq_printInterfaces hversion hread hnone]
    by_cases hencodable : (describe settings.rootName document).SurrogateFree
    · rw [Console.printInterfaces_eq _ _ hencodable]
      exact .printed htext (generate_text_eq_ok.mpr ⟨document, h, rfl⟩)
        (by simp [unreported_iff htext hroot, h, hencodable])
    · obtain ⟨e, he⟩ := host.console.exists_printInterfaces_escapes desk.store hencodable
      rw [he]
      exact .escaped _ ((unreported_iff htext hroot).mpr (.inr ⟨document, h, hencodable⟩))

/-- What the command says of a document when it prints to the screen. An error escapes exactly when
an integer is too long, or when a key that the interfaces show holds a surrogate. Otherwise it
prints the interfaces and ends with 0, or it prints nothing and ends with 1. -/
theorem run_reports (hconsole : host.console.ShowsPlain)
    (hsettings : Settings.ofArguments host.dialect arguments = .ok settings)
    (hversion : settings.version = false) (hnone : settings.output = none ∨ settings.output = some [])
    (hdocument : desk.document settings.file = .ok bytes) (hroot : settings.rootName.SurrogateFree) :
    ((∃ e, (host.run arguments desk).ending = .error e) ↔ Unreported settings.rootName bytes) ∧
      ∀ code, (host.run arguments desk).ending = .ok code →
        (code = 0 ∧ ∃ t interfaces, Encoding.Utf8.decode bytes = .ok t ∧
          generate (.text t) settings.rootName = .ok interfaces ∧
          host.run arguments desk = ⟨.ok 0, interfaces ++ Text.ofString "\n", [], desk.store⟩) ∨
        code = 1 ∧ ∃ shown, host.run arguments desk = ⟨.ok 1, [], shown, desk.store⟩ := by
  have hending := (Settings.ending_run hconsole hversion hnone hdocument hroot).withPlainMessages
  rw [← run_eq_of_ofArguments hsettings] at hending
  generalize host.run arguments desk = o at hending
  cases hending with
  | printed htext h hreported =>
    refine ⟨iff_of_false (by simp) hreported, fun code hcode => .inl ?_⟩
    obtain rfl := Except.ok.inj hcode
    exact ⟨rfl, _, _, htext, h, rfl⟩
  | told shown hreported =>
    refine ⟨iff_of_false (by simp) hreported, fun code hcode => .inr ?_⟩
    obtain rfl := Except.ok.inj hcode
    exact ⟨rfl, shown, rfl⟩
  | escaped e h => exact ⟨iff_of_true ⟨e, rfl⟩ h, fun code hcode => by cases hcode⟩

/-- An object whose key is an escaped surrogate. -/
def surrogateText : Text := Text.ofString "\x7b\"\\ud800\": 1\x7d"

/-- One digit too many. -/
def tooManyDigits : List (Fin 10) := List.replicate (Json.digitLimit + 1) (Fin.last 9)

theorem tooManyDigits_ne_nil : tooManyDigits ≠ [] := by simp [tooManyDigits]

theorem tooManyDigits_leading : tooManyDigits.head? = some 0 → tooManyDigits = [0] := by
  simp [tooManyDigits, List.head?_replicate]

def longInteger : Json.NumberLiteral where
  negative := false
  whole := tooManyDigits
  fraction := []
  exponent := none
  whole_ne_nil := tooManyDigits_ne_nil
  leading_zero := tooManyDigits_leading

/-- The object in a file beside a file that is no document, and the integer in the input. -/
def crashDesk : Desk where
  store := ((Store.empty []).put [Text.ofString "in.json"]
    (.file (Encoding.Utf8.encodePassing surrogateText))).put [Text.ofString "out.ts"]
      (.file (Encoding.Utf8.encodePassing (Text.ofString "old")))
  input := .bytes (Encoding.Utf8.encodePassing longInteger.text)

theorem read_surrogateText :
    Json.read surrogateText = .ok (.object [([CodePoint.ofNat 0xD800], .int 1)]) := by rfl

theorem read_oldText :
    Json.read (Text.ofString "old") = .error (.malformed .expectingValue .start) := by rfl

theorem unreported_surrogateText :
    Unreported defaultRootName (Encoding.Utf8.encodePassing surrogateText) :=
  .surrogate (s := ⟨defaultRootName, .object _⟩) (Encoding.Utf8.decode_encodePassing (by decide))
    read_surrogateText List.mem_cons_self List.mem_cons_self (by decide)

theorem unreported_longInteger :
    Unreported defaultRootName (Encoding.Utf8.encodePassing longInteger.text) := by
  have htext : longInteger.text = Json.digitsText tooManyDigits := by
    simp [Json.NumberLiteral.text, longInteger, Json.NumberLiteral.signText,
      Json.NumberLiteral.fractionText]
  have hencodable : longInteger.text.SurrogateFree := by
    rw [htext]
    refine List.forall_mem_map.mpr fun d hd => ?_
    obtain rfl := (List.mem_replicate.mp hd).2
    decide
  have hlong : Json.digitLimit < longInteger.whole.length := by
    simp [longInteger, tooManyDigits]
  exact .tooManyDigits (Encoding.Utf8.decode_encodePassing hencodable)
    (Json.read_of_tooLong ⟨rfl, rfl⟩ hlong)

/-- An error escapes for the object and for the integer. Of the other file it is told that it is no
document. -/
theorem run_reports_crashDesk :
    (∃ e, (run [Text.ofString "in.json"] crashDesk).ending = .error e) ∧
      (∃ e, (run [] crashDesk).ending = .error e) ∧
      ∃ shown, run [Text.ofString "out.ts"] crashDesk = ⟨.ok 1, [], shown, crashDesk.store⟩ := by
  have harguments (file : Text) (hfile : file = Text.ofString "in.json" ∨ file = Text.ofString "out.ts") :
      Settings.ofArguments .older [file] = .ok ⟨file, defaultRootName, none, false⟩ := by
    rcases hfile with rfl | rfl <;> rfl
  have hwaiting : Settings.ofArguments .older [] = .ok ⟨standardInput, defaultRootName, none, false⟩ := by rfl
  have hin : crashDesk.document (Text.ofString "in.json") =
      .ok (Encoding.Utf8.encodePassing surrogateText) := by rfl
  have hinput : crashDesk.document standardInput =
      .ok (Encoding.Utf8.encodePassing longInteger.text) := by rfl
  have hout : crashDesk.document (Text.ofString "out.ts") =
      .ok (Encoding.Utf8.encodePassing (Text.ofString "old")) := by rfl
  have hroot : defaultRootName.SurrogateFree := by decide
  have hold : Encoding.Utf8.decode (Encoding.Utf8.encodePassing (Text.ofString "old")) =
      .ok (Text.ofString "old") := Encoding.Utf8.decode_encodePassing (by decide)
  have hwide : Host.wide.console.ShowsPlain := showsPlain_render 1000
  obtain ⟨hobject, -⟩ := run_reports hwide (harguments _ (.inl rfl)) rfl (.inl rfl) hin hroot
  obtain ⟨hinteger, -⟩ := run_reports hwide hwaiting rfl (.inl rfl) hinput hroot
  obtain ⟨hescapes, hcodes⟩ := run_reports hwide (harguments _ (.inr rfl)) rfl (.inl rfl) hout hroot
  refine ⟨hobject.mpr unreported_surrogateText, hinteger.mpr unreported_longInteger, ?_⟩
  cases hending : (run [Text.ofString "out.ts"] crashDesk).ending with
  | error e =>
    have hunreported := (unreported_iff hold hroot).mp (hescapes.mp ⟨e, hending⟩)
    simp [read_oldText] at hunreported
  | ok code =>
    rcases hcodes code hending with ⟨-, t, interfaces, htext, hgenerate, -⟩ | ⟨-, hshown⟩
    · obtain rfl := Except.ok.inj (hold.symm.trans htext)
      rw [generate_text_eq_error.mpr read_oldText] at hgenerate
      cases hgenerate
    · exact hshown

/-- So the command does not report every document. -/
theorem run_not_always_reports :
    crashDesk.document (Text.ofString "in.json") = .ok (Encoding.Utf8.encodePassing surrogateText) ∧
      ∃ e, (run [Text.ofString "in.json"] crashDesk).ending = .error (.unencodable e) := by
  exact ⟨rfl, _, rfl⟩

end JsonTypings.CommandLine

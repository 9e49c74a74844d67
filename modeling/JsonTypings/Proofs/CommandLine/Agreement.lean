import JsonTypings.Proofs.Encoding.TextFile
import JsonTypings.Proofs.Files.Store
import JsonTypings.Proofs.Json.Newlines
import JsonTypings.Proofs.Json.Printing
import JsonTypings.Proofs.Markup.Notice
import JsonTypings.Proofs.Typing.Discovery

/-! The command gives what the library gives for the text of its input, though it may read that text
with all line ends as line feeds. -/
namespace JsonTypings.CommandLine

open Files
open Encoding (Bytes)
open Json (Position ReadError SameReading)

variable {arguments : List Text} {settings : Settings} {desk : Desk} {host : Host} {console : Console}
  {store : Store} {place : Place} {bytes : Bytes} {t interfaces output : Text} {fault : Json.Fault}
  {position : Position}

/-! Arguments. Any file can be asked for, and any root name and output. Only the older dialect makes an
exception of two hyphens. -/

/-- Whether a value can be written together with its option. -/
def Dialect.Allows (dialect : Dialect) (value : Text) : Prop := dialect = .newer ∨ value ≠ Text.ofString "--"

theorem Dialect.Allows.isNone_eq_false {dialect : Dialect} {value : Text} (h : dialect.Allows value) :
    (dialect = .older && value = Text.ofString "--") = false := by
  rcases h with rfl | h
  · rfl
  · simp [h]

theorem Reading.setValue_rootName {dialect : Dialect} {value : Text} (h : dialect.Allows value) (r : Reading) :
    r.setValue dialect .rootName value = { r with settings := { r.settings with rootName := value } } := by
  simp [setValue, h.isNone_eq_false]

theorem Reading.setValue_output {dialect : Dialect} {value : Text} (h : dialect.Allows value) (r : Reading) :
    r.setValue dialect .output value = { r with settings := { r.settings with output := some value } } := by
  simp [setValue, h.isNone_eq_false]

theorem Settings.ofArguments_rootName {dialect : Dialect} {root : Text} (file : Text) (hroot : dialect.Allows root) :
    Settings.ofArguments dialect [Text.ofString "--root-name=" ++ root, Text.ofString "--", file] =
      .ok ⟨file, root, none, false⟩ := by
  show Except.ok { (Reading.start.setValue dialect .rootName root).settings with file := file } = _
  rw [Reading.setValue_rootName hroot]
  rfl

theorem Settings.ofArguments_output {dialect : Dialect} {root : Text} (file : Text) (hroot : dialect.Allows root)
    (houtput : dialect.Allows output) :
    Settings.ofArguments dialect [Text.ofString "--root-name=" ++ root,
        Text.ofString "--output=" ++ output, Text.ofString "--", file] =
      .ok ⟨file, root, some output, false⟩ := by
  show Except.ok { ((Reading.start.setValue dialect .rootName root).setValue dialect .output output).settings with
    file := file } = _
  rw [Reading.setValue_rootName hroot, Reading.setValue_output houtput]
  rfl

/-! Reading -/

theorem Host.exists_decode (host : Host) (file : Text) (htext : Encoding.Utf8.decode bytes = .ok t) :
    ∃ t', host.decode file bytes = .ok t' ∧ SameReading (Json.read t) (Json.read t') := by
  unfold Host.decode
  split
  · exact ⟨_, Encoding.decodeTextFile_eq_ok htext, Json.sameReading_universalNewlines t⟩
  · exact ⟨t, htext, .refl _⟩

theorem Settings.exists_interfacesOf_eq (settings : Settings) (host : Host)
    (htext : Encoding.Utf8.decode bytes = .ok t) :
    ∃ r, SameReading (Json.read t) r ∧
      settings.interfacesOf host bytes = (r.mapError Problem.unreadable).map (describe settings.rootName) := by
  obtain ⟨t', hdecode, hsame⟩ := host.exists_decode settings.file htext
  refine ⟨_, hsame, ?_⟩
  rw [interfacesOf, hdecode]
  dsimp only
  cases Json.read t' <;> rfl

theorem Settings.interfacesOf_eq_ok (htext : Encoding.Utf8.decode bytes = .ok t)
    (h : generate (.text t) settings.rootName = .ok interfaces) :
    settings.interfacesOf host bytes = .ok interfaces := by
  obtain ⟨v, hread, rfl⟩ := generate_text_eq_ok.mp h
  obtain ⟨r, hsame, heq⟩ := settings.exists_interfacesOf_eq host htext
  rw [hread] at hsame
  cases hsame
  exact heq

/-- A malformed text stays one, though what is wrong with it may be told in another way. -/
theorem Settings.interfacesOf_eq_malformed (htext : Encoding.Utf8.decode bytes = .ok t)
    (h : generate (.text t) settings.rootName = .error (.unreadable (.malformed fault position))) :
    ∃ fault' position',
      settings.interfacesOf host bytes = .error (.unreadable (.malformed fault' position')) := by
  obtain ⟨r, hsame, heq⟩ := settings.exists_interfacesOf_eq host htext
  rw [generate_text_eq_error.mp h] at hsame
  cases hsame
  exact ⟨_, _, heq⟩

/-! Notices -/

theorem bracket_not_mem_ofNat (n : Nat) : CodePoint.ofChar '[' ∉ Text.ofNat n := by
  obtain ⟨ds, htext, -⟩ := Json.exists_digits n
  rw [← htext, Json.digitsText, List.mem_map]
  rintro ⟨d, -, hd⟩
  revert hd
  decide +revert

/-- What is wrong with a malformed text is told without brackets. -/
theorem bracket_not_mem_message (fault : Json.Fault) (position : Position) :
    CodePoint.ofChar '[' ∉ (ReadError.malformed fault position).message := by
  have hwording : CodePoint.ofChar '[' ∉ fault.wording := by
    cases fault <;> decide
  simp only [ReadError.message, Position.describe, List.mem_append, not_or]
  simp only [hwording, bracket_not_mem_ofNat, not_false_eq_true, and_true, true_and]
  decide

/-- A message in bold type is shown when no bracket opens in it. -/
theorem Console.ShowsPlain.exists_conclude_bold (hconsole : console.ShowsPlain) (store : Store) (code : Nat)
    {colour : String} (hcolour : Markup.IsNoticeColour colour) (ht : CodePoint.ofChar '[' ∉ t) :
    ∃ shown, console.conclude store (.ok ⟨code, bold colour t⟩) = ⟨.ok code, [], shown, store⟩ := by
  obtain ⟨shown, hshown⟩ := hconsole colour t hcolour ht
  exact ⟨shown, by rw [conclude, hshown]⟩

theorem Console.ShowsPlain.exists_conclude_malformed (hconsole : console.ShowsPlain) (store : Store)
    (fault : Json.Fault) (position : Position) :
    ∃ shown, console.conclude store (Problem.unreadable (.malformed fault position)).notice =
      ⟨.ok 1, [], shown, store⟩ := by
  refine hconsole.exists_conclude_bold store 1 (.inr rfl) ?_
  rw [List.mem_append, not_or]
  exact ⟨by decide, bracket_not_mem_message fault position⟩

/-! Ways to end -/

theorem Console.printInterfaces_eq (console : Console) (store : Store)
    (h : ∀ c ∈ interfaces, c.isSurrogate = false) :
    console.printInterfaces store interfaces = ⟨.ok 0, interfaces ++ Text.ofString "\n", [], store⟩ := by
  rw [printInterfaces, Encoding.encode_eq_ok h]

/-- The file was emptied first, which is not seen in the end. -/
theorem Console.ShowsPlain.exists_writeInterfaces (hconsole : console.ShowsPlain)
    (hleads : store.LeadsTo (.ofText output) place) (houtput : CodePoint.ofChar '[' ∉ output) {content : Bytes}
    (hcontent : Encoding.Utf8.encode (interfaces ++ Text.ofString "\n") = .ok content) :
    ∃ shown, console.writeInterfaces store output interfaces =
      ⟨.ok 0, [], shown, store.put place (.file content)⟩ := by
  have hmessage : CodePoint.ofChar '[' ∉ Text.ofString "Wrote interfaces to " ++ output := by
    rw [List.mem_append, not_or]
    exact ⟨by decide, houtput⟩
  simp only [writeInterfaces, hleads.write, hcontent]
  exact hconsole.exists_conclude_bold _ 0 (.inl rfl) hmessage

theorem run_eq_of_ofArguments (hsettings : Settings.ofArguments host.dialect arguments = .ok settings) :
    host.run arguments desk = (settings.run desk host).withPlainMessages := by
  rw [Host.run, hsettings]

theorem Settings.run_eq_printInterfaces (hversion : settings.version = false)
    (hread : (desk.document settings.file).bind (settings.interfacesOf host) = .ok interfaces)
    (hnone : settings.output = none ∨ settings.output = some []) :
    settings.run desk host = host.console.printInterfaces desk.store interfaces := by
  rw [Settings.run, hversion, hread]
  rcases hnone with hnone | hnone <;> rw [hnone] <;> rfl

theorem Settings.run_eq_writeInterfaces (hversion : settings.version = false)
    (hread : (desk.document settings.file).bind (settings.interfacesOf host) = .ok interfaces)
    (houtput : settings.output = some output) (hne : output ≠ []) :
    settings.run desk host = host.console.writeInterfaces desk.store output interfaces := by
  obtain ⟨c, rest, rfl⟩ := List.exists_cons_of_ne_nil hne
  rw [Settings.run, hversion, hread, houtput]
  rfl

/-- Without an output the interfaces are printed. -/
theorem Settings.run_eq_printed (hversion : settings.version = false)
    (hread : (desk.document settings.file).bind (settings.interfacesOf host) = .ok interfaces)
    (hencodable : ∀ c ∈ interfaces, c.isSurrogate = false)
    (hnone : settings.output = none ∨ settings.output = some []) :
    settings.run desk host = ⟨.ok 0, interfaces ++ Text.ofString "\n", [], desk.store⟩ := by
  rw [Settings.run_eq_printInterfaces hversion hread hnone, Console.printInterfaces_eq _ desk.store hencodable]

/-- With an output they are in its file. -/
theorem Settings.exists_run_written (hconsole : host.console.ShowsPlain) (hversion : settings.version = false)
    (hread : (desk.document settings.file).bind (settings.interfacesOf host) = .ok interfaces)
    (houtput : settings.output = some output) (hne : output ≠ [])
    (hbracket : CodePoint.ofChar '[' ∉ output)
    (hleads : desk.store.LeadsTo (.ofText output) place) {content : Bytes}
    (hcontent : Encoding.Utf8.encode (interfaces ++ Text.ofString "\n") = .ok content) :
    ∃ shown, settings.run desk host = ⟨.ok 0, [], shown, desk.store.put place (.file content)⟩ := by
  rw [Settings.run_eq_writeInterfaces hversion hread houtput hne]
  exact hconsole.exists_writeInterfaces hleads hbracket hcontent

theorem Settings.run_eq_conclude (hversion : settings.version = false) {p : Problem}
    (hread : (desk.document settings.file).bind (settings.interfacesOf host) = .error p) :
    settings.run desk host = host.console.conclude desk.store p.notice := by
  rw [Settings.run, hversion, hread]
  rfl

/-! Runs on the text of a document -/

section

variable (hsettings : Settings.ofArguments host.dialect arguments = .ok settings)
  (hversion : settings.version = false) (hdocument : desk.document settings.file = .ok bytes)
  (htext : Encoding.Utf8.decode bytes = .ok t)

include hsettings hversion hdocument htext

theorem run_eq_printed (hinterfaces : generate (.text t) settings.rootName = .ok interfaces)
    (hencodable : ∀ c ∈ interfaces, c.isSurrogate = false)
    (hnone : settings.output = none ∨ settings.output = some []) :
    host.run arguments desk = ⟨.ok 0, interfaces ++ Text.ofString "\n", [], desk.store⟩ := by
  have hread : (desk.document settings.file).bind (settings.interfacesOf host) = .ok interfaces := by
    rw [hdocument]
    exact Settings.interfacesOf_eq_ok htext hinterfaces
  rw [run_eq_of_ofArguments hsettings, Settings.run_eq_printed hversion hread hencodable hnone]
  rfl

theorem exists_run_written (hconsole : host.console.ShowsPlain)
    (hinterfaces : generate (.text t) settings.rootName = .ok interfaces)
    (houtput : settings.output = some output) (hne : output ≠ [])
    (hbracket : CodePoint.ofChar '[' ∉ output) (hleads : desk.store.LeadsTo (.ofText output) place)
    {content : Bytes} (hcontent : Encoding.Utf8.encode (interfaces ++ Text.ofString "\n") = .ok content) :
    ∃ shown, host.run arguments desk = ⟨.ok 0, [], shown, desk.store.put place (.file content)⟩ := by
  have hread : (desk.document settings.file).bind (settings.interfacesOf host) = .ok interfaces := by
    rw [hdocument]
    exact Settings.interfacesOf_eq_ok htext hinterfaces
  obtain ⟨shown, hwritten⟩ :=
    Settings.exists_run_written hconsole hversion hread houtput hne hbracket hleads hcontent
  rw [run_eq_of_ofArguments hsettings, hwritten]
  exact ⟨_, rfl⟩

theorem exists_run_refused (hconsole : host.console.ShowsPlain)
    (hmalformed : generate (.text t) settings.rootName = .error (.unreadable (.malformed fault position))) :
    ∃ shown, host.run arguments desk = ⟨.ok 1, [], shown, desk.store⟩ := by
  obtain ⟨fault', position', hunreadable⟩ := Settings.interfacesOf_eq_malformed htext hmalformed
  have hread : (desk.document settings.file).bind (settings.interfacesOf host) =
      .error (.unreadable (.malformed fault' position')) := by
    rw [hdocument]
    exact hunreadable
  obtain ⟨shown, hshown⟩ := hconsole.exists_conclude_malformed desk.store fault' position'
  rw [run_eq_of_ofArguments hsettings, Settings.run_eq_conclude hversion hread, hshown]
  exact ⟨_, rfl⟩

end

/-- On each host whose console shows plain notices, settings of any file, root name and output can be
asked for, in the newer dialect without exception. Whatever line ends its input has, the command then
prints the interfaces of the text, or writes them to a file and changes no other one. Where the text is
malformed, it prints nothing and changes no file. -/
theorem run_agrees_with_generate {host : Host} (hconsole : host.console.ShowsPlain) :
    (∀ settings : Settings, settings.version = false → host.dialect.Allows settings.rootName →
      (∀ output, settings.output = some output → host.dialect.Allows output) →
      ∃ arguments, Settings.ofArguments host.dialect arguments = .ok settings) ∧
    ∀ (arguments : List Text) (settings : Settings) (desk : Desk) (bytes : Bytes) (t : Text),
      Settings.ofArguments host.dialect arguments = .ok settings → settings.version = false →
      desk.document settings.file = .ok bytes → Encoding.Utf8.decode bytes = .ok t →
      (∀ interfaces, generate (.text t) settings.rootName = .ok interfaces →
        (∀ c ∈ interfaces, c.isSurrogate = false) →
        (settings.output = none ∨ settings.output = some [] →
          host.run arguments desk = ⟨.ok 0, interfaces ++ Text.ofString "\n", [], desk.store⟩) ∧
        ∀ output, settings.output = some output → output ≠ [] → CodePoint.ofChar '[' ∉ output →
          desk.store.Writable (.ofText output) →
          ∃ place content shown, desk.store.LeadsTo (.ofText output) place ∧
            Encoding.Utf8.encode (interfaces ++ Text.ofString "\n") = .ok content ∧
            host.run arguments desk = ⟨.ok 0, [], shown, desk.store.put place (.file content)⟩ ∧
            (host.run arguments desk).store.read (.ofText output) = .ok content ∧
            ∀ q, q ≠ place → (host.run arguments desk).store.entry? q = desk.store.entry? q) ∧
      ∀ fault position,
        generate (.text t) settings.rootName = .error (.unreadable (.malformed fault position)) →
        ∃ shown, host.run arguments desk = ⟨.ok 1, [], shown, desk.store⟩ := by
  refine ⟨?_, ?_⟩
  · rintro ⟨file, root, output, version⟩ rfl hroot houtput
    cases output with
    | none => exact ⟨_, Settings.ofArguments_rootName file hroot⟩
    | some output => exact ⟨_, Settings.ofArguments_output file hroot (houtput output rfl)⟩
  · intro arguments settings desk bytes t hsettings hversion hdocument htext
    refine ⟨fun interfaces hinterfaces hencodable => ⟨?_, ?_⟩, fun fault position hmalformed => ?_⟩
    · intro hnone
      exact run_eq_printed hsettings hversion hdocument htext hinterfaces hencodable hnone
    · rintro output houtput hne hbracket ⟨place, hleads⟩
      have hline : ∀ c ∈ interfaces ++ Text.ofString "\n", c.isSurrogate = false :=
        List.forall_mem_append.mpr ⟨hencodable, by decide⟩
      have hcontent := Encoding.encode_eq_ok hline
      obtain ⟨shown, hwritten⟩ := exists_run_written hsettings hversion hdocument htext hconsole hinterfaces
        houtput hne hbracket hleads hcontent
      rw [hwritten]
      exact ⟨place, _, shown, hleads, hcontent, rfl, hleads.read_put _, fun q hq => hleads.entry?_put_ne _ hq⟩
    · exact exists_run_refused hsettings hversion hdocument htext hconsole hmalformed

/-- An object with carriage returns between its tokens. -/
def returnsText : Text := Text.ofString "\x7b\r\n\"id\":\r1\x7d"

/-- The object in a file, and two values in the input. -/
def returnsDesk : Desk where
  store := (Store.empty []).put [Text.ofString "in.json"]
    (.file (Encoding.Utf8.encodePassing returnsText))
  input := .bytes (Encoding.Utf8.encodePassing (Text.ofString "1\r\r2"))

/-- The interfaces of the object. -/
def returnsInterfaces : Text := Text.ofString "export interface -- \x7b\n  id: number;\n\x7d"

/-- A host of few columns that reads the arguments in the newer way, and the input as it is. -/
def narrowHost : Host := ⟨20, Markup.render 20, .newer, false⟩

/-- The file gives the interfaces of the object, printed and in a file, under names that are two hyphens.
The input gives none. -/
theorem run_agrees_with_generate_returns :
    narrowHost.run [Text.ofString "--root-name=--", Text.ofString "--", Text.ofString "in.json"] returnsDesk =
      ⟨.ok 0, returnsInterfaces ++ Text.ofString "\n", [], returnsDesk.store⟩ ∧
    (∃ content, Encoding.Utf8.encode (returnsInterfaces ++ Text.ofString "\n") = .ok content ∧
      (narrowHost.run [Text.ofString "--root-name=--", Text.ofString "--output=--", Text.ofString "--",
        Text.ofString "in.json"] returnsDesk).store.read (.ofText (Text.ofString "--")) =
          .ok content) ∧
    ∃ shown, run [] returnsDesk = ⟨.ok 1, [], shown, returnsDesk.store⟩ := by
  have hdashes : narrowHost.dialect.Allows (Text.ofString "--") := .inl rfl
  have hprinting := Settings.ofArguments_rootName (Text.ofString "in.json") hdashes
  have hwriting := Settings.ofArguments_output (Text.ofString "in.json") hdashes hdashes
  have hwaiting : Settings.ofArguments .older [] = .ok ⟨standardInput, defaultRootName, none, false⟩ := by
    rfl
  have hdocument : returnsDesk.document (Text.ofString "in.json") =
      .ok (Encoding.Utf8.encodePassing returnsText) := by rfl
  have htext : Encoding.Utf8.decode (Encoding.Utf8.encodePassing returnsText) = .ok returnsText := by
    rfl
  have hinput : Encoding.Utf8.decode (Encoding.Utf8.encodePassing (Text.ofString "1\r\r2")) =
      .ok (Text.ofString "1\r\r2") := by rfl
  have hread : Json.read returnsText = .ok (.object [(Text.ofString "id", .int 1)]) := by rfl
  have hgenerate : generate (.text returnsText) (Text.ofString "--") = .ok returnsInterfaces :=
    generate_text_eq_ok.mpr ⟨_, hread, by decide +kernel⟩
  have hencodable : ∀ c ∈ returnsInterfaces, c.isSurrogate = false := by decide +kernel
  have hwritable : returnsDesk.store.Writable (.ofText (Text.ofString "--")) :=
    ⟨[Text.ofString "--"], _, rfl, rfl⟩
  have hnarrow : narrowHost.console.ShowsPlain := showsPlain_render 20
  have hwide : Host.wide.console.ShowsPlain := showsPlain_render 1000
  obtain ⟨-, hagrees⟩ := run_agrees_with_generate hnarrow
  have hprinted :=
    ((hagrees _ _ _ _ _ hprinting rfl hdocument htext).1 _ hgenerate hencodable).1 (.inl rfl)
  obtain ⟨_, content, _, -, hcontent, -, hwritten, -⟩ :=
    ((hagrees _ _ _ _ _ hwriting rfl hdocument htext).1 _ hgenerate hencodable).2 _ rfl
      (by decide) (by decide) hwritable
  exact ⟨hprinted, ⟨content, hcontent, hwritten⟩,
    ((run_agrees_with_generate hwide).2 _ _ _ _ _ hwaiting rfl rfl hinput).2 _ _ rfl⟩

end JsonTypings.CommandLine

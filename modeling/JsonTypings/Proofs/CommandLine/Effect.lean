import JsonTypings.Proofs.CommandLine.Reporting

/-! What a run leaves in the files when the content of its input is at fault. A document that cannot
be read changes nothing. One whose interfaces cannot be encoded leaves the output empty, as that was
opened before. -/
namespace JsonTypings.CommandLine

open Files
open Encoding (Bytes EncodeError)

variable {arguments : List Text} {settings : Settings} {desk : Desk} {host : Host} {console : Console}
  {store : Store} {place : Place} {bytes : Bytes} {root output interfaces : Text}

/-! Messages -/

theorem Console.store_conclude (console : Console) (store : Store) (n : Except Escape Notice) :
    (console.conclude store n).store = store := by
  unfold conclude
  split
  · rfl
  · split <;> rfl

/-- No problem is told with the exit code of success. -/
theorem code_ne_zero_of_notice {p : Problem} {n : Notice} (h : p.notice = .ok n) : n.code ≠ 0 := by
  unfold Problem.notice at h
  split at h <;> cases h <;> simp

theorem Console.ending_conclude_ne (console : Console) (store : Store) (p : Problem) :
    (console.conclude store p.notice).ending ≠ .ok 0 := by
  cases hnotice : p.notice with
  | error e => simp [conclude]
  | ok n =>
    have hcode := code_ne_zero_of_notice hnotice
    unfold conclude
    dsimp only
    split <;> simp [hcode]

/-! Writing what cannot be encoded -/

theorem exists_encode_line_eq_error (h : ¬ interfaces.SurrogateFree) :
    ∃ e, Encoding.Utf8.encode (interfaces ++ Text.ofString "\n") = .error e := by
  have hline : ¬ (interfaces ++ Text.ofString "\n").SurrogateFree := by
    intro hfree
    exact h (surrogateFree_append.mp hfree).1
  exact Encoding.exists_encode_eq_error (by simpa [Text.SurrogateFree] using hline)

/-- The file has been made, and nothing written to it. -/
theorem writeInterfaces_eq_emptied (hleads : store.LeadsTo (.ofText output) place) {e : EncodeError}
    (he : Encoding.Utf8.encode (interfaces ++ Text.ofString "\n") = .error e) :
    console.writeInterfaces store output interfaces =
      ⟨.error (.unencodable e), [], [], store.put place (.file [])⟩ := by
  simp only [Console.writeInterfaces, hleads.write, he]
  rfl

theorem exists_writeInterfaces_eq_conclude (h : ¬ store.Writable (.ofText output)) :
    ∃ p : Problem, console.writeInterfaces store output interfaces = console.conclude store p.notice := by
  cases hwrite : store.write (.ofText output) [] with
  | error e => exact ⟨.file e, by simp only [Console.writeInterfaces, hwrite]⟩
  | ok opened =>
    obtain ⟨place, hleads, -⟩ := Store.exists_leadsTo hwrite
    exact absurd ⟨place, hleads⟩ h

/-- The place of the file that the settings ask the interfaces to be written to. -/
def Settings.OutputAt (settings : Settings) (store : Store) (place : Place) : Prop :=
  ∃ output, settings.output = some output ∧ output ≠ [] ∧ store.LeadsTo (.ofText output) place

theorem Settings.output_cases (settings : Settings) :
    (settings.output = none ∨ settings.output = some []) ∨
      ∃ output, settings.output = some output ∧ output ≠ [] := by
  match settings.output with
  | none => exact .inl (.inl rfl)
  | some [] => exact .inl (.inr rfl)
  | some (c :: output) => exact .inr ⟨c :: output, rfl, by simp⟩

theorem Settings.exists_run_eq_conclude (hversion : settings.version = false)
    (hread : (desk.document settings.file).bind (settings.interfacesOf host) = .ok interfaces)
    (hencodable : ¬ interfaces.SurrogateFree) (hplace : ∀ place, ¬ settings.OutputAt desk.store place) :
    ∃ p : Problem, settings.run desk host = host.console.conclude desk.store p.notice := by
  rcases settings.output_cases with hnone | ⟨output, houtput, hne⟩
  · obtain ⟨e, he⟩ := host.console.exists_printInterfaces_escapes desk.store hencodable
    rw [Settings.run_eq_printInterfaces hversion hread hnone, he]
    exact ⟨.unencodable e, rfl⟩
  · rw [Settings.run_eq_writeInterfaces hversion hread houtput hne]
    refine exists_writeInterfaces_eq_conclude fun hwritable => ?_
    obtain ⟨place, hleads⟩ := hwritable
    exact hplace place ⟨output, houtput, hne, hleads⟩

theorem Settings.exists_run_eq_emptied (hversion : settings.version = false)
    (hread : (desk.document settings.file).bind (settings.interfacesOf host) = .ok interfaces)
    (hencodable : ¬ interfaces.SurrogateFree) (hplace : settings.OutputAt desk.store place) :
    ∃ e, settings.run desk host = ⟨.error (.unencodable e), [], [], desk.store.put place (.file [])⟩ := by
  obtain ⟨output, houtput, hne, hleads⟩ := hplace
  obtain ⟨e, he⟩ := exists_encode_line_eq_error hencodable
  rw [Settings.run_eq_writeInterfaces hversion hread houtput hne, writeInterfaces_eq_emptied hleads he]
  exact ⟨e, rfl⟩

/-! Content at fault -/

/-- Some content gives no interfaces. -/
def Uninterpretable (root : Text) (bytes : Bytes) : Prop :=
  ∀ t interfaces, Encoding.Utf8.decode bytes = .ok t → generate (.text t) root ≠ .ok interfaces

/-- Some content gives no interfaces that could be written. -/
def AtFault (root : Text) (bytes : Bytes) : Prop :=
  ∀ t interfaces, Encoding.Utf8.decode bytes = .ok t → generate (.text t) root = .ok interfaces →
    ¬ interfaces.SurrogateFree

theorem uninterpretable_of_read {t : Text} {e : Json.ReadError}
    (htext : Encoding.Utf8.decode bytes = .ok t) (h : Json.read t = .error e) :
    Uninterpretable root bytes := by
  intro t' interfaces htext' hgenerate
  obtain rfl := Except.ok.inj (htext.symm.trans htext')
  rw [generate_text_eq_error.mpr h] at hgenerate
  cases hgenerate

theorem Uninterpretable.atFault (h : Uninterpretable root bytes) : AtFault root bytes :=
  fun t interfaces htext hgenerate => absurd hgenerate (h t interfaces htext)

/-- What is not reported when it is printed is at fault. -/
theorem Unreported.atFault (h : Unreported root bytes) : AtFault root bytes := by
  cases h with
  | tooManyDigits htext h => exact (uninterpretable_of_read htext h).atFault
  | @surrogate t document s m htext h hs hm hkey =>
    intro t' interfaces htext' hgenerate hencodable
    obtain rfl := Except.ok.inj (htext.symm.trans htext')
    obtain ⟨document', hread, rfl⟩ := generate_text_eq_ok.mp hgenerate
    obtain rfl := Except.ok.inj (h.symm.trans hread)
    exact hkey (((surrogateFree_describe root document).mp hencodable).2 s hs m hm)

theorem Settings.interfacesOf_cases (settings : Settings) (host : Host) (bytes : Bytes) :
    (∃ p, settings.interfacesOf host bytes = .error p ∧ Uninterpretable settings.rootName bytes) ∨
      ∃ t interfaces, Encoding.Utf8.decode bytes = .ok t ∧
        generate (.text t) settings.rootName = .ok interfaces ∧
        settings.interfacesOf host bytes = .ok interfaces := by
  have hyields := settings.yields_interfacesOf host bytes
  generalize settings.interfacesOf host bytes = r at hyields
  cases hyields with
  | undecodable h =>
    refine .inl ⟨_, rfl, fun t interfaces htext => ?_⟩
    rw [h] at htext
    cases htext
  | malformed htext h => exact .inl ⟨_, rfl, uninterpretable_of_read htext h⟩
  | tooManyDigits htext h => exact .inl ⟨_, rfl, uninterpretable_of_read htext h⟩
  | @described t document htext h =>
    exact .inr ⟨t, _, htext, generate_text_eq_ok.mpr ⟨document, h, rfl⟩, rfl⟩

/-- What a run does to the files when the content of its input is at fault. It fails. If the content
gives no interfaces, or there is no output that could be written, then all files stay as they were.
Otherwise an error escapes that tells of the encoding, the output is there and is empty, and all other
files stay as they were. -/
theorem run_of_atFault (hsettings : Settings.ofArguments host.dialect arguments = .ok settings)
    (hversion : settings.version = false) (hdocument : desk.document settings.file = .ok bytes)
    (hfault : AtFault settings.rootName bytes) :
    (host.run arguments desk).ending ≠ .ok 0 ∧
      (Uninterpretable settings.rootName bytes → (host.run arguments desk).store = desk.store) ∧
      ((∀ place, ¬ settings.OutputAt desk.store place) → (host.run arguments desk).store = desk.store) ∧
      ∀ t interfaces place, Encoding.Utf8.decode bytes = .ok t →
        generate (.text t) settings.rootName = .ok interfaces → settings.OutputAt desk.store place →
        (∃ e, (host.run arguments desk).ending = .error (.unencodable e)) ∧
        (host.run arguments desk).store.entry? place = some (.file []) ∧
        ∀ q, q ≠ place → (host.run arguments desk).store.entry? q = desk.store.entry? q := by
  have hread := Settings.read_eq host hdocument
  rw [run_eq_of_ofArguments hsettings]
  rcases settings.interfacesOf_cases host bytes with
    ⟨p, hp, hnone⟩ | ⟨t, interfaces, htext, hsome, hok⟩
  · rw [Settings.run_eq_conclude hversion (hread.trans hp)]
    have hstore := host.console.store_conclude desk.store p.notice
    exact ⟨Console.ending_conclude_ne _ _ p, fun _ => hstore, fun _ => hstore,
      fun t interfaces _ htext hsome => absurd hsome (hnone t interfaces htext)⟩
  · have hencodable := hfault t interfaces htext hsome
    have hread := hread.trans hok
    refine ⟨?_, fun hnone => absurd hsome (hnone t interfaces htext), fun hplace => ?_,
      fun _ _ place _ _ hplace => ?_⟩
    · by_cases hplace : ∃ place, settings.OutputAt desk.store place
      · obtain ⟨place, hplace⟩ := hplace
        obtain ⟨e, he⟩ := Settings.exists_run_eq_emptied hversion hread hencodable hplace
        simp [he, Outcome.withPlainMessages]
      · obtain ⟨p, hp⟩ :=
          Settings.exists_run_eq_conclude hversion hread hencodable (not_exists.mp hplace)
        rw [hp]
        exact Console.ending_conclude_ne _ _ p
    · obtain ⟨p, hp⟩ := Settings.exists_run_eq_conclude hversion hread hencodable hplace
      rw [hp]
      exact Console.store_conclude _ _ _
    · obtain ⟨e, he⟩ := Settings.exists_run_eq_emptied hversion hread hencodable hplace
      obtain ⟨output, -, -, hleads⟩ := hplace
      rw [he]
      refine ⟨⟨e, rfl⟩, ?_, fun q hq => hleads.entry?_put_ne [] hq⟩
      exact (Store.entry?_put (hleads.target_put []).1 (.file []) place).trans (if_pos rfl)

/-- The object with a surrogate in its key leaves an empty file. The file that is no document, read
in its turn, leaves the object as it is. -/
theorem run_of_atFault_crashDesk :
    (run [Text.ofString "in.json", Text.ofString "-o", Text.ofString "out.ts"] crashDesk).store.entry?
        [Text.ofString "out.ts"] = some (.file []) ∧
      (run [Text.ofString "out.ts", Text.ofString "-o", Text.ofString "in.json"] crashDesk).store =
        crashDesk.store := by
  have hobject : Settings.ofArguments Host.wide.dialect [Text.ofString "in.json", Text.ofString "-o",
      Text.ofString "out.ts"] =
        .ok ⟨Text.ofString "in.json", defaultRootName, some (Text.ofString "out.ts"), false⟩ := by rfl
  have hold : Settings.ofArguments Host.wide.dialect [Text.ofString "out.ts", Text.ofString "-o",
      Text.ofString "in.json"] =
        .ok ⟨Text.ofString "out.ts", defaultRootName, some (Text.ofString "in.json"), false⟩ := by rfl
  have hdecoded : Encoding.Utf8.decode (Encoding.Utf8.encodePassing surrogateText) = .ok surrogateText :=
    Encoding.Utf8.decode_encodePassing (by decide)
  have hgenerated : generate (.text surrogateText) defaultRootName =
      .ok (describe defaultRootName (.object [([CodePoint.ofNat 0xD800], .int 1)])) :=
    generate_text_eq_ok.mpr ⟨_, read_surrogateText, rfl⟩
  have hin : crashDesk.document (Text.ofString "in.json") =
      .ok (Encoding.Utf8.encodePassing surrogateText) := by rfl
  have hout : crashDesk.document (Text.ofString "out.ts") =
      .ok (Encoding.Utf8.encodePassing (Text.ofString "old")) := by rfl
  have hnone : Uninterpretable defaultRootName (Encoding.Utf8.encodePassing (Text.ofString "old")) :=
    uninterpretable_of_read (Encoding.Utf8.decode_encodePassing (by decide)) read_oldText
  obtain ⟨-, -, -, hemptied⟩ := run_of_atFault hobject rfl hin unreported_surrogateText.atFault
  obtain ⟨-, hkept, -⟩ := run_of_atFault hold rfl hout hnone.atFault
  have hplace : (Settings.mk (Text.ofString "in.json") defaultRootName (some (Text.ofString "out.ts"))
      false).OutputAt crashDesk.store [Text.ofString "out.ts"] :=
    ⟨_, rfl, by decide, _, rfl, rfl⟩
  exact ⟨(hemptied _ _ _ hdecoded hgenerated hplace).2.1, hkept hnone⟩

/-- So a run that fails over its input may lose what was in a file. -/
theorem run_loses_output :
    crashDesk.store.read (.ofText (Text.ofString "out.ts")) =
        .ok (Encoding.Utf8.encodePassing (Text.ofString "old")) ∧
      (∃ e, (run [Text.ofString "in.json", Text.ofString "-o", Text.ofString "out.ts"]
        crashDesk).ending = .error (.unencodable e)) ∧
      (run [Text.ofString "in.json", Text.ofString "-o", Text.ofString "out.ts"]
        crashDesk).store.read (.ofText (Text.ofString "out.ts")) = .ok [] := by
  exact ⟨rfl, ⟨_, rfl⟩, rfl⟩

end JsonTypings.CommandLine

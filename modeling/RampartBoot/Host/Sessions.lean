import RampartBoot.Host.Work

/-! # Sessions with the host tool

The tool never overwrites a file, so what one command has stored the commands after it find again.
-/

namespace RampartBoot.Host
open Foundation Format

variable {P ρ : Type}

def Command.outputs : Command P → List P
  | image (.sign args) => [args.output]
  | key (.generate _ output) => [output]
  | key (.public _ output) => [output]
  | _ => []

def Machine.stored [DecidableEq P] (s : Machine P ρ) (path : P) (bytes : List UInt8) :
    Machine P ρ :=
  (Function.update s.1 path (some bytes), s.2)

theorem wps_lift_of_faultless {α σ : Type} {x : Res α} (hx : Faultless x) {s : σ}
    {Q : α → σ → Prop} {E : String → σ → Prop} (hQ : ∀ a, x = .ok a → Q a s)
    (hE : (∀ a, x ≠ .ok a) → ∀ e, E e s) : wps (liftM x) Q E s := by
  rw [wps_lift]
  rcases wp_cases hx with ⟨a, rfl, -⟩ | ⟨e, rfl, -⟩
  · exact hQ a rfl
  · exact hE (fun a h => by cases h) e

theorem faultless_readArtifact {shell : Shell P} {fs : FileSystem P} {artifact : P} :
    Faultless (readArtifact shell fs artifact) := by
  unfold readArtifact Faultless
  simp only [wp_mapErr, implies_true, and_self]

section Arguments
variable {args : ImageVerifyArgs P}

theorem faultless_imageVerifyTarget : Faultless (imageVerifyTarget args) := by
  obtain ⟨artifact, epoch, v, p, h, k⟩ := args
  cases v <;> cases p <;> cases h <;> cases k <;> trivial

theorem faultless_validateKeyRoleLabel {role : String} :
    Faultless (validateKeyRoleLabel role) := by
  unfold validateKeyRoleLabel
  split <;> trivial

end Arguments

section Files
variable [DecidableEq P] {c : KeyCrates ρ} {shell : Shell P}

inductive Command.Writes (c : KeyCrates ρ) (shell : Shell P) (s : Machine P ρ) :
    Command P → P → List UInt8 → Prop
  | sign (args : ImageSignArgs P) (file : List UInt8) :
      assembleImage c.toCrates shell.toOs s.1 args.payload args.manifest args.key args.output
        args.keyId = .ok file → Writes c shell s (.image (.sign args)) args.output file
  | generate (role : String) (output : P) (pem : String) :
      validateKeyRoleLabel role = .ok () → GeneratesPem c output s pem →
      Writes c shell s (.key (.generate role output)) output (asBytes pem)
  | «public» (path output : P) (key : c.SigningKey) (pem : String) :
      ExportsPem c shell.toOs path output s.1 key pem →
      Writes c shell s (.key (.public path output)) output (asBytes pem)

/-- The write of a command fails with a part of the file stored. -/
def TearsFile (c : KeyCrates ρ) (shell : Shell P) (command : Command P) (s : Machine P ρ) : Prop :=
  ∃ path bytes, command.Writes c shell s path bytes ∧ shell.Tears s.1 path bytes

theorem extends_signImage (c : Crates) (os : Os P) (fs : FileSystem P)
    (payloadPath manifestPath keyPath outputPath : P) (keyIdOverride : Option String) :
    Extends [outputPath] fs
      (left (signImage c os payloadPath manifestPath keyPath outputPath keyIdOverride fs)) := by
  rcases hassembled : assembleImage c os fs payloadPath manifestPath keyPath outputPath
    keyIdOverride with stop | file
  · rw [signImage_of_failed hassembled]
    exact .refl _ _
  · obtain ⟨_, _, _, _, -, hin⟩ := sources_of_assembled hassembled
    cases hwrite : os.writeError fs outputPath with
    | some error =>
      obtain ⟨e, hrun⟩ := signImage_of_unwritable hassembled hwrite
      rw [hrun]
      exact extends_torn hin.absent file
    | none =>
      rw [signImage_of_written hassembled hwrite]
      have hstored := Extends.update hin.absent file
      rcases parseImage c file with stop | i
      · exact hstored
      · exact hstored

variable (c shell) in
theorem wps_inspect (artifact : P) (s : Machine P ρ) :
    wps (work c shell (.image (.inspect artifact)))
      (fun spoken t => ∃ bytes report, readArtifact shell s.1 artifact = .ok bytes ∧
        inspectImage c.toCrates bytes = .ok report ∧ spoken = (report, none) ∧ t = s)
      (fun _ t => (¬ ∃ bytes report, readArtifact shell s.1 artifact = .ok bytes ∧
        inspectImage c.toCrates bytes = .ok report) ∧ t = s) s := by
  rw [work, workImage, wps_bind, wps_get, wps_bind]
  refine wps_lift_of_faultless faultless_readArtifact (fun bytes hbytes => ?_) fun hnone _ => ?_
  swap
  · refine ⟨?_, rfl⟩
    rintro ⟨bytes, _, h, _⟩
    exact hnone bytes h
  rw [wps_bind]
  refine wps_lift_of_faultless faultless_inspectImage (fun report hreport => ?_) fun hnone _ => ?_
  · exact ⟨bytes, report, hbytes, hreport, rfl, rfl⟩
  · refine ⟨?_, rfl⟩
    rintro ⟨bytes', report, hbytes', hreport⟩
    obtain rfl := Except.ok.inj (hbytes.symm.trans hbytes')
    exact hnone report hreport

def ReportsOn (c : Crates) (shell : Shell P) (args : ImageVerifyArgs P) (fs : FileSystem P)
    (report : VerificationReport) : Prop :=
  ∃ bytes target, readArtifact shell fs args.artifact = .ok bytes ∧
    imageVerifyTarget args = .ok target ∧
    verifyImage c bytes ⟨target, args.minimumSecurityEpoch⟩ = .ok report

omit [DecidableEq P] in
theorem ReportsOn.unique {c : Crates} {args : ImageVerifyArgs P} {fs : FileSystem P}
    {report report' : VerificationReport} (h : ReportsOn c shell args fs report)
    (h' : ReportsOn c shell args fs report') : report = report' := by
  obtain ⟨bytes, target, hbytes, htarget, hreport⟩ := h
  obtain ⟨bytes', target', hbytes', htarget', hreport'⟩ := h'
  obtain rfl := Except.ok.inj (hbytes.symm.trans hbytes')
  obtain rfl := Except.ok.inj (htarget.symm.trans htarget')
  exact Except.ok.inj (hreport.symm.trans hreport')

def verifyError (report : VerificationReport) : Option String :=
  if report.isValid then none else some "image verification failed"

variable (c shell) in
theorem wps_verify (args : ImageVerifyArgs P) (s : Machine P ρ) :
    wps (work c shell (.image (.verify args)))
      (fun spoken t => ∃ report, ReportsOn c.toCrates shell args s.1 report ∧
        spoken = (formatVerificationReport report, verifyError report) ∧ t = s)
      (fun _ t => (¬ ∃ report, ReportsOn c.toCrates shell args s.1 report) ∧ t = s) s := by
  rw [work, workImage, wps_bind, wps_get, wps_bind]
  refine wps_lift_of_faultless faultless_readArtifact (fun bytes hbytes => ?_) fun hnone _ => ?_
  swap
  · refine ⟨?_, rfl⟩
    rintro ⟨_, bytes, _, h, _⟩
    exact hnone bytes h
  rw [wps_bind]
  refine wps_lift_of_faultless faultless_imageVerifyTarget (fun target htarget => ?_)
    fun hnone _ => ?_
  swap
  · refine ⟨?_, rfl⟩
    rintro ⟨_, _, target, _, h, _⟩
    exact hnone target h
  rw [wps_bind]
  refine wps_lift_of_faultless faultless_verifyImage (fun report hreport => ?_) fun hnone _ => ?_
  · exact ⟨report, ⟨bytes, target, hbytes, htarget, hreport⟩, rfl, rfl⟩
  · refine ⟨?_, rfl⟩
    rintro ⟨report, bytes', target', hbytes', htarget', hreport⟩
    obtain rfl := Except.ok.inj (hbytes.symm.trans hbytes')
    obtain rfl := Except.ok.inj (htarget.symm.trans htarget')
    exact hnone report hreport

theorem wps_generate (role : String) (output : P) (s : Machine P ρ) :
    wps (work c shell (.key (.generate role output)))
      (fun spoken t => ∃ key, Generated c output s t key ∧
        spoken = (generateReport shell role output (c.signingKeyId key), none))
      (fun _ t => LeavesTorn shell.toOs output (fun bytes => ∃ pem,
        validateKeyRoleLabel role = .ok () ∧ GeneratesPem c output s pem ∧ bytes = asBytes pem)
        s.1 t.1) s := by
  rw [work, workKey, wps_bind]
  refine wps_lift_of_faultless faultless_validateKeyRoleLabel (fun _ hrole => ?_) fun hnone _ => ?_
  · rw [wps_bind]
    refine wps_mono (wps_generatePrivateKey s) ?_ (fun _ _ h => ?_)
    · rintro _ t ⟨key, hkey, rfl⟩
      exact ⟨key, hkey, rfl⟩
    · simpa only [hrole, true_and] using h.1
  · refine .refl fun bytes h => ?_
    obtain ⟨pem, hrole, -⟩ := h
    exact hnone () hrole

variable (c shell) in
theorem wps_inspectKey (path : P) (s : Machine P ρ) :
    wps (work c shell (.key (.inspect path)))
      (fun spoken t => ∃ key, readSigningKey c.toCrates shell.toOs s.1 path = .ok key ∧
        spoken = (keyReport (c.signingKeyId key), none) ∧ t = s)
      (fun _ t => t = s ∧ ∀ key, readSigningKey c.toCrates shell.toOs s.1 path ≠ .ok key) s := by
  rw [work, workKey, wps_bind, wps_get, wps_bind, wps_lift]
  refine wp_mono wp_inspectPrivateKey ?_ (fun _ h => ⟨rfl, h⟩)
  rintro _ ⟨key, hkey, rfl⟩
  exact ⟨key, hkey, rfl, rfl⟩

theorem wps_public (path output : P) (s : Machine P ρ) :
    wps (work c shell (.key (.public path output)))
      (fun spoken t => ∃ key pem, ExportsPem c shell.toOs path output s.1 key pem ∧
        spoken = (publicReport shell output (c.signingKeyId key), none) ∧
        t = s.stored output (asBytes pem))
      (fun _ t => LeavesTorn shell.toOs output (fun bytes => ∃ key pem,
        ExportsPem c shell.toOs path output s.1 key pem ∧ bytes = asBytes pem) s.1 t.1) s := by
  rw [work, workKey, wps_bind, wps_onFst]
  refine wps_mono wps_exportPublicKey ?_ (fun _ _ h => h)
  rintro _ fs ⟨key, pem, hpem, rfl, rfl⟩
  exact ⟨key, pem, hpem, rfl, rfl⟩

omit [DecidableEq P] in
theorem tearsFile_sign {args : ImageSignArgs P} {s : Machine P ρ} :
    TearsFile c shell (.image (.sign args)) s ↔ TearsImage c.toCrates shell.toOs s.1 args.payload
      args.manifest args.key args.output args.keyId := by
  constructor
  · rintro ⟨_, file, ⟨_, _, hassembled⟩ | ⟨⟩ | ⟨⟩, htears⟩
    exact ⟨file, hassembled, htears⟩
  · rintro ⟨file, hassembled, htears⟩
    exact ⟨_, file, .sign args file hassembled, htears⟩

omit [DecidableEq P] in
theorem tearsFile_generate {role : String} {output : P} {s : Machine P ρ} :
    TearsFile c shell (.key (.generate role output)) s ↔ ∃ bytes, (∃ pem,
      validateKeyRoleLabel role = .ok () ∧ GeneratesPem c output s pem ∧ bytes = asBytes pem) ∧
        shell.Tears s.1 output bytes := by
  constructor
  · rintro ⟨_, _, ⟨⟩ | ⟨_, _, pem, hrole, hpem⟩ | ⟨⟩, htears⟩
    exact ⟨_, ⟨pem, hrole, hpem, rfl⟩, htears⟩
  · rintro ⟨_, ⟨pem, hrole, hpem, rfl⟩, htears⟩
    exact ⟨_, _, .generate role output pem hrole hpem, htears⟩

omit [DecidableEq P] in
theorem tearsFile_public {path output : P} {s : Machine P ρ} :
    TearsFile c shell (.key (.public path output)) s ↔ ∃ bytes, (∃ key pem,
      ExportsPem c shell.toOs path output s.1 key pem ∧ bytes = asBytes pem) ∧
        shell.Tears s.1 output bytes := by
  constructor
  · rintro ⟨_, _, ⟨⟩ | ⟨⟩ | ⟨_, _, key, pem, hpem⟩, htears⟩
    exact ⟨_, ⟨key, pem, hpem, rfl⟩, htears⟩
  · rintro ⟨_, ⟨key, pem, hpem, rfl⟩, htears⟩
    exact ⟨_, _, .public path output key pem hpem, htears⟩

omit [DecidableEq P] in
theorem not_tearsFile {command : Command P} {s : Machine P ρ} (h : command.outputs = []) :
    ¬ TearsFile c shell command s := by
  rintro ⟨_, _, ⟨⟩ | ⟨⟩ | ⟨⟩, -⟩ <;> cases h

/-- The commands other than `image sign` work without a panic. They add at most their outputs, and
before an error nothing but the part of a file that was stored. -/
theorem wps_work {command : Command P} (h : ∀ args, command ≠ .image (.sign args))
    (s : Machine P ρ) : wps (work c shell command)
      (fun spoken t => Extends command.outputs s.1 t.1 ∧
        (spoken.2 ≠ none → command.outputs = [] ∧ t = s))
      (fun _ t => Extends command.outputs s.1 t.1 ∧
        (t.1 = s.1 ↔ ¬ TearsFile c shell command s)) s := by
  have hsame : command.outputs = [] → Extends command.outputs s.1 s.1 ∧
      (s.1 = s.1 ↔ ¬ TearsFile c shell command s) := fun hnone =>
    ⟨.refl _ _, iff_of_true rfl (not_tearsFile hnone)⟩
  cases command with
  | selfCheck json => exact ⟨.refl _ _, fun h => absurd rfl h⟩
  | image command =>
    cases command with
    | inspect artifact =>
      refine wps_mono (wps_inspect c shell artifact s) ?_ ?_
      · rintro _ _ ⟨bytes, report, -, -, rfl, rfl⟩
        exact ⟨.refl _ _, fun h => absurd rfl h⟩
      · rintro _ _ ⟨-, rfl⟩
        exact hsame rfl
    | verify args =>
      refine wps_mono (wps_verify c shell args s) ?_ ?_
      · rintro _ _ ⟨report, -, -, rfl⟩
        exact ⟨.refl _ _, fun _ => ⟨rfl, rfl⟩⟩
      · rintro _ _ ⟨-, rfl⟩
        exact hsame rfl
    | sign args => exact absurd rfl (h args)
  | key command =>
    cases command with
    | generate role output =>
      refine wps_mono (wps_generate role output s) ?_ fun _ t ht => ?_
      · rintro _ t ⟨key, hkey, rfl⟩
        obtain ⟨pem, hpem, -, hstored⟩ := hkey.stored
        refine ⟨?_, fun h => absurd rfl h⟩
        rw [hstored]
        exact .update hpem.absent _
      · exact ⟨ht.extended, by rw [tearsFile_generate, ht.same]⟩
    | inspect path =>
      refine wps_mono (wps_inspectKey c shell path s) ?_ ?_
      · rintro _ _ ⟨key, -, rfl, rfl⟩
        exact ⟨.refl _ _, fun h => absurd rfl h⟩
      · rintro _ _ ⟨rfl, -⟩
        exact hsame rfl
    | «public» path output =>
      refine wps_mono (wps_public path output s) ?_ fun _ t ht => ?_
      · rintro _ t ⟨key, pem, hpem, rfl, rfl⟩
        exact ⟨.update hpem.absent _, fun h => absurd rfl h⟩
      · exact ⟨ht.extended, by rw [tearsFile_public, ht.same]⟩
  | bundle | trust | manifest | simulate | device | journal | recovery => exact hsame rfl

section Sign
variable {args : ImageSignArgs P} {s : Machine P ρ} {fs : FileSystem P}

theorem work_sign_of_ok {image : ParsedImage}
    (h : signImage c.toCrates shell.toOs args.payload args.manifest args.key args.output args.keyId
      s.1 = .ok image fs) : work c shell (.image (.sign args)) s =
      .ok (signReport shell args.output image, none) (fs, s.2) := by
  change EStateM.bind (onFst _) _ s = _
  rw [EStateM.bind, onFst, h]
  rfl

theorem work_sign_of_error {stop : Stop String}
    (h : signImage c.toCrates shell.toOs args.payload args.manifest args.key args.output args.keyId
      s.1 = .error stop fs) : work c shell (.image (.sign args)) s = .error stop (fs, s.2) := by
  change EStateM.bind (onFst _) _ s = _
  rw [EStateM.bind, onFst, h]

theorem main_sign_of_error {e : String}
    (h : signImage c.toCrates shell.toOs args.payload args.manifest args.key args.output args.keyId
      s.1 = .error (.ret e) fs) : main c shell (.image (.sign args)) s =
      eprintln shell (.image (.sign args)) ("error: " ++ e) 2 (fs, s.2) := by
  rw [main_eq, work_sign_of_error h]

end Sign

/-- A command adds at most its outputs, however it ends. -/
theorem extends_main (command : Command P) (s : Machine P ρ) :
    Extends command.outputs s.1 (main c shell command s).2.1 := by
  rw [main_files]
  by_cases hsign : ∃ args, command = .image (.sign args)
  · obtain ⟨args, rfl⟩ := hsign
    have hext := extends_signImage c.toCrates shell.toOs s.1 args.payload args.manifest args.key
      args.output args.keyId
    rcases hrun : signImage c.toCrates shell.toOs args.payload args.manifest args.key args.output
      args.keyId s.1 with ⟨i, fs⟩ | ⟨stop, fs⟩ <;> rw [hrun] at hext
    · rw [work_sign_of_ok hrun]
      exact hext
    · rw [work_sign_of_error hrun]
      exact hext
  · rcases main_of_wps (wps_work (fun args h => hsign ⟨args, h⟩) s) with
      ⟨text, error, t, hwork, -, ht⟩ | ⟨e, t, hwork, -, ht⟩
    · rw [hwork]
      exact ht.1
    · rw [hwork]
      exact ht.1

theorem extends_session (commands : List (Command P)) (s : Machine P ρ) :
    Extends (commands.flatMap Command.outputs) s.1 (session c shell commands s).1 :=
  Extends.foldl Prod.fst Command.outputs (fun s command => extends_main command s) commands s

variable (c shell) in
/-- Through any session every file keeps its content, and new files are only the outputs that
some command was given. -/
theorem session_keepsFiles (commands : List (Command P)) (s : Machine P ρ) :
    (∀ path bytes, s.1 path = some bytes →
      (session c shell commands s).1 path = some bytes) ∧
    ∀ path, s.1 path = none → (session c shell commands s).1 path ≠ none →
      ∃ command ∈ commands, path ∈ command.outputs := by
  have hext : Extends (commands.flatMap Command.outputs) s.1 (session c shell commands s).1 :=
    extends_session commands s
  refine ⟨hext.kept, fun path habsent hpresent => ?_⟩
  by_contra hnot
  refine hpresent ((hext.only path fun hmem => hnot ?_).trans habsent)
  exact List.mem_flatMap.mp hmem

/-- A command that ends with the code two leaves the files as they were, except where the signer
was brought to write an image under a key ID that is not the one of its key, or where a write
failed after it had created its file. -/
theorem main_failed (c : KeyCrates ρ) (hc : c.SigningLawful) (shell : Shell P)
    (command : Command P) (s t : Machine P ρ) (h : main c shell command s = (.code 2, t)) :
    t.1 = s.1 ↔ ¬ (∃ args, command = .image (.sign args) ∧ WritesForeignKeyId c.toCrates shell.toOs
        s.1 args.payload args.manifest args.key args.output args.keyId) ∧
      ¬ TearsFile c shell command s := by
  have hfiles : t.1 = (left (work c shell command s)).1 := by rw [← main_files, h]
  by_cases hsign : ∃ args, command = .image (.sign args)
  · obtain ⟨args, rfl⟩ := hsign
    simp only [Command.image.injEq, ImageCommand.sign.injEq, exists_eq_left']
    rw [tearsFile_sign, hfiles]
    rcases hrun : signImage c.toCrates shell.toOs args.payload args.manifest args.key args.output
      args.keyId s.1 with ⟨i, fs⟩ | ⟨e | f, fs⟩
    · rw [main_eq, work_sign_of_ok hrun] at h
      exact absurd (congrArg Prod.fst h) concluded_none_ne_two
    · rw [work_sign_of_error hrun]
      change fs = s.1 ↔ _
      constructor
      · rintro rfl
        have hatomic := signsAtomically_of_failed hrun
        exact ⟨fun hforeign => not_signsAtomically hc hforeign hatomic,
          fun htorn => not_signsAtomically_of_torn htorn hatomic⟩
      · exact fun ⟨hown, huntorn⟩ => (signsAtomically_of_own hc hown huntorn).failed e fs hrun
    · rw [main_eq, work_sign_of_error hrun] at h
      cases h
  · have hforeign : ¬ ∃ args, command = .image (.sign args) ∧ WritesForeignKeyId c.toCrates
        shell.toOs s.1 args.payload args.manifest args.key args.output args.keyId :=
      fun ⟨args, heq, _⟩ => hsign ⟨args, heq⟩
    rw [hfiles]
    rcases main_of_wps (wps_work (fun args h => hsign ⟨args, h⟩) s) with
      ⟨text, error, u, hwork, hmain, -, hu⟩ | ⟨e, u, hwork, hmain, hu⟩
    · rw [hmain] at h
      obtain ⟨hnone, rfl⟩ := hu (by
        rintro rfl
        exact concluded_none_ne_two (congrArg Prod.fst h))
      rw [hwork]
      exact iff_of_true rfl ⟨hforeign, not_tearsFile hnone⟩
    · rw [hwork]
      exact hu.2.trans ⟨fun h => ⟨hforeign, h⟩, And.right⟩

def sampleOverwrite : ImageSignArgs String := { sampleSign with output := "payload.bin" }

/-- A disk on which every write fails behind 128 bytes. -/
def sampleFullShell : Shell String :=
  { sampleShell with
    writeError := fun _ _ => some "No space left on device (os error 28)"
    writeTorn := fun _ _ _ => some 128 }

/-- The refusal to overwrite changes nothing, the full disk keeps a part of the image. -/
theorem main_failed_sample :
    (main sampleKeyCrates sampleShell (.image (.sign sampleOverwrite)) sampleMachine).2.1 =
      sampleFiles ∧
    ¬ TearsFile sampleKeyCrates sampleShell (.image (.sign sampleOverwrite)) sampleMachine ∧
    ∃ t, main sampleKeyCrates sampleFullShell (.image (.sign sampleSign)) sampleMachine =
      (.code 2, t) ∧ t.1 ≠ sampleFiles := by
  refine ⟨rfl, ((main_failed sampleKeyCrates sampleCrates_signingLawful sampleShell
    (.image (.sign sampleOverwrite)) sampleMachine _ rfl).mp rfl).2, ?_⟩
  have hin : SigningSources sampleCrates sampleFullShell.toOs sampleFiles "payload.bin"
      "manifest.toml" "release-test-key.pem" "firmware.rampart" none sampleImage.payload
      sampleDocument () (sampleCrates.signingKeyId ()) := { sampleInputs.sources with }
  obtain ⟨image, m, -, -, -, hassembled⟩ :=
    (assembleImage_of_sources hin sampleCrates_signingLawful).1 (by unfold FitsImage; decide)
  obtain ⟨e, hrun⟩ := signImage_of_unwritable hassembled rfl
  have hmain : main sampleKeyCrates sampleFullShell (.image (.sign sampleSign)) sampleMachine =
      eprintln sampleFullShell (.image (.sign sampleSign)) ("error: " ++ e) 2
        (sampleFullShell.torn sampleFiles "firmware.rampart" image.bytes, sampleMachine.2) :=
    main_sign_of_error hrun
  rcases eprintln_cases sampleFullShell (.image (.sign sampleSign)) ("error: " ++ e)
    (sampleFullShell.torn sampleFiles "firmware.rampart" image.bytes, sampleMachine.2) with
    ⟨-, hcode⟩ | ⟨hfails, -⟩
  · rw [hcode] at hmain
    refine ⟨_, hmain, fun hsame => ?_⟩
    refine ((main_failed sampleKeyCrates sampleCrates_signingLawful sampleFullShell
      (.image (.sign sampleSign)) sampleMachine _ hmain).mp hsame).2 ?_
    exact tearsFile_sign.mpr ⟨_, hassembled, ⟨_, rfl⟩, by simp [sampleFullShell]⟩
  · exact absurd (Nat.le_refl _) hfails

/-- The target options are given all together or not at all. -/
inductive TargetArgs (args : ImageVerifyArgs P) : Option DeviceTarget → Prop
  | absent : args.vendorId = none → args.productId = none → args.hardwareFamily = none →
      args.componentId = none → TargetArgs args none
  | given (target : DeviceTarget) : args.vendorId = some target.vendorId →
      args.productId = some target.productId →
      args.hardwareFamily = some target.hardwareFamily →
      args.componentId = some target.componentId → TargetArgs args (some target)

omit [DecidableEq P] in
theorem imageVerifyTarget_eq_ok_iff {args : ImageVerifyArgs P} {target : Option DeviceTarget} :
    imageVerifyTarget args = .ok target ↔ TargetArgs args target := by
  constructor
  · obtain ⟨artifact, epoch, v, p, h, k⟩ := args
    rcases v with - | v <;> rcases p with - | p <;> rcases h with - | h <;> rcases k with - | k
    all_goals intro heq
    all_goals cases heq
    · exact .absent rfl rfl rfl rfl
    · exact .given ⟨v, p, h, k⟩ rfl rfl rfl rfl
  · rintro (⟨hv, hp, hh, hk⟩ | ⟨target, hv, hp, hh, hk⟩)
    · rw [imageVerifyTarget, hv, hp, hh, hk]
      rfl
    · rw [imageVerifyTarget, hv, hp, hh, hk]
      rfl

/-- What `image verify` demands of the files and its options. -/
def AcceptsArtifact (c : Crates) (shell : Shell P) (args : ImageVerifyArgs P) (fs : FileSystem P) :
    Prop :=
  ∃ g target, shell.read fs args.artifact = .ok (Image.bytes g) ∧ TargetArgs args target ∧
    Verifies c ⟨target, args.minimumSecurityEpoch⟩ g

omit [DecidableEq P] in
theorem exists_valid_report_iff {args : ImageVerifyArgs P} {fs : FileSystem P} :
    (∃ report, ReportsOn c.toCrates shell args fs report ∧ report.isValid = true) ↔
      AcceptsArtifact c.toCrates shell args fs := by
  constructor
  · rintro ⟨report, ⟨bytes, target, hbytes, htarget, hreport⟩, hvalid⟩
    obtain ⟨g, rfl, hg⟩ := verifies_of_report hreport hvalid
    exact ⟨g, target, mapErr_eq_ok_iff.mp hbytes, imageVerifyTarget_eq_ok_iff.mp htarget, hg⟩
  · rintro ⟨g, target, hbytes, htarget, hg⟩
    obtain ⟨report, hreport, hvalid⟩ := exists_report_of_verifies hg
    exact ⟨report, ⟨_, target, mapErr_eq_ok_iff.mpr hbytes,
      imageVerifyTarget_eq_ok_iff.mpr htarget, hreport⟩, hvalid⟩

def validResult : String := "\n\nResult\n  valid\n"

omit [DecidableEq P] in
theorem exists_validResult_iff {report : VerificationReport} :
    (∃ body, formatVerificationReport report = body ++ validResult) ↔ report.isValid = true := by
  constructor
  · rintro ⟨body, htext⟩
    by_contra hinvalid
    -- the third character from the end tells the two verdicts apart
    have hthird := congrArg (fun text => text.toList.reverse[2]?) htext
    simp only [formatVerificationReport, if_neg hinvalid, validResult, String.toList_append,
      List.reverse_append] at hthird
    cases hthird
  · intro hvalid
    refine ⟨formatImageReport report.image (some report.payloadDigestValid)
      (some report.signatureValid) ++ ("\nPolicy Checks\n  target binding      " ++
        statusWord report.targetValid ++ "\n  security epoch      " ++
        statusWord report.securityEpochValid), ?_⟩
    simp only [formatVerificationReport, if_pos hvalid, validResult, String.append_assoc]
    rfl

variable (c shell) in
theorem main_inspect_cases (artifact : P) (s : Machine P ρ) :
    (∃ bytes report, readArtifact shell s.1 artifact = .ok bytes ∧
      inspectImage c.toCrates bytes = .ok report ∧
      main c shell (.image (.inspect artifact)) s =
        concluded shell (.image (.inspect artifact)) report none s) ∨
    (¬ ∃ bytes report, readArtifact shell s.1 artifact = .ok bytes ∧
      inspectImage c.toCrates bytes = .ok report) ∧ ∃ e,
      main c shell (.image (.inspect artifact)) s =
        eprintln shell (.image (.inspect artifact)) e 2 s := by
  rcases main_of_wps (wps_inspect c shell artifact s) with
    ⟨_, _, _, -, hmain, bytes, report, hbytes, hreport, heq, rfl⟩ | ⟨e, _, -, hmain, hnone, rfl⟩
  · rw [(Prod.mk.inj heq).1, (Prod.mk.inj heq).2] at hmain
    exact .inl ⟨bytes, report, hbytes, hreport, hmain⟩
  · exact .inr ⟨hnone, _, hmain⟩

theorem main_inspect_of_ok {artifact : P} {s : Machine P ρ} {bytes : List UInt8} {report : String}
    (hbytes : readArtifact shell s.1 artifact = .ok bytes)
    (hreport : inspectImage c.toCrates bytes = .ok report) :
    main c shell (.image (.inspect artifact)) s =
      concluded shell (.image (.inspect artifact)) report none s := by
  rcases main_inspect_cases c shell artifact s with
    ⟨bytes', report', hbytes', hreport', hmain⟩ | ⟨hnone, -⟩
  · obtain rfl := Except.ok.inj (hbytes.symm.trans hbytes')
    obtain rfl := Except.ok.inj (hreport.symm.trans hreport')
    exact hmain
  · exact absurd ⟨_, _, hbytes, hreport⟩ hnone

variable (c shell) in
/-- `image verify` prints a report, whose verdict decides how it ends, and without one it fails. -/
theorem main_verify_cases (args : ImageVerifyArgs P) (s : Machine P ρ) :
    (∃ report, ReportsOn c.toCrates shell args s.1 report ∧
      main c shell (.image (.verify args)) s = concluded shell (.image (.verify args))
        (formatVerificationReport report) (verifyError report) s) ∨
    (¬ ∃ report, ReportsOn c.toCrates shell args s.1 report) ∧ ∃ e,
      main c shell (.image (.verify args)) s =
        eprintln shell (.image (.verify args)) e 2 s := by
  rcases main_of_wps (wps_verify c shell args s) with
    ⟨_, _, _, -, hmain, report, hreport, heq, rfl⟩ | ⟨e, _, -, hmain, hnone, rfl⟩
  · rw [(Prod.mk.inj heq).1, (Prod.mk.inj heq).2] at hmain
    exact .inl ⟨report, hreport, hmain⟩
  · exact .inr ⟨hnone, _, hmain⟩

omit [DecidableEq P] in
theorem verifyError_eq_none_iff {report : VerificationReport} :
    verifyError report = none ↔ report.isValid = true := by
  unfold verifyError
  split_ifs with h <;> simp [h]

omit [DecidableEq P] in
/-- How `image verify` ends on an artifact that is to pass exactly if `accepted` holds: it changes
no file, it panics only over a stream that fails, and else its code and its last lines agree. -/
structure EndsVerify (shell : Shell P) (accepted : Prop) (s : Machine P ρ) (e : Exit)
    (t : Machine P ρ) : Prop where
  files : t.1 = s.1
  ends : e = .code 0 ∨ e = .code 2 ∨ e = .panic .print ∧ shell.StreamFails s
  code : e ≠ .panic .print → (e = .code 0 ↔ accepted)
  text : e ≠ .panic .print →
    (e = .code 0 ↔ ∃ body, t.2.stdout = s.2.stdout ++ (body ++ validResult))

omit [DecidableEq P] in
/-- While the streams take everything the code alone tells. -/
theorem EndsVerify.code_iff {accepted : Prop} {s : Machine P ρ} {e : Exit} {t : Machine P ρ}
    (h : EndsVerify shell accepted s e t) (hstreams : ¬ shell.StreamFails s) :
    e = .code 0 ↔ accepted := by
  refine h.code fun hpanic => ?_
  rcases h.ends with hcode | hcode | ⟨-, hfails⟩
  · cases hcode.symm.trans hpanic
  · cases hcode.symm.trans hpanic
  · exact hstreams hfails

omit [DecidableEq P] in
theorem eprintln_ends {command : Command P} {text : String} {s u : Machine P ρ}
    (hu : u.2.stderr = s.2.stderr) : (eprintln shell command text 2 u).1 = .code 2 ∨
      (eprintln shell command text 2 u).1 = .panic .print ∧ shell.StreamFails s := by
  rcases eprintln_cases shell command text u with ⟨-, h⟩ | ⟨hfails, h⟩
  · exact .inl (congrArg Prod.fst h)
  · rw [Shell.Eprints, hu] at hfails
    exact .inr ⟨h, _, .inr hfails⟩

omit [DecidableEq P] in
theorem endsVerify_of_error (command : Command P) (text : String) (s : Machine P ρ) :
    EndsVerify shell False s (eprintln shell command text 2 s).1
      (eprintln shell command text 2 s).2 where
  files := eprintln_files _ _
  ends := .inr (eprintln_ends rfl)
  code _ := iff_of_false eprintln_ne_zero id
  text _ := by
    refine iff_of_false eprintln_ne_zero fun ⟨body, hsame⟩ => ?_
    rw [eprintln_stdout] at hsame
    have hlen := congrArg String.length hsame
    simp only [String.length_append] at hlen
    have hpos : 0 < validResult.length := by decide
    omega

omit [DecidableEq P] in
theorem endsVerify_of_report (command : Command P) (report : VerificationReport)
    (s : Machine P ρ) :
    EndsVerify shell (report.isValid = true) s
      (concluded shell command (formatVerificationReport report) (verifyError report) s).1
      (concluded shell command (formatVerificationReport report) (verifyError report) s).2 := by
  have hresult : (∃ body, s.2.stdout ++ formatVerificationReport report =
      s.2.stdout ++ (body ++ validResult)) ↔ report.isValid = true := by
    simp only [String.append_right_inj]
    exact exists_validResult_iff
  by_cases hprints : shell.Prints s (formatVerificationReport report)
  · by_cases hvalid : report.isValid = true
    · rw [verifyError_eq_none_iff.mpr hvalid, concluded_of_prints hprints]
      exact ⟨rfl, .inl rfl, fun _ => iff_of_true rfl hvalid,
        fun _ => iff_of_true rfl (hresult.mpr hvalid)⟩
    · rw [verifyError, if_neg hvalid, concluded_some_of_prints hprints]
      have herror : EndsVerify shell False (s.printed (formatVerificationReport report)) _ _ :=
        endsVerify_of_error command ("error: " ++ "image verification failed") _
      refine ⟨herror.files, .inr (eprintln_ends rfl), fun _ => iff_of_false eprintln_ne_zero hvalid,
        fun _ => iff_of_false eprintln_ne_zero fun h => hvalid (hresult.mp ?_)⟩
      rwa [eprintln_stdout] at h
  · have hpanic : (concluded shell command (formatVerificationReport report) (verifyError report)
        s).1 = .panic .print := concluded_of_not_prints hprints
    exact ⟨concluded_files, .inr (.inr ⟨hpanic, _, .inl hprints⟩), fun h => absurd hpanic h,
      fun h => absurd hpanic h⟩

/-- `image verify` changes no file, and it ends with code zero or two unless one of the streams
fails. Where it does not panic, it ends with zero exactly if the artifact meets the documented
requirements, and exactly if the text that it prints says so at its end. -/
theorem main_verify (c : KeyCrates ρ) (shell : Shell P) (args : ImageVerifyArgs P)
    (s : Machine P ρ) :
    EndsVerify shell (AcceptsArtifact c.toCrates shell args s.1) s
      (main c shell (.image (.verify args)) s).1 (main c shell (.image (.verify args)) s).2 := by
  rw [← propext exists_valid_report_iff]
  rcases main_verify_cases c shell args s with ⟨report, hreport, hmain⟩ | ⟨hnone, e, hmain⟩
  · have haccepts : (∃ report, ReportsOn c.toCrates shell args s.1 report ∧
        report.isValid = true) ↔ report.isValid = true :=
      ⟨fun ⟨_, h, hvalid⟩ => h.unique hreport ▸ hvalid, fun h => ⟨report, hreport, h⟩⟩
    rw [hmain, propext haccepts]
    exact endsVerify_of_report _ report s
  · have hrejects : (∃ report, ReportsOn c.toCrates shell args s.1 report ∧
        report.isValid = true) ↔ False :=
      iff_of_false (fun ⟨report, hreport, _⟩ => hnone ⟨report, hreport⟩) id
    rw [hmain, propext hrejects]
    exact endsVerify_of_error _ e s

end Files

end RampartBoot.Host

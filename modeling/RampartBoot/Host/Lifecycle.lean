import RampartBoot.Host.Sessions

/-! # What the tool has stored stays usable

A generated key and a signed artifact are found again by every later command of a session, as they
were stored.
-/

namespace RampartBoot.Host
open Foundation Format

variable {P ρ : Type} [DecidableEq P]

theorem session_readToString {c : KeyCrates ρ} {shell : Shell P} {commands : List (Command P)}
    {s : Machine P ρ} {path : P} {text : String} (h : s.1 path = some (asBytes text))
    (hread : shell.readError (session c shell commands s).1 path = none) :
    shell.readToString (session c shell commands s).1 path = .ok text :=
  readToString_of_file hread ((extends_session commands s).kept path _ h)

/-- The key that `key generate` has announced and stored is the one that `key inspect` shows and
whose public half `key public` exports, after any session in between. -/
theorem generatedKey_persists (c : KeyCrates ρ) (shell : Shell P)
    (hpem : ∀ key pem, c.toPkcs8Pem key = .ok pem → c.fromPkcs8Pem pem = .ok key)
    (role : String) (path : P) (s t : Machine P ρ)
    (hgenerate : main c shell (.key (.generate role path)) s = (.code 0, t)) :
    ∃ key, t.2.stdout = s.2.stdout ++ generateReport shell role path (c.signingKeyId key) ∧
      ∀ commands u, session c shell commands t = u → shell.readError u.1 path = none →
        main c shell (.key (.inspect path)) u =
          concluded shell (.key (.inspect path)) (keyReport (c.signingKeyId key)) none u ∧
        ∀ output v, main c shell (.key (.public path output)) u = (.code 0, v) →
          ∃ pem, c.toPublicKeyPem (c.verifyingKey key) = .ok pem ∧ u.1 output = none ∧
            v = (u.stored output (asBytes pem)).printed
              (publicReport shell output (c.signingKeyId key)) := by
  obtain ⟨text, u, hwork, -, rfl⟩ := main_eq_zero_iff.mp hgenerate
  obtain ⟨key, hkey, hspoken⟩ := (wps_of_eq_ok hwork).mp (wps_generate role path s)
  obtain ⟨pem, hnew, hencode, hstored⟩ := hkey.stored
  refine ⟨key, ?_, ?_⟩
  · change u.2.stdout ++ text = _
    rw [hkey.streams.1, (Prod.mk.inj hspoken).1]
  · rintro commands v rfl hread
    have hfile : (u.printed text).1 path = some (asBytes pem) := by
      change u.1 path = _
      rw [hstored, Function.update_self]
    have hfound : readSigningKey c.toCrates shell.toOs (session c shell commands
        (u.printed text)).1 path = .ok key :=
      readSigningKey_eq_ok_iff.mpr ⟨pem, session_readToString hfile hread, hpem key pem hencode⟩
    refine ⟨?_, fun output v hexport => ?_⟩
    · rcases main_of_wps (wps_inspectKey c shell path
        (session c shell commands (u.printed text))) with
        ⟨_, _, _, -, hmain, key', hkey', heq, rfl⟩ | ⟨e, v, -, -, -, hnone⟩
      · rw [hmain, (Prod.mk.inj heq).1, (Prod.mk.inj heq).2,
          Except.ok.inj (hfound.symm.trans hkey')]
      · exact absurd hfound (hnone key)
    · obtain ⟨_, w, hwork', -, rfl⟩ := main_eq_zero_iff.mp hexport
      obtain ⟨key', pem', hexports, heq, rfl⟩ := (wps_of_eq_ok hwork').mp
        (wps_public path output (session c shell commands (u.printed text)))
      obtain rfl := Except.ok.inj (hfound.symm.trans hexports.keyFile)
      exact ⟨pem', hexports.encoded, hexports.absent, by rw [(Prod.mk.inj heq).1]⟩

theorem sampleShell_prints {s : Machine String ρ} {text : String} : sampleShell.Prints s text :=
  Nat.le_refl _

theorem sampleShell_streams {s : Machine String ρ} : ¬ sampleShell.StreamFails s := by
  rintro ⟨text, hfails | hfails⟩
  · exact hfails (Nat.le_refl _)
  · exact hfails (Nat.le_refl _)

theorem generatedKey_persists_sample : ∃ key, (main sampleKeyCrates sampleShell
      (.key (.generate "RELEASE" "new.pem")) sampleMachine).2.2.stdout =
        sampleMachine.2.stdout ++
          generateReport sampleShell "RELEASE" "new.pem" (sampleCrates.signingKeyId key) ∧
    main sampleKeyCrates sampleShell (.key (.inspect "new.pem"))
        (session sampleKeyCrates sampleShell [.selfCheck true]
          (main sampleKeyCrates sampleShell (.key (.generate "RELEASE" "new.pem"))
            sampleMachine).2) =
      (.code 0, Machine.printed (session sampleKeyCrates sampleShell [.selfCheck true]
          (main sampleKeyCrates sampleShell (.key (.generate "RELEASE" "new.pem"))
            sampleMachine).2) (keyReport (sampleCrates.signingKeyId key))) := by
  obtain ⟨key, htext, hlater⟩ := generatedKey_persists sampleKeyCrates sampleShell
    (fun _ _ h => by cases h; simp [sampleKeyCrates, sampleCrates]; rfl) "RELEASE" "new.pem"
    sampleMachine _ (main_eq_zero_iff.mpr ⟨_, _, rfl, Nat.le_refl _, rfl⟩)
  refine ⟨key, htext, ?_⟩
  rw [← concluded_of_prints sampleShell_prints]
  exact (hlater [.selfCheck true] _ rfl rfl).1

def ManifestDocument.Admits (document : ManifestDocument) (options : VerificationOptions) : Prop :=
  (∀ target, options.deviceTarget = some target →
    document.vendorId = target.vendorId ∧ document.productId = target.productId ∧
      document.hardwareFamily = target.hardwareFamily ∧
      document.componentId = target.componentId) ∧
  options.minimumSecurityEpoch ≤ document.securityEpoch

/-- What a signing that succeeds has read, and the image that it has stored. -/
structure SignedArtifact (c : KeyCrates ρ) (hc : c.SigningLawful) (shell : Shell P)
    (args : ImageSignArgs P) (s t : Machine P ρ) (document : ManifestDocument)
    (key : c.SigningKey) (image : Image) (m : RampartManifest) : Prop where
  sources : SigningSources c.toCrates shell.toOs s.1 args.payload args.manifest args.key args.output
    args.keyId image.payload document key (c.signingKeyId key)
  manifest : document.intoManifest (UInt32.ofNat image.payload.length) (c.sha256 image.payload)
    (c.signingKeyId key) = .ok m
  shown : m.Shows image.manifest
  publicKey : image.publicKey = hc.publicKey key
  signature : image.signature = c.signatureToBytes (c.sign key image.signedRegion)
  left : t = (s.stored args.output image.bytes).printed
    (signReport shell args.output (parsedImageOf image m))

theorem exists_signedArtifact {c : KeyCrates ρ} (hc : c.SigningLawful) {shell : Shell P}
    {args : ImageSignArgs P} {s t : Machine P ρ}
    (hsign : main c shell (.image (.sign args)) s = (.code 0, t)) :
    ∃ document key image m, SignedArtifact c hc shell args s t document key image m := by
  obtain ⟨text, u, hwork, -, rfl⟩ := main_eq_zero_iff.mp hsign
  rcases hrun : signImage c.toCrates shell.toOs args.payload args.manifest args.key args.output
    args.keyId s.1 with ⟨i, fs⟩ | ⟨stop, fs⟩
  swap
  · rw [work_sign_of_error hrun] at hwork
    cases hwork
  rw [work_sign_of_ok hrun] at hwork
  cases hwork
  rcases hassembled : assembleImage c.toCrates shell.toOs s.1 args.payload args.manifest args.key
    args.output args.keyId with stop | file
  · rw [signImage_of_failed hassembled] at hrun
    cases hrun
  cases hwrite : shell.writeError s.1 args.output with
  | some error =>
    obtain ⟨e, hfail⟩ := signImage_of_unwritable hassembled hwrite
    rw [hfail] at hrun
    cases hrun
  | none =>
    obtain ⟨payload, document, key, keyId, -, hin⟩ := sources_of_assembled hassembled
    obtain ⟨m, g, hm, hg, hid, -⟩ := hin.exists_manifest
    have hfits : 64 + g.size + payload.length < 2 ^ 32 := by
      by_contra hlarge
      obtain ⟨e, he⟩ := assembleImage_large hin hc hm hg hlarge
      rw [hassembled] at he
      cases he
    obtain ⟨image, rfl, rfl, hpub, hsig, himage⟩ := exists_assembled hin hc hm hg hfits
    obtain rfl := Except.ok.inj (hassembled.symm.trans himage)
    rw [signImage_of_written hassembled hwrite] at hrun
    rcases hparse : parseImage c.toCrates image.bytes with stop | j
    · rw [hparse] at hrun
      cases hrun
    · rw [hparse] at hrun
      cases hrun
      have hown : image.manifest.keyId = c.signingKeyId key :=
        (parseImage_assembled hc hg hpub).mp ⟨i, hparse⟩
      obtain rfl : keyId = c.signingKeyId key := hid.symm.trans hown
      have hkey : ∃ point, c.fromSec1Bytes image.publicKey.toList = some point ∧
          c.keyIdOf (c.toEncodedPoint point) = image.manifest.keyId :=
        ⟨c.verifyingKey key, by rw [hpub, hc.publicKey_toList, hc.point_decode], hown.symm⟩
      obtain rfl := Except.ok.inj (hparse.symm.trans (parseImage_bytes hg hkey))
      exact ⟨document, key, image, m, hin, hm, hg, hpub, hsig, rfl⟩

theorem VerificationReport.Attests.isValid_iff {report : VerificationReport}
    {document : ManifestDocument} {options : VerificationOptions}
    (h : report.Attests document options) : report.isValid = true ↔ document.Admits options := by
  simp only [VerificationReport.isValid, h.payloadDigestValid, h.signatureValid, Bool.true_and,
    Bool.and_eq_true, h.targetValid, h.securityEpochValid, ManifestDocument.Admits]

section Artifact
variable {c : KeyCrates ρ} {hc : c.SigningLawful} {shell : Shell P} {args : ImageSignArgs P}
  {s t : Machine P ρ} {document : ManifestDocument} {key : c.SigningKey} {image : Image}
  {m : RampartManifest}

theorem SignedArtifact.keyId (h : SignedArtifact c hc shell args s t document key image m) :
    image.manifest.keyId = c.signingKeyId key := by
  obtain ⟨-, hcompleted, -⟩ := describes_of_intoManifest h.manifest
  exact h.shown.keyId.symm.trans hcompleted.keyId

/-- The artifact is read in any later state of a session as it was stored. -/
theorem SignedArtifact.read (h : SignedArtifact c hc shell args s t document key image m)
    (commands : List (Command P))
    (hread : shell.readError (session c shell commands t).1 args.output = none) :
    shell.read (session c shell commands t).1 args.output = .ok image.bytes := by
  refine read_of_file hread ((extends_session commands t).kept args.output _ ?_)
  rw [h.left]
  exact Function.update_self ..

theorem SignedArtifact.attests (h : SignedArtifact c hc shell args s t document key image m)
    (options : VerificationOptions) :
    ∃ report, verifyImage c.toCrates image.bytes options = .ok report ∧
      report.Attests document options := by
  obtain ⟨report, hreport, himage, hr⟩ :=
    exists_report_of_signed hc h.shown h.publicKey h.signature h.keyId options
  exact ⟨report, hreport, hr.attests himage h.manifest h.shown rfl (hc.verify_sign _ _)⟩

theorem SignedArtifact.inspected (h : SignedArtifact c hc shell args s t document key image m) :
    inspectImage c.toCrates image.bytes =
      .ok (formatImageReport (parsedImageOf image m) (some true) none) := by
  obtain ⟨-, hcompleted, -⟩ := describes_of_intoManifest h.manifest
  have hkey : ∃ point, c.fromSec1Bytes image.publicKey.toList = some point ∧
      c.keyIdOf (c.toEncodedPoint point) = image.manifest.keyId :=
    ⟨c.verifyingKey key, by rw [h.publicKey, hc.publicKey_toList, hc.point_decode], h.keyId.symm⟩
  have hdigest : c.sha256 image.payload = image.manifest.payloadDigest :=
    hcompleted.payloadDigest.symm.trans h.shown.payloadDigest
  refine inspectImage_eq_ok_iff.mpr ⟨image, _, rfl, parseImage_bytes h.shown hkey,
    parsedImageOf_shows h.shown, ?_⟩
  rw [hdigest, beq_self_eq_true]

theorem SignedArtifact.main_inspect (h : SignedArtifact c hc shell args s t document key image m)
    (commands : List (Command P))
    (hread : shell.readError (session c shell commands t).1 args.output = none) :
    main c shell (.image (.inspect args.output)) (session c shell commands t) =
      concluded shell (.image (.inspect args.output))
        (formatImageReport (parsedImageOf image m) (some true) none) none
        (session c shell commands t) :=
  main_inspect_of_ok (mapErr_eq_ok_iff.mpr (h.read commands hread)) h.inspected

theorem SignedArtifact.accepts_iff (h : SignedArtifact c hc shell args s t document key image m)
    (commands : List (Command P))
    (hread : shell.readError (session c shell commands t).1 args.output = none)
    {options : ImageVerifyArgs P} {target : Option DeviceTarget}
    (hartifact : options.artifact = args.output) (htarget : TargetArgs options target) :
    AcceptsArtifact c.toCrates shell options (session c shell commands t).1 ↔
      document.Admits ⟨target, options.minimumSecurityEpoch⟩ := by
  obtain ⟨report, hreport, hattests⟩ := h.attests ⟨target, options.minimumSecurityEpoch⟩
  have hreports : ReportsOn c.toCrates shell options (session c shell commands t).1 report :=
    ⟨image.bytes, target, hartifact ▸ mapErr_eq_ok_iff.mpr (h.read commands hread),
      imageVerifyTarget_eq_ok_iff.mpr htarget, hreport⟩
  rw [← exists_valid_report_iff, ← hattests.isValid_iff]
  exact ⟨fun ⟨_, h', hvalid⟩ => h'.unique hreports ▸ hvalid, fun h' => ⟨report, hreports, h'⟩⟩

end Artifact

/-- After a signing that succeeds the artifact holds the payload and the document that were read,
under the ID of the key. Any session later `image inspect` shows it with a right digest, and
`image verify` passes it for exactly the targets and epochs that the document admits. -/
theorem signedArtifact_persists (c : KeyCrates ρ) (hc : c.SigningLawful) (shell : Shell P)
    (args : ImageSignArgs P) (s t : Machine P ρ)
    (hsign : main c shell (.image (.sign args)) s = (.code 0, t)) :
    ∃ payload document key, ∃ image : ParsedImage,
      SigningSources c.toCrates shell.toOs s.1 args.payload args.manifest args.key args.output
        args.keyId payload document key (c.signingKeyId key) ∧
      document.Describes image.manifest ∧
      image.manifest.Completed (UInt32.ofNat payload.length) (c.sha256 payload)
        (c.signingKeyId key) ∧
      t.2.stdout = s.2.stdout ++ signReport shell args.output image ∧
      ∀ commands u, session c shell commands t = u → shell.readError u.1 args.output = none →
        main c shell (.image (.inspect args.output)) u = concluded shell
          (.image (.inspect args.output)) (formatImageReport image (some true) none) none u ∧
        ∀ options target, options.artifact = args.output → TargetArgs options target →
          EndsVerify shell (document.Admits ⟨target, options.minimumSecurityEpoch⟩) u
            (main c shell (.image (.verify options)) u).1
            (main c shell (.image (.verify options)) u).2 := by
  obtain ⟨document, key, image, m, h⟩ := exists_signedArtifact hc hsign
  obtain ⟨hdescribes, hcompleted, -⟩ := describes_of_intoManifest h.manifest
  refine ⟨image.payload, document, key, parsedImageOf image m, h.sources, hdescribes, hcompleted,
    ?_, ?_⟩
  · rw [h.left]
    rfl
  · rintro commands u rfl hread
    refine ⟨h.main_inspect commands hread, fun options target hartifact htarget => ?_⟩
    rw [← h.accepts_iff commands hread hartifact htarget]
    exact main_verify c shell options _

theorem exists_main_sign {c : KeyCrates ρ} (hc : c.SigningLawful) {shell : Shell P}
    {args : ImageSignArgs P} {s : Machine P ρ} {payload : List UInt8}
    {document : ManifestDocument} {key : c.SigningKey}
    (hin : SigningSources c.toCrates shell.toOs s.1 args.payload args.manifest args.key
      args.output args.keyId payload document key (c.signingKeyId key))
    (hfits : FitsImage document payload) (hwrite : shell.writeError s.1 args.output = none)
    (hprints : ∀ fs text, shell.Prints (fs, s.2) text) :
    ∃ t, main c shell (.image (.sign args)) s = (.code 0, t) := by
  obtain ⟨image, m, hm, hid, hpub, hassembled⟩ := (assembleImage_of_sources hin hc).1 hfits
  obtain ⟨i, hparse⟩ := (parseImage_assembled hc hm hpub).mpr hid
  have hwork := work_sign_of_ok (signImage_of_assembled hassembled hwrite hparse)
  exact ⟨_, main_eq_zero_iff.mpr ⟨_, _, hwork, hprints _ _, rfl⟩⟩

theorem exists_main_sampleSign : ∃ t,
    main sampleKeyCrates sampleShell (.image (.sign sampleSign)) sampleMachine = (.code 0, t) :=
  exists_main_sign sampleCrates_signingLawful sampleInputs.sources (by unfold FitsImage; decide) rfl
    fun _ _ => sampleShell_prints

/-- The release of the unit test is looked at after the tool has checked itself. -/
theorem signedArtifact_persists_sample : ∃ t,
    main sampleKeyCrates sampleShell (.image (.sign sampleSign)) sampleMachine = (.code 0, t) ∧
    ∃ payload document key, ∃ image : ParsedImage,
      SigningSources sampleCrates sampleOs sampleFiles "payload.bin" "manifest.toml"
        "release-test-key.pem" "firmware.rampart" none payload document key
        (sampleCrates.signingKeyId key) ∧
      document.Describes image.manifest ∧
      main sampleKeyCrates sampleShell (.image (.inspect "firmware.rampart"))
          (session sampleKeyCrates sampleShell [.selfCheck true] t) =
        (.code 0, Machine.printed (session sampleKeyCrates sampleShell [.selfCheck true] t)
          (formatImageReport image (some true) none)) := by
  obtain ⟨t, hsign⟩ := exists_main_sampleSign
  obtain ⟨payload, document, key, image, hin, hdescribes, -, -, hlater⟩ :=
    signedArtifact_persists sampleKeyCrates sampleCrates_signingLawful sampleShell sampleSign
      sampleMachine t hsign
  refine ⟨t, hsign, payload, document, key, image, hin, hdescribes, ?_⟩
  rw [← concluded_of_prints sampleShell_prints]
  exact (hlater [.selfCheck true] _ rfl rfl).1

end RampartBoot.Host

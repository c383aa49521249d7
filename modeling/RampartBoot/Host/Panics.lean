import RampartBoot.Host.Sessions

/-! # Where the host tool can panic

Of all the slices, copies and conversions of the tool only one is not behind a check of its own:
the slice of a key ID text. It is reached from `image sign`, before anything is written.
-/

namespace RampartBoot.Host
open Foundation Format

variable {P ρ : Type} {c : Crates} {os : Os P} {fs : FileSystem P}
  {payloadPath manifestPath keyPath outputPath : P} {keyIdOverride : Option String}

theorem faultless_parseSemverPart {part : Option (List Char)} {label : String} :
    Faultless (parseSemverPart part label) := by
  unfold parseSemverPart Faultless
  simp only [wp_bind, wp_okOr, wp_rejectIf, implies_true, and_self]

theorem faultless_parseSemverCore {version : String} : Faultless (parseSemverCore version) := by
  unfold parseSemverCore
  refine faultless_parseSemverPart.bind fun _ _ => faultless_parseSemverPart.bind fun _ _ =>
    faultless_parseSemverPart.bind fun _ _ => ?_
  unfold Faultless
  rw [wp_bind, wp_rejectIf]
  exact ⟨fun _ => trivial, fun _ => trivial⟩

theorem faultless_parseRole {role : String} : Faultless (parseRole role) := by
  unfold parseRole
  split <;> trivial

theorem faultless_parseRollbackPolicy {policy : String} :
    Faultless (parseRollbackPolicy policy) := by
  unfold parseRollbackPolicy
  split <;> trivial

theorem faultless_rejectIf {p : Prop} [Decidable p] {e : String} : Faultless (rejectIf p e) := by
  unfold Faultless
  rw [wp_rejectIf]
  exact ⟨fun _ => trivial, fun _ => trivial⟩

theorem faultless_rejectIf_bind {α : Type} {p : Prop} [Decidable p] {e : String}
    {f : Unit → Res α} (h : ¬ p → Faultless (f ())) : Faultless (rejectIf p e >>= f) := by
  unfold Faultless
  rw [wp_bind, wp_rejectIf]
  exact ⟨fun _ => trivial, h⟩

theorem faultless_intoManifest {document : ManifestDocument} {size : UInt32}
    {digest : Vector UInt8 32} {keyId : Vector UInt8 8} :
    Faultless (document.intoManifest size digest keyId) := by
  unfold ManifestDocument.intoManifest
  refine faultless_rejectIf_bind fun _ => faultless_rejectIf_bind fun _ =>
    faultless_rejectIf_bind fun _ => faultless_rejectIf_bind fun _ =>
    faultless_parseSemverCore.bind fun _ _ => ?_
  exact faultless_parseRole.bind fun _ _ => faultless_parseRollbackPolicy.bind fun _ _ => trivial

theorem faultless_signRegion {key : c.SigningKey} {verifyingKey : c.VerifyingKey}
    {keyId : Vector UInt8 8} {region : List UInt8} :
    Faultless (signRegion c key verifyingKey keyId region) := by
  unfold signRegion
  dsimp only
  refine faultless_rejectIf_bind fun hlen => ?_
  have hkey : (copyFromSlice 65 (c.toEncodedPoint verifyingKey) : Res _) =
      .ok ⟨(c.toEncodedPoint verifyingKey).toArray, not_not.mp hlen⟩ := dif_pos (not_not.mp hlen)
  rw [bind_of_eq_ok hkey, bind_of_eq_ok copyFromSlice_toList]
  trivial

theorem faultless_encode {g : Manifest} {payload : List UInt8} (hlen : payload.length < 2 ^ 32)
    (record : SignatureRecord) :
    Faultless (encodeSignatureSection record (g.bytes ++ payload) >>= fun signature =>
      encodeImage g.bytes payload signature) := by
  have hsize := g.size_le
  have hbytes := g.bytes_length
  by_cases hregion : (g.bytes ++ payload).length < 2 ^ 32
  · have hsection : (signatureTable (g.bytes ++ payload).length record.keyId record.signature
        record.publicKey).bytes.length = 192 := by
      rw [Table.bytes_length (signatureTable_contiguous _ _ _ _), signatureTable_size]
    rw [bind_of_eq_ok (encodeSignatureSection_eq record hregion)]
    by_cases hfits : 64 + g.bytes.length + payload.length < 2 ^ 32
    · rw [encodeImage_eq hfits hsection]
      trivial
    · rw [encodeImage_large (by omega) hlen (by omega) hfits]
      trivial
  · rw [encodeSignatureSection_large record hregion]
    trivial

/-- The signer comes to a key ID text that it cannot slice: the override, or the one that the
manifest declares. -/
structure ReachesCut (c : Crates) (os : Os P) (fs : FileSystem P)
    (payloadPath manifestPath keyPath outputPath : P) (keyIdOverride : Option String) : Prop where
  absent : fs outputPath = none
  payload : ∃ payload, os.read fs payloadPath = .ok payload ∧ payload.length < 2 ^ 32 ∧
    payload ≠ []
  text : ∃ key, readSigningKey c os fs keyPath = .ok key ∧
    ((∃ value, keyIdOverride = some value ∧ CutsCharacter value) ∨
      ∃ keyId document declared, chooseKeyId keyIdOverride (c.signingKeyId key) = .ok keyId ∧
        readManifestDocument os fs manifestPath = .ok document ∧
        document.keyId = some declared ∧ CutsCharacter declared)

theorem not_faultless_bind {α β : Type} {x : Res α} {f : α → Res β} :
    ¬ Faultless (x >>= f) ↔ ¬ Faultless x ∨ ∃ a, x = .ok a ∧ ¬ Faultless (f a) := by
  rcases x with (e | k) | a
  · refine iff_of_false (fun h => h trivial) ?_
    rintro (h | ⟨a, h, -⟩)
    · exact h trivial
    · cases h
  · exact iff_of_true (fun h => h) (.inl fun h => h)
  · constructor
    · exact fun h => .inr ⟨a, rfl, h⟩
    · rintro (h | ⟨b, hb, h⟩)
      · exact absurd trivial h
      · cases hb
        exact h

theorem not_faultless_iff {α : Type} {x : Res α} :
    ¬ Faultless x ↔ ∃ f, x = .error (.fault f) := by
  rcases x with (e | f) | a
  · exact iff_of_false (fun h => h trivial) (by simp)
  · exact iff_of_true id ⟨f, rfl⟩
  · exact iff_of_false (fun h => h trivial) (by simp)

/-- Behind a step that cannot fault only the rest can. -/
theorem not_faultless_bind_of {α β : Type} {x : Res α} {f : α → Res β} (hx : Faultless x) :
    ¬ Faultless (x >>= f) ↔ ∃ a, x = .ok a ∧ ¬ Faultless (f a) :=
  not_faultless_bind.trans ⟨fun h => h.resolve_left fun hx' => hx' hx, .inr⟩

theorem not_faultless_chooseKeyId {derived : Vector UInt8 8} :
    ¬ Faultless (chooseKeyId keyIdOverride derived) ↔
      ∃ value, keyIdOverride = some value ∧ CutsCharacter value := by
  cases keyIdOverride with
  | none => exact iff_of_false (fun h => h trivial) (by simp)
  | some value =>
    rw [chooseKeyId]
    constructor
    · exact fun h => ⟨value, rfl, by_contra fun hcut => h (faultless_parseKeyIdHex hcut)⟩
    · rintro ⟨_, heq, hcut⟩
      cases heq
      exact not_faultless_parseKeyIdHex hcut

theorem not_faultless_checkDeclaredKeyId {declared : Option String} {keyId : Vector UInt8 8} :
    ¬ Faultless (checkDeclaredKeyId declared keyId) ↔
      ∃ value, declared = some value ∧ CutsCharacter value := by
  cases declared with
  | none => exact iff_of_false (fun h => h trivial) (by simp)
  | some value =>
    rw [checkDeclaredKeyId]
    constructor
    · intro h
      refine ⟨value, rfl, by_contra fun hcut => h ?_⟩
      exact (faultless_parseKeyIdHex hcut).bind fun _ _ => faultless_rejectIf
    · rintro ⟨_, heq, hcut⟩
      cases heq
      exact not_faultless_bind.mpr (.inl (not_faultless_parseKeyIdHex hcut))

theorem faultless_mapErr {α : Type} {x : Except String α} {f : String → String} :
    Faultless (mapErr x f) := by
  unfold Faultless
  rw [wp_mapErr]
  exact ⟨fun _ _ => trivial, fun _ _ => trivial⟩

theorem faultless_okOr {α : Type} {x : Option α} {e : String} : Faultless (okOr x e) := by
  unfold Faultless
  rw [wp_okOr]
  exact ⟨fun _ _ => trivial, fun _ => trivial⟩

theorem faultless_readManifestDocument : Faultless (readManifestDocument os fs manifestPath) :=
  faultless_mapErr.bind fun _ _ => faultless_mapErr

/-- Once the key IDs have been read, the signer assembles its image or gives an error. -/
theorem faultless_signDocument {payload : List UInt8} (hlen : payload.length < 2 ^ 32)
    (key : c.SigningKey) (keyId : Vector UInt8 8) (document : ManifestDocument) (size : UInt32) :
    Faultless (do
      let payloadDigest ← digestPayload c payload
      let manifest ← document.intoManifest size payloadDigest keyId
      let manifestBytes ← encodeManifest manifest
      let _ ← SizeT.host.add manifestBytes.length payload.length
      let signedRegion := manifestBytes ++ payload
      let signatureRecord ← signRegion c key (c.verifyingKey key) keyId signedRegion
      let signatureBytes ← encodeSignatureSection signatureRecord signedRegion
      encodeImage manifestBytes payload signatureBytes) := by
  rw [bind_of_eq_ok (digestPayload_eq _)]
  refine faultless_intoManifest.bind fun m hm => ?_
  obtain ⟨g, hg⟩ := exists_shows_of_intoManifest hm
  have hsize := g.size_le
  have hbytes := g.bytes_length
  rw [bind_of_eq_ok (encodeManifest_of_shows hg), bind_of_eq_ok (hostAdd_eq (by omega))]
  exact faultless_signRegion.bind fun record _ => faultless_encode hlen record

theorem deriveKeyId_signing (key : c.SigningKey) :
    (deriveKeyId c (c.verifyingKey key) : Res (Vector UInt8 8)) = .ok (c.signingKeyId key) :=
  deriveKeyId_eq _

theorem not_faultless_assembleImage :
    ¬ Faultless (assembleImage c os fs payloadPath manifestPath keyPath outputPath
      keyIdOverride) ↔
      ReachesCut c os fs payloadPath manifestPath keyPath outputPath keyIdOverride := by
  unfold assembleImage
  constructor
  · intro h
    obtain ⟨_, habsent, h⟩ := (not_faultless_bind_of faultless_rejectIf).mp h
    obtain ⟨payload, hpayload, h⟩ := (not_faultless_bind_of faultless_mapErr).mp h
    obtain ⟨size, hsize, h⟩ := (not_faultless_bind_of faultless_okOr).mp h
    obtain ⟨_, hnonempty, h⟩ := (not_faultless_bind_of faultless_rejectIf).mp h
    obtain ⟨key, hkey, h⟩ := (not_faultless_bind_of faultless_readSigningKey).mp h
    dsimp only at h
    rw [bind_of_eq_ok (deriveKeyId_signing key)] at h
    have hlen : payload.length < 2 ^ 32 := by
      by_contra hlarge
      rw [okOr_u32TryFrom_large hlarge] at hsize
      cases hsize
    refine ⟨by simpa using rejectIf_eq_ok_iff.mp habsent,
      ⟨payload, mapErr_eq_ok_iff.mp hpayload, hlen,
        by simpa using rejectIf_eq_ok_iff.mp hnonempty⟩, key, hkey, ?_⟩
    rcases not_faultless_bind.mp h with hcut | ⟨keyId, hkeyId, h⟩
    · exact .inl (not_faultless_chooseKeyId.mp hcut)
    · obtain ⟨document, hdocument, h⟩ := (not_faultless_bind_of faultless_readManifestDocument).mp h
      rcases not_faultless_bind.mp h with hcut | ⟨_, -, h⟩
      · obtain ⟨declared, hdeclared, hcut⟩ := not_faultless_checkDeclaredKeyId.mp hcut
        exact .inr ⟨keyId, document, declared, hkeyId, hdocument, hdeclared, hcut⟩
      · exact absurd (faultless_signDocument hlen key keyId document size) h
  · rintro ⟨habsent, ⟨payload, hpayload, hlen, hnonempty⟩, key, hkey, htext⟩
    rw [rejectIf_bind_of_not (by simp [habsent]), bind_of_eq_ok (mapErr_eq_ok_iff.mpr hpayload),
      okOr_u32TryFrom_bind hlen, rejectIf_bind_of_not (by simp [hnonempty]), bind_of_eq_ok hkey]
    dsimp only
    rw [bind_of_eq_ok (deriveKeyId_signing key)]
    rcases htext with hcut | ⟨keyId, document, declared, hkeyId, hdocument, hdeclared, hcut⟩
    · exact not_faultless_bind.mpr (.inl (not_faultless_chooseKeyId.mpr hcut))
    · rw [bind_of_eq_ok hkeyId, bind_of_eq_ok hdocument]
      exact not_faultless_bind.mpr
        (.inl (not_faultless_checkDeclaredKeyId.mpr ⟨declared, hdeclared, hcut⟩))

section Main
variable [DecidableEq P]

theorem signImage_fault_iff {f : Fault} {fs' : FileSystem P} :
    signImage c os payloadPath manifestPath keyPath outputPath keyIdOverride fs =
        .error (.fault f) fs' ↔
      assembleImage c os fs payloadPath manifestPath keyPath outputPath keyIdOverride =
        .error (.fault f) ∧ fs' = fs := by
  constructor
  · intro hrun
    rcases hassembled : assembleImage c os fs payloadPath manifestPath keyPath outputPath
      keyIdOverride with stop | file
    · rw [signImage_of_failed hassembled] at hrun
      cases hrun
      exact ⟨rfl, rfl⟩
    · cases hwrite : os.writeError fs outputPath with
      | some error =>
        obtain ⟨e, herror⟩ := signImage_of_unwritable hassembled hwrite
        rw [herror] at hrun
        cases hrun
      | none =>
        rw [signImage_of_written hassembled hwrite] at hrun
        rcases wp_cases (faultless_parseImage (c := c) (b := file)) with ⟨i, hi, -⟩ | ⟨e, he, -⟩
        · rw [hi] at hrun
          cases hrun
        · rw [he] at hrun
          cases hrun
  · rintro ⟨hassembled, rfl⟩
    exact signImage_of_failed hassembled

/-- The work of a command faults exactly where the signer comes to a key ID text that it cannot
slice, and then it has changed nothing. -/
theorem work_fault_iff (c : KeyCrates ρ) (shell : Shell P) (command : Command P)
    (s : Machine P ρ) :
    ((∃ f t, work c shell command s = .error (.fault f) t) ↔
      ∃ args, command = .image (.sign args) ∧ ReachesCut c.toCrates shell.toOs s.1 args.payload
        args.manifest args.key args.output args.keyId) ∧
    ∀ f t, work c shell command s = .error (.fault f) t → t = s := by
  by_cases hsign : ∃ args, command = .image (.sign args)
  · obtain ⟨args, rfl⟩ := hsign
    simp only [Command.image.injEq, ImageCommand.sign.injEq, exists_eq_left',
      ← not_faultless_assembleImage, not_faultless_iff]
    rcases hrun : signImage c.toCrates shell.toOs args.payload args.manifest args.key args.output
      args.keyId s.1 with ⟨i, fs⟩ | ⟨e | f, fs⟩
    · rw [work_sign_of_ok hrun]
      refine ⟨iff_of_false (by simp) fun ⟨f, hf⟩ => ?_, by simp⟩
      rw [signImage_fault_iff.mpr ⟨hf, rfl⟩] at hrun
      cases hrun
    · rw [work_sign_of_error hrun]
      refine ⟨iff_of_false (by simp) fun ⟨f, hf⟩ => ?_, by simp⟩
      rw [signImage_fault_iff.mpr ⟨hf, rfl⟩] at hrun
      cases hrun
    · obtain ⟨hf, rfl⟩ := signImage_fault_iff.mp hrun
      rw [work_sign_of_error hrun]
      refine ⟨iff_of_true ⟨f, _, rfl⟩ ⟨f, hf⟩, fun _ _ h => ?_⟩
      cases h
      rfl
  · rcases main_of_wps (wps_work (fun args h => hsign ⟨args, h⟩) s) with
      ⟨text, error, t, hwork, -⟩ | ⟨e, t, hwork, -⟩
    all_goals
      rw [hwork]
      exact ⟨iff_of_false (by simp) fun ⟨args, heq, _⟩ => hsign ⟨args, heq⟩, by simp⟩

/-- A stream does not take all that a command has to say. -/
inductive Unheard (c : KeyCrates ρ) (shell : Shell P) (command : Command P) (s : Machine P ρ) :
    Prop
  | text (text : String) (error : Option String) (t : Machine P ρ) :
      work c shell command s = .ok (text, error) t → ¬ shell.Prints t text →
      Unheard c shell command s
  | verdict (text error : String) (t : Machine P ρ) :
      work c shell command s = .ok (text, some error) t →
      ¬ shell.Eprints t ("error: " ++ error ++ "\n") → Unheard c shell command s
  | failure (error : String) (t : Machine P ρ) : work c shell command s = .error (.ret error) t →
      ¬ shell.Eprints t ("error: " ++ error ++ "\n") → Unheard c shell command s

omit [DecidableEq P] in
theorem eprintln_panics_iff {shell : Shell P} {command : Command P} {text : String}
    {s : Machine P ρ} : (∃ f, (eprintln shell command text 2 s).1 = .panic f) ↔
      ¬ shell.Eprints s (text ++ "\n") := by
  rcases eprintln_cases shell command text s with ⟨htakes, h⟩ | ⟨hfails, h⟩
  · rw [h]
    exact iff_of_false (by simp) (not_not.mpr htakes)
  · rw [h]
    exact iff_of_true ⟨_, rfl⟩ hfails

omit [DecidableEq P] in
theorem concluded_panics_iff {shell : Shell P} {command : Command P} {text : String}
    {error : Option String} {s : Machine P ρ} :
    (∃ f, (concluded shell command text error s).1 = .panic f) ↔ ¬ shell.Prints s text ∨
      ∃ e, error = some e ∧ ¬ shell.Eprints s ("error: " ++ e ++ "\n") := by
  by_cases hprints : shell.Prints s text
  · cases error with
    | none =>
      rw [concluded_of_prints hprints]
      simp [hprints]
    | some e =>
      rw [concluded_some_of_prints hprints, eprintln_panics_iff]
      simp [hprints, Shell.Eprints, Machine.printed]
  · exact iff_of_true ⟨_, concluded_of_not_prints hprints⟩ (.inl hprints)

/-- The tool panics exactly where the signer comes to a key ID text that it cannot slice, and where
a stream does not take what the command has to say. In the first case nothing has changed but the
error stream, and never do the streams decide what becomes of the files. -/
theorem main_panics_iff (c : KeyCrates ρ) (shell : Shell P) (command : Command P)
    (s : Machine P ρ) :
    ((∃ f, (main c shell command s).1 = .panic f) ↔
      (∃ args, command = .image (.sign args) ∧ ReachesCut c.toCrates shell.toOs s.1 args.payload
        args.manifest args.key args.output args.keyId) ∨ Unheard c shell command s) ∧
    (∀ args, command = .image (.sign args) → ReachesCut c.toCrates shell.toOs s.1 args.payload
        args.manifest args.key args.output args.keyId →
      ∃ f, main c shell command s = panicked shell command f s) ∧
    ∀ out err, (main c (shell.withStreams out err) command s).2.1 =
      (main c shell command s).2.1 := by
  obtain ⟨hfault, hsame⟩ := work_fault_iff c shell command s
  refine ⟨?_, fun args heq hcut => ?_, fun out err => ?_⟩
  · rw [← hfault, main_eq]
    rcases hwork : work c shell command s with ⟨⟨text, error⟩, t⟩ | ⟨e | f, t⟩
    · refine concluded_panics_iff.trans ⟨?_, ?_⟩
      · rintro (hcut | ⟨e, rfl, hcut⟩)
        · exact .inr (.text text error t hwork hcut)
        · exact .inr (.verdict text e t hwork hcut)
      · rintro (⟨f, u, hstop⟩ | ⟨_, _, _, hother, hcut⟩ | ⟨_, e, _, hother, hcut⟩ |
          ⟨_, _, hother, -⟩)
        · cases hstop
        · cases hwork.symm.trans hother
          exact .inl hcut
        · cases hwork.symm.trans hother
          exact .inr ⟨e, rfl, hcut⟩
        · cases hwork.symm.trans hother
    · refine eprintln_panics_iff.trans ⟨fun hcut => .inr (.failure e t hwork hcut), ?_⟩
      rintro (⟨f, u, hstop⟩ | ⟨_, _, _, hother, -⟩ | ⟨_, _, _, hother, -⟩ | ⟨_, _, hother, hcut⟩)
      · cases hstop
      · cases hwork.symm.trans hother
      · cases hwork.symm.trans hother
      · cases hwork.symm.trans hother
        exact hcut
    · exact iff_of_true ⟨f, rfl⟩ (.inl ⟨f, t, rfl⟩)
  · obtain ⟨f, t, hwork⟩ := hfault.mpr ⟨args, heq, hcut⟩
    obtain rfl := hsame f t hwork
    exact ⟨f, by rw [main_eq, hwork]⟩
  · rw [main_files, main_files, work_withStreams]

end Main

end RampartBoot.Host

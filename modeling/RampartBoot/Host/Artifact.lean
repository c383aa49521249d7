import RampartBoot.Host.Sign
import RampartBoot.Host.Totality

/-! # What a failed signing leaves behind

The signer checks its inputs before it writes, and reads the image back only afterwards. That
last check fails for a key ID that is not the one of the key, and then the file is already there.
-/

namespace RampartBoot.Host
open Foundation Format

variable {P : Type} {c : Crates} {os : Os P} {fs : FileSystem P}
  {payloadPath manifestPath keyPath outputPath : P} {keyIdOverride : Option String}

/-- A run that comes to the write has read its sources. -/
theorem sources_of_assembled {file : List UInt8}
    (h : assembleImage c os fs payloadPath manifestPath keyPath outputPath keyIdOverride =
      .ok file) :
    ∃ payload document key keyId, payload.length < 2 ^ 32 ∧
      SigningSources c os fs payloadPath manifestPath keyPath outputPath keyIdOverride payload
        document key keyId := by
  unfold assembleImage at h
  rw [rejectIf_bind_eq_ok, bind_eq_ok_iff] at h
  obtain ⟨habsent, payload, hpayload, h⟩ := h
  rw [okOr_bind_eq_ok] at h
  obtain ⟨size, hsize, h⟩ := h
  rw [rejectIf_bind_eq_ok, bind_eq_ok_iff] at h
  obtain ⟨hnonempty, key, hkey, h⟩ := h
  dsimp only at h
  rw [bind_of_eq_ok (deriveKeyId_eq _), bind_eq_ok_iff] at h
  obtain ⟨keyId, hchosen, h⟩ := h
  rw [bind_eq_ok_iff] at h
  obtain ⟨document, hdocument, h⟩ := h
  rw [bind_eq_ok_iff] at h
  obtain ⟨_, hdeclared, h⟩ := h
  rw [bind_of_eq_ok (digestPayload_eq _), bind_eq_ok_iff] at h
  obtain ⟨m, hm, -⟩ := h
  refine ⟨payload, document, key, keyId, ?_, ?_⟩
  · by_contra hlarge
    rw [u32TryFrom, if_neg hlarge] at hsize
    cases hsize
  · exact ⟨by simpa using habsent, mapErr_eq_ok_iff.mp hpayload, by simpa using hnonempty,
      readSigningKey_eq_ok_iff.mp hkey, hchosen, readManifestDocument_eq_ok_iff.mp hdocument,
      checkDeclaredKeyId_eq_ok_iff.mp hdeclared, ⟨_, _, _, m, hm⟩⟩

section Image
variable {payload : List UInt8} {document : ManifestDocument} {key : c.SigningKey}
  {keyId : Vector UInt8 8}

def FitsImage (document : ManifestDocument) (payload : List UInt8) : Prop :=
  64 + manifestSize (asBytes document.artifactId).length + payload.length < 2 ^ 32

/-- Sources that fit are assembled into an image that carries the chosen key ID, and all others
are refused. -/
theorem assembleImage_of_sources (hin : SigningSources c os fs payloadPath manifestPath keyPath
      outputPath keyIdOverride payload document key keyId) (hc : c.SigningLawful) :
    (FitsImage document payload → ∃ (image : Image) (m : RampartManifest),
      m.Shows image.manifest ∧ image.manifest.keyId = keyId ∧
      image.publicKey = hc.publicKey key ∧
      assembleImage c os fs payloadPath manifestPath keyPath outputPath keyIdOverride =
        .ok image.bytes) ∧
    (¬ FitsImage document payload → ∃ e,
      assembleImage c os fs payloadPath manifestPath keyPath outputPath keyIdOverride =
        .error (.ret e)) := by
  obtain ⟨m, g, hm, hg, hid, hsize⟩ := hin.exists_manifest
  unfold FitsImage
  rw [← hsize]
  constructor
  · intro hfits
    obtain ⟨image, rfl, -, hpub, -, hassembled⟩ := exists_assembled hin hc hm hg hfits
    exact ⟨image, m, hg, hid, hpub, hassembled⟩
  · exact assembleImage_large hin hc hm hg

/-- The last check passes exactly if the image carries the key ID of its key. -/
theorem parseImage_assembled {image : Image} {m : RampartManifest} (hc : c.SigningLawful)
    (hm : m.Shows image.manifest) (hpub : image.publicKey = hc.publicKey key) :
    (∃ i, parseImage c image.bytes = .ok i) ↔ image.manifest.keyId = c.signingKeyId key := by
  have hpoint : c.fromSec1Bytes image.publicKey.toList = some (c.verifyingKey key) := by
    rw [hpub, hc.publicKey_toList, hc.point_decode]
  constructor
  · rintro ⟨i, hi⟩
    obtain ⟨g, hb, -, point, hpoint', hid⟩ := (parseImage_eq_ok_iff i).mp hi
    obtain rfl := Image.bytes_inj hb
    obtain rfl := Option.some.inj (hpoint.symm.trans hpoint')
    exact hid.symm
  · exact fun hid => ⟨_, parseImage_bytes hm ⟨_, hpoint, hid.symm⟩⟩

end Image

/-- The inputs of a run that writes an image under another key ID than that of its key. -/
def WritesForeignKeyId (c : Crates) (os : Os P) (fs : FileSystem P)
    (payloadPath manifestPath keyPath outputPath : P) (keyIdOverride : Option String) : Prop :=
  ∃ payload document key keyId, SigningSources c os fs payloadPath manifestPath keyPath outputPath
      keyIdOverride payload document key keyId ∧
    FitsImage document payload ∧ os.writeError fs outputPath = none ∧ keyId ≠ c.signingKeyId key

variable [DecidableEq P]

/-- A run that fails changes no file, and a run that succeeds only creates an artifact that the
parser accepts. -/
structure SignsAtomically (c : Crates) (os : Os P) (fs : FileSystem P)
    (payloadPath manifestPath keyPath outputPath : P) (keyIdOverride : Option String) : Prop where
  failed : ∀ e fs', signImage c os payloadPath manifestPath keyPath outputPath keyIdOverride fs =
    .error (.ret e) fs' → fs' = fs
  signed : ∀ i fs', signImage c os payloadPath manifestPath keyPath outputPath keyIdOverride fs =
    .ok i fs' → fs outputPath = none ∧ ∃ file j, parseImage c file = .ok j ∧
      fs' = Function.update fs outputPath (some file)

def TearsImage (c : Crates) (os : Os P) (fs : FileSystem P)
    (payloadPath manifestPath keyPath outputPath : P) (keyIdOverride : Option String) : Prop :=
  ∃ file, assembleImage c os fs payloadPath manifestPath keyPath outputPath keyIdOverride =
    .ok file ∧ os.Tears fs outputPath file

theorem signsAtomically_of_failed {stop : Stop String}
    (hrun : signImage c os payloadPath manifestPath keyPath outputPath keyIdOverride fs =
      .error stop fs) :
    SignsAtomically c os fs payloadPath manifestPath keyPath outputPath keyIdOverride where
  failed e fs' hfail := by
    rw [hrun] at hfail
    cases hfail
    rfl
  signed i fs' hok := by
    rw [hrun] at hok
    cases hok

theorem signsAtomically_of_signed {file : List UInt8} {i : ParsedImage}
    (habsent : fs outputPath = none) (hparse : parseImage c file = .ok i)
    (hrun : signImage c os payloadPath manifestPath keyPath outputPath keyIdOverride fs =
      .ok i (Function.update fs outputPath (some file))) :
    SignsAtomically c os fs payloadPath manifestPath keyPath outputPath keyIdOverride where
  failed e fs' hfail := by
    rw [hrun] at hfail
    cases hfail
  signed j fs' hok := by
    rw [hrun] at hok
    cases hok
    exact ⟨habsent, file, i, hparse, rfl⟩

/-- Behind the write of an image with a foreign key ID the run fails. -/
theorem not_signsAtomically (hc : c.SigningLawful)
    (h : WritesForeignKeyId c os fs payloadPath manifestPath keyPath outputPath keyIdOverride) :
    ¬ SignsAtomically c os fs payloadPath manifestPath keyPath outputPath keyIdOverride := by
  obtain ⟨payload, document, key, keyId, hin, hfits, hwrite, hne⟩ := h
  obtain ⟨image, m, hm, hid, hpub, hassembled⟩ := (assembleImage_of_sources hin hc).1 hfits
  have hrefused : ∀ i, parseImage c image.bytes ≠ .ok i := by
    intro i hi
    have hown := (parseImage_assembled hc hm hpub).mp ⟨i, hi⟩
    exact hne (hid ▸ hown)
  obtain ⟨e, he⟩ := faultless_parseImage.exists_error hrefused
  intro hatomic
  have hrun := signImage_of_written hassembled hwrite
  rw [he] at hrun
  have hfile := congrFun (hatomic.failed e _ hrun) outputPath
  rw [Function.update_self, hin.absent] at hfile
  cases hfile

theorem not_signsAtomically_of_torn
    (h : TearsImage c os fs payloadPath manifestPath keyPath outputPath keyIdOverride) :
    ¬ SignsAtomically c os fs payloadPath manifestPath keyPath outputPath keyIdOverride := by
  obtain ⟨file, hassembled, htears⟩ := h
  obtain ⟨error, hwrite⟩ := htears.1
  obtain ⟨_, _, _, _, -, hin⟩ := sources_of_assembled hassembled
  obtain ⟨e, hrun⟩ := signImage_of_unwritable hassembled hwrite
  exact fun hatomic =>
    (torn_eq_self_iff hin.absent hwrite).mp (hatomic.failed e _ hrun) htears

/-- Every run is atomic that neither writes an image under a foreign key ID nor fails with some of
it written. -/
theorem signsAtomically_of_own (hc : c.SigningLawful)
    (h : ¬ WritesForeignKeyId c os fs payloadPath manifestPath keyPath outputPath keyIdOverride)
    (huntorn : ¬ TearsImage c os fs payloadPath manifestPath keyPath outputPath keyIdOverride) :
    SignsAtomically c os fs payloadPath manifestPath keyPath outputPath keyIdOverride := by
  rcases hassembled : assembleImage c os fs payloadPath manifestPath keyPath outputPath
    keyIdOverride with stop | file
  · exact signsAtomically_of_failed (signImage_of_failed hassembled)
  · cases hwrite : os.writeError fs outputPath with
    | some error =>
      obtain ⟨_, _, _, _, -, hin⟩ := sources_of_assembled hassembled
      obtain ⟨e, hrun⟩ := signImage_of_unwritable hassembled hwrite
      rw [(torn_eq_self_iff hin.absent hwrite).mpr fun h => huntorn ⟨file, hassembled, h⟩] at hrun
      exact signsAtomically_of_failed hrun
    | none =>
      obtain ⟨payload, document, key, keyId, -, hin⟩ := sources_of_assembled hassembled
      have hfits : FitsImage document payload := by
        by_contra hlarge
        obtain ⟨e, he⟩ := (assembleImage_of_sources hin hc).2 hlarge
        rw [hassembled] at he
        cases he
      have hown : keyId = c.signingKeyId key := by
        by_contra hne
        exact h ⟨payload, document, key, keyId, hin, hfits, hwrite, hne⟩
      obtain ⟨image, m, hm, hid, hpub, himage⟩ := (assembleImage_of_sources hin hc).1 hfits
      obtain rfl : image.bytes = file := by
        rw [hassembled] at himage
        exact (Except.ok.inj himage).symm
      obtain ⟨j, hj⟩ := (parseImage_assembled hc hm hpub).mpr (hid.trans hown)
      exact signsAtomically_of_signed hin.absent hj (signImage_of_assembled hassembled hwrite hj)

/-- A run leaves no artifact behind when it fails and an accepted one when it succeeds, except
where its inputs bring an image under a foreign key ID to the write. This is on the assumption
that `fs::write` stores all of its bytes or changes nothing. -/
theorem signsAtomically_iff (c : Crates) (hc : c.SigningLawful) (os : Os P)
    (hwhole : os.WritesWhole) (fs : FileSystem P) (payloadPath manifestPath keyPath outputPath : P)
    (keyIdOverride : Option String) :
    SignsAtomically c os fs payloadPath manifestPath keyPath outputPath keyIdOverride ↔
      ¬ WritesForeignKeyId c os fs payloadPath manifestPath keyPath outputPath keyIdOverride := by
  refine ⟨fun hatomic h => not_signsAtomically hc h hatomic,
    fun hown => signsAtomically_of_own hc hown ?_⟩
  exact fun ⟨file, _, htears⟩ => htears.2 (hwhole fs outputPath file)

theorem signsAtomically_sample : SignsAtomically sampleCrates sampleOs sampleFiles "payload.bin"
    "manifest.toml" "release-test-key.pem" "firmware.rampart" none := by
  rw [signsAtomically_iff sampleCrates sampleCrates_signingLawful sampleOs fun _ _ _ => rfl]
  rintro ⟨payload, document, key, keyId, hin, -, -, hne⟩
  exact hne (Except.ok.inj hin.chosen).symm

/-- The sources of the unit test under an override that is not the key ID of the key. -/
theorem sampleSources_foreign : SigningSources sampleCrates sampleOs sampleFiles "payload.bin"
    "manifest.toml" "release-test-key.pem" "firmware.rampart" (some "0011223344556677")
    sampleImage.payload sampleDocument () #v[0x00, 0x11, 0x22, 0x33, 0x44, 0x55, 0x66, 0x77] :=
  { sampleInputs.sources with
    chosen := by decide
    declared := fun _ h => by cases h }

theorem not_signsAtomically_foreign : ¬ SignsAtomically sampleCrates sampleOs sampleFiles
    "payload.bin" "manifest.toml" "release-test-key.pem" "firmware.rampart"
    (some "0011223344556677") := by
  refine not_signsAtomically sampleCrates_signingLawful
    ⟨_, _, _, _, sampleSources_foreign, ?_, rfl, ?_⟩
  · unfold FitsImage
    decide
  · decide

end RampartBoot.Host

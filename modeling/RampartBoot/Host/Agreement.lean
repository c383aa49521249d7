import RampartBoot.Core.Acceptance
import RampartBoot.Host.RoundTrip

/-! # Host and device parser

On a 64-bit machine the two parsers accept the same images, up to three checks that only the
host makes, and show the same contents.
-/

namespace RampartBoot.Host
open Foundation Format RampartBoot.Core

/-- The checks of the host parser on an image that the device parser shows as `v`. -/
structure HostChecks (c : Crates) (v : ImageView) : Prop where
  artifactId : ∃ a, entries v.manifest.artifactId v.manifest.artifactIdLen = some a ∧
    (⟨a.toArray⟩ : ByteArray).IsValidUTF8
  publicKey : ∃ k, entries v.signature.publicKey v.signature.publicKeyLen = some k ∧
    ∃ point, c.fromSec1Bytes k = some point
  keyId : ∃ k, entries v.signature.publicKey v.signature.publicKeyLen = some k ∧
    entries v.signature.keyId v.signature.keyIdLen = some ((c.sha256 k).toList.take 8)

structure ManifestsAgree (m : RampartManifest) (v : ManifestView) : Prop where
  artifactId : entries v.artifactId v.artifactIdLen = some (asBytes m.artifactId)
  vendorId : m.vendorId = v.target.vendorId
  productId : m.productId = v.target.productId
  hardwareFamily : m.hardwareFamily = v.target.hardwareFamily
  componentId : m.componentId = v.target.componentId
  hardwareRevisionMin : m.hardwareRevisionMin = v.hardwareRevisionMin
  hardwareRevisionMax : m.hardwareRevisionMax = v.hardwareRevisionMax
  securityEpoch : m.securityEpoch = v.securityEpoch
  versionMajor : m.versionMajor = v.versionMajor
  versionMinor : m.versionMinor = v.versionMinor
  versionPatch : m.versionPatch = v.versionPatch
  payloadSize : m.payloadSize = v.payloadSize
  payloadDigest : entries v.payloadDigest v.payloadDigestLen = some m.payloadDigest.toList
  signatureRole : m.signatureRole = v.requiredKeyRole
  signatureThreshold : m.signatureThreshold = v.signatureThreshold
  signatureCount : m.signatureCount = v.signatureCount
  keyId : entries v.keyId v.keyIdLen = some m.keyId.toList
  trialMaxAttempts : m.trialMaxAttempts = v.trialMaxAttempts
  trialProbationMs : m.trialProbationMs = v.trialProbationMs
  rollbackPolicy : m.rollbackPolicy = v.rollbackPolicy
  requirementCount : m.requirementCount = v.requirementCount
  dependencyCount : m.dependencyCount = v.dependencyCount
  healthRequiredCount : m.healthRequiredCount = v.healthRequiredCount

structure ImagesAgree (i : ParsedImage) (v : ImageView) : Prop where
  manifest : ManifestsAgree i.manifest v.manifest
  manifestRange : i.manifestRange = ⟨v.manifestOffset, v.manifestOffset + v.manifestSize⟩
  payloadRange : i.payloadRange = ⟨v.payloadOffset, v.payloadOffset + v.payloadSize⟩
  signatureRange : i.signatureRange = ⟨v.signatureOffset, v.signatureOffset + v.signatureSize⟩
  signedRegionRange : i.signedRegionRange =
    ⟨v.signedRegionOffset, v.signedRegionOffset + v.signedRegionSize⟩
  keyId : entries v.signature.keyId v.signature.keyIdLen = some i.signature.keyId.toList
  signature : entries v.signature.signature v.signature.signatureLen =
    some i.signature.signature.toList
  publicKey : entries v.signature.publicKey v.signature.publicKeyLen =
    some i.signature.publicKey.toList

theorem manifestsAgree_of_shows {m : RampartManifest} {v : ManifestView} {g : Manifest}
    (hm : m.Shows g) (hv : v.Shows g) : ManifestsAgree m v := by
  have hf := hm.fields
  constructor
  case artifactId => rw [hv.artifactId, hm.artifactId]
  case payloadDigest => rw [hv.payloadDigest, ← hf]; rfl
  case keyId => rw [hv.keyId, ← hf]; rfl
  case vendorId | productId | hardwareFamily | componentId => rw [hv.target, ← hf]; rfl
  case hardwareRevisionMin => rw [hv.hardwareRevisionMin, ← hf]; rfl
  case hardwareRevisionMax => rw [hv.hardwareRevisionMax, ← hf]; rfl
  case securityEpoch => rw [hv.securityEpoch, ← hf]; rfl
  case versionMajor => rw [hv.versionMajor, ← hf]; rfl
  case versionMinor => rw [hv.versionMinor, ← hf]; rfl
  case versionPatch => rw [hv.versionPatch, ← hf]; rfl
  case payloadSize => rw [hv.payloadSize, ← hf]; rfl
  case signatureRole => rw [hv.requiredKeyRole, ← hf]; rfl
  case signatureThreshold => rw [hv.signatureThreshold, ← hf]; rfl
  case signatureCount => rw [hv.signatureCount, ← hf]; rfl
  case trialMaxAttempts => rw [hv.trialMaxAttempts, ← hf]; rfl
  case trialProbationMs => rw [hv.trialProbationMs, ← hf]; rfl
  case rollbackPolicy => rw [hv.rollbackPolicy, ← hf]; rfl
  case requirementCount => rw [hv.requirementCount, ← hf]; rfl
  case dependencyCount => rw [hv.dependencyCount, ← hf]; rfl
  case healthRequiredCount => rw [hv.healthRequiredCount, ← hf]; rfl

theorem imagesAgree_of_shows {b : Buffer .host} {i : ParsedImage} {g : Image}
    (hb : b.bytes = g.bytes) (hi : i.Shows g) : ImagesAgree i (imageViewAt b.start g) := by
  have hv : (imageViewAt b.start g).Shows g.bytes g :=
    imageViewAt_shows (show b.start.Points g.bytes from hb ▸ b.points)
  constructor
  case manifest => exact manifestsAgree_of_shows hi.manifest hv.manifest
  case manifestRange => exact hi.manifestRange
  case payloadRange => exact hi.payloadRange
  case signatureRange => exact hi.signatureRange
  case signedRegionRange => exact hi.signedRegionRange
  case keyId => rw [hv.keyId, hi.signature.keyId]
  case signature => rw [hv.signature, hi.signature.signature]
  case publicKey => rw [hv.publicKey, hi.signature.publicKey]

theorem hostChecks_iff {c : Crates} (hc : c.Sec1Lawful) {v : ImageView} {b : List UInt8}
    {g : Image} (hv : v.Shows b g) : HostChecks c v ↔
      (⟨g.manifest.artifactId.toArray⟩ : ByteArray).IsValidUTF8 ∧
      c.KeyIdMatches g.publicKey g.manifest.keyId := by
  have hprefix : (c.sha256 g.publicKey.toList).toList.take 8 = g.manifest.keyId.toList ↔
      c.keyIdOf g.publicKey.toList = g.manifest.keyId :=
    slice_eq_toList (i := 0) (by simp) g.manifest.keyId
  constructor
  · rintro ⟨⟨a, ha, htext⟩, ⟨k, hk, point, hpoint⟩, ⟨k', hk', hid⟩⟩
    rw [hv.manifest.artifactId] at ha
    rw [hv.publicKey] at hk hk'
    rw [hv.keyId] at hid
    obtain rfl := Option.some.inj ha
    obtain rfl := Option.some.inj hk
    obtain rfl := Option.some.inj hk'
    refine ⟨htext, point, hpoint, ?_⟩
    rw [hc.encode_decode _ _ hpoint]
    exact hprefix.mp (Option.some.inj hid).symm
  · rintro ⟨htext, point, hpoint, hid⟩
    rw [hc.encode_decode _ _ hpoint] at hid
    refine ⟨⟨_, hv.manifest.artifactId, htext⟩, ⟨_, hv.publicKey, point, hpoint⟩,
      ⟨_, hv.publicKey, ?_⟩⟩
    rw [hv.keyId, hprefix.mpr hid]

/-- Host and device accept the section in `b` alike, and with the same values. -/
structure SameManifests {z : SizeT} (b : Buffer z) (prior : ManifestView) : Prop where
  accept : (∃ m, parseManifest b.bytes = .ok m) ↔ ∃ v,
    call (rampartManifestParseV1 z (some b.start) b.len) (some prior) = .ok (.ok, some v)
  agree : ∀ m v, parseManifest b.bytes = .ok m →
    call (rampartManifestParseV1 z (some b.start) b.len) (some prior) = .ok (.ok, some v) →
    ManifestsAgree m v

/-- The device does not look at the artifact ID, so the two parsers differ on the sections of
the format in which it is not text, and on no other input. -/
theorem sameManifests_iff {z : SizeT} (b : Buffer z) (prior : ManifestView) :
    SameManifests b prior ↔ ((∃ g : Manifest, b.bytes = g.bytes) →
      (⟨(slice b.bytes 128 (u16At b.bytes 112).toNat).toArray⟩ : ByteArray).IsValidUTF8) := by
  have hdevice := fun v => parseManifestV1_eq_ok_iff b prior (some v)
  simp only [Option.some.injEq] at hdevice
  have hname (g : Manifest) (hb : b.bytes = g.bytes) :
      slice b.bytes 128 (u16At b.bytes 112).toNat = g.artifactId := by
    obtain ⟨-, hn, ha, -⟩ := g.read_bytes_append []
    rw [List.append_nil] at hn ha
    rw [hb, hn, ha]
  constructor
  · rintro hsame ⟨g, hb⟩
    obtain ⟨m, hm⟩ := hsame.accept.mpr ⟨_, (hdevice _).mpr ⟨g, hb, rfl⟩⟩
    obtain ⟨h, hh, hshows⟩ := parseManifest_eq_ok_iff.mp hm
    rw [hname h hh, ← hshows.artifactId]
    exact m.artifactId.isValidUTF8
  · refine fun htext => ⟨⟨?_, ?_⟩, ?_⟩
    · rintro ⟨m, hm⟩
      obtain ⟨g, hb, -⟩ := parseManifest_eq_ok_iff.mp hm
      exact ⟨_, (hdevice _).mpr ⟨g, hb, rfl⟩⟩
    · rintro ⟨v, hv⟩
      obtain ⟨g, hb, -⟩ := (hdevice v).mp hv
      have hvalid := htext ⟨g, hb⟩
      rw [hname g hb] at hvalid
      obtain ⟨m, hm⟩ := exists_manifest_shows hvalid
      exact ⟨m, parseManifest_eq_ok_iff.mpr ⟨g, hb, hm⟩⟩
    · intro m v hm hv
      obtain ⟨g, hb, hg⟩ := parseManifest_eq_ok_iff.mp hm
      obtain ⟨h, hh, rfl⟩ := (hdevice v).mp hv
      obtain rfl := Manifest.bytes_inj (hb.symm.trans hh)
      have hp : b.start.Points g.bytes := hb ▸ b.points
      exact manifestsAgree_of_shows hg (manifestViewAt_shows hp)

def foreignManifest : Manifest where
  toManifestFields := goldenManifest.toManifestFields
  artifactId := [0xFF]
  valid := goldenManifest.valid
  artifactId_pos := by decide
  artifactId_le := by decide

def foreignBuffer : Buffer .host where
  bytes := foreignManifest.bytes
  fits := by
    rw [Manifest.bytes_length]
    decide

theorem not_sameManifests_foreign : ¬ SameManifests foreignBuffer .zero := by
  intro h
  obtain ⟨m, hm⟩ := h.accept.mpr ⟨_, (parseManifestV1_eq_ok_iff foreignBuffer .zero _).mpr
    ⟨foreignManifest, rfl, rfl⟩⟩
  obtain ⟨g, hg, hshows⟩ := parseManifest_eq_ok_iff.mp hm
  obtain rfl := Manifest.bytes_inj (show foreignManifest.bytes = g.bytes from hg)
  have hvalid := m.artifactId.isValidUTF8
  have hname : m.artifactId.toByteArray = ⟨#[0xFF]⟩ :=
    congrArg (fun l : List UInt8 => (⟨l.toArray⟩ : ByteArray)) hshows.artifactId
  rw [hname] at hvalid
  revert hvalid
  decide

/-- The host parser accepts a file exactly if the device parser does and the three host checks
pass on what the device parser shows; the two results then agree field by field. -/
theorem parseImage_agrees_with_device (c : Crates) (hc : c.Sec1Lawful) (b : Buffer .host)
    (prior : ImageView) :
    ((∃ i, parseImage c b.bytes = .ok i) ↔
      ∃ v, call (rampartImageParse .host (some b.start) b.len) (some prior) = .ok (.ok, some v) ∧
        HostChecks c v) ∧
    ∀ i v, parseImage c b.bytes = .ok i →
      call (rampartImageParse .host (some b.start) b.len) (some prior) = .ok (.ok, some v) →
      ImagesAgree i v := by
  have hdevice := fun v => Core.parseImage_eq_ok_iff b prior (some v)
  simp only [Core.parseImage, Option.some.injEq] at hdevice
  have hshows {g : Image} (hb : b.bytes = g.bytes) : (imageViewAt b.start g).Shows g.bytes g :=
    imageViewAt_shows (show b.start.Points g.bytes from hb ▸ b.points)
  simp only [parseImage_eq_ok_iff, hdevice]
  refine ⟨⟨?_, ?_⟩, ?_⟩
  · rintro ⟨i, g, hb, hi, hkey⟩
    obtain ⟨point, hpoint, -⟩ := id hkey
    refine ⟨_, ⟨g, hb, hc.tag _ _ hpoint, rfl⟩, (hostChecks_iff hc (hshows hb)).mpr ⟨?_, hkey⟩⟩
    rw [← hi.manifest.artifactId]
    exact i.manifest.artifactId.isValidUTF8
  · rintro ⟨_, ⟨g, hb, -, rfl⟩, hchecks⟩
    obtain ⟨htext, hkey⟩ := (hostChecks_iff hc (hshows hb)).mp hchecks
    obtain ⟨m, hm⟩ := exists_manifest_shows htext
    exact ⟨parsedImageOf g m, g, hb, parsedImageOf_shows hm, hkey⟩
  · rintro i _ ⟨g, hb, hi, -⟩ ⟨h, hb', -, rfl⟩
    obtain rfl := Image.bytes_inj (hb.symm.trans hb')
    exact imagesAgree_of_shows hb hi

def sampleBuffer : Buffer .host where
  bytes := sampleImage.bytes
  fits := by
    rw [Image.bytes_length]
    decide

theorem parseImage_agrees_with_device_sample :
    ((∃ i, parseImage sampleCrates sampleBuffer.bytes = .ok i) ↔
      ∃ v, call (rampartImageParse .host (some sampleBuffer.start) sampleBuffer.len)
        (some .zero) = .ok (.ok, some v) ∧ HostChecks sampleCrates v) ∧
    ∀ i v, parseImage sampleCrates sampleBuffer.bytes = .ok i →
      call (rampartImageParse .host (some sampleBuffer.start) sampleBuffer.len) (some .zero) =
        .ok (.ok, some v) →
      ImagesAgree i v :=
  parseImage_agrees_with_device sampleCrates sampleCrates_sec1Lawful sampleBuffer .zero

end RampartBoot.Host

import RampartBoot.Host.Agreement
import RampartBoot.Host.Verify

/-! # What a positive verdict of the host says about the device

`rampart_manifest_validate_basic` repeats the policy of `verify_image` and refuses an empty
payload besides. The signer refuses it as well, but nothing on the way from a file to the
verdict of the host does.
-/

namespace RampartBoot.Host
open Foundation Format RampartBoot.Core

def DeviceTarget.onDevice (t : DeviceTarget) : TargetId :=
  ⟨t.vendorId, t.productId, t.hardwareFamily, t.componentId⟩

/-- The device parses the image and accepts its manifest for the target `t` and the epoch `e`. -/
def DeviceAccepts (b : Buffer .host) (prior : ImageView) (t : DeviceTarget) (e : UInt32) : Prop :=
  ∃ v, call (rampartImageParse .host (some b.start) b.len) (some prior) = .ok (.ok, some v) ∧
    rampartManifestValidateBasic (some v.manifest) (some t.onDevice) e = .ok

/-- A positive verdict of the host means that the device accepts. -/
def HostPredictsDevice (c : Crates) (b : Buffer .host) (prior : ImageView) (t : DeviceTarget)
    (e : UInt32) : Prop :=
  ∀ report, verifyImage c b.bytes ⟨some t, e⟩ = .ok report → report.isValid = true →
    DeviceAccepts b prior t e

variable {c : Crates} {b : Buffer .host} {prior : ImageView} {t : DeviceTarget} {e : UInt32}
  {g : Image}

/-- The device's policy on a view with the fields `f`, check by check. -/
theorem validateBasic_eq_ok_iff (p : Ptr UInt8) (f : ManifestFields) (n : ℕ) (d : TargetId)
    (e : UInt32) : rampartManifestValidateBasic (some (manifestViewAt p f n)) (some d) e = .ok ↔
      f.digestAlgorithm = 1 ∧ f.signatureAlgorithm = 1 ∧
        (f.vendorId = d.vendorId ∧ f.productId = d.productId ∧
          f.hardwareFamily = d.hardwareFamily ∧ f.componentId = d.componentId) ∧
        e ≤ f.securityEpoch ∧ f.payloadSize ≠ 0 := by
  simp only [rampartManifestValidateBasic, manifestViewAt, rampartTargetValidateBinding,
    rampartTargetMatches]
  by_cases hd : f.digestAlgorithm = 1
  · by_cases hs : f.signatureAlgorithm = 1
    · by_cases ht : f.vendorId = d.vendorId ∧ f.productId = d.productId ∧
          f.hardwareFamily = d.hardwareFamily ∧ f.componentId = d.componentId
      · by_cases he : f.securityEpoch < e
        · simp [hd, hs, ht, he]
        · by_cases hp : f.payloadSize = 0
          · simp [hd, hs, ht, he, hp]
          · simp [hd, hs, ht, he, hp, UInt32.not_lt.mp he]
      · simp [hd, hs, ht, and_assoc]
    · simp [hs]
  · simp [hd]

/-- Every other requirement of the device is one of the host. -/
theorem deviceAccepts_iff (hc : c.Sec1Lawful) (hb : b.bytes = g.bytes)
    (hg : Verifies c ⟨some t, e⟩ g) : DeviceAccepts b prior t e ↔ g.payload ≠ [] := by
  obtain ⟨point, s, hpoint, -⟩ := hg.signature
  have htag := hc.tag _ _ hpoint
  have hparse := Core.parseImage_accept b prior hb htag
  rw [Core.parseImage] at hparse
  have hsize : g.manifest.payloadSize ≠ 0 ↔ g.payload ≠ [] := by
    rw [← List.length_pos_iff, g.payload_length, ne_eq, ← UInt32.toNat_inj, UInt32.toNat_zero]
    omega
  have hpolicy : rampartManifestValidateBasic (some (imageViewAt b.start g).manifest)
      (some t.onDevice) e = .ok ↔ g.payload ≠ [] := by
    rw [← hsize]
    refine (validateBasic_eq_ok_iff _ _ _ _ _).trans ?_
    have hv := g.manifest.valid
    have htarget := hg.target t rfl
    constructor
    · rintro ⟨-, -, -, -, hp⟩
      exact hp
    · exact fun hp => ⟨hv.digestAlgorithm, hv.signatureAlgorithm, htarget, hg.epoch, hp⟩
  constructor
  · rintro ⟨v, hv, hok⟩
    rw [hparse] at hv
    obtain rfl : imageViewAt b.start g = v := by simpa using hv
    exact hpolicy.mp hok
  · exact fun hp => ⟨_, hparse, hpolicy.mpr hp⟩

/-- The verdict of the host predicts the device's, except on a verified image with an empty
payload. -/
theorem hostPredictsDevice_iff (c : Crates) (hc : c.Sec1Lawful) (b : Buffer .host)
    (prior : ImageView) (t : DeviceTarget) (e : UInt32) : HostPredictsDevice c b prior t e ↔
      ∀ g : Image, b.bytes = g.bytes → Verifies c ⟨some t, e⟩ g → g.payload ≠ [] := by
  constructor
  · intro h g hb hg
    obtain ⟨report, hreport, hvalid⟩ := exists_report_of_verifies hg
    rw [← hb] at hreport
    exact (deviceAccepts_iff hc hb hg).mp (h report hreport hvalid)
  · intro h report hreport hvalid
    obtain ⟨g, hb, hg⟩ := verifies_of_report hreport hvalid
    exact (deviceAccepts_iff hc hb hg).mpr (h g hb hg)

def sampleTarget : DeviceTarget := ⟨1380011344, 1, 1413, 16⟩

theorem hostPredictsDevice_sample :
    HostPredictsDevice sampleCrates sampleBuffer .zero sampleTarget 12 := by
  rw [hostPredictsDevice_iff sampleCrates sampleCrates_sec1Lawful]
  intro g hb _
  obtain rfl := Image.bytes_inj (g := sampleImage) hb
  decide

def emptyManifest : Manifest where
  toManifestFields := { sampleManifest.toManifestFields with
    payloadSize := 0
    payloadDigest :=
      #v[227, 176, 196, 66, 152, 252, 28, 20, 154, 251, 244, 200, 153, 111, 185, 36, 39, 174, 65,
         228, 100, 155, 147, 76, 164, 149, 153, 27, 120, 82, 184, 85] }
  artifactId := sampleManifest.artifactId
  valid := by constructor <;> decide
  artifactId_pos := by decide
  artifactId_le := by decide

/-- An image without a payload, signed with the key of the sample. -/
def emptyImage : Image where
  manifest := emptyManifest
  payload := []
  signature :=
    #v[194, 154, 184, 191, 0, 141, 202, 27, 138, 72, 245, 248, 120, 105, 177, 204, 7, 170, 214,
       143, 192, 229, 35, 129, 53, 29, 50, 151, 117, 237, 69, 82, 42, 82, 48, 6, 191, 42, 251,
       206, 29, 39, 22, 97, 218, 24, 89, 11, 100, 248, 200, 111, 239, 30, 131, 107, 156, 222, 116,
       197, 84, 139, 119, 202]
  publicKey := sampleImage.publicKey
  payload_length := by decide
  fits := by decide

def emptyCrates : Crates where
  SigningKey := Unit
  VerifyingKey := Unit
  Signature := Vector UInt8 64
  sha256 m := if m = [] then emptyManifest.payloadDigest else sampleCrates.sha256 m
  fromPkcs8Pem := sampleCrates.fromPkcs8Pem
  verifyingKey _ := ()
  sign _ _ := emptyImage.signature
  signatureToBytes s := s
  signatureFromSlice := sampleCrates.signatureFromSlice
  fromSec1Bytes := sampleCrates.fromSec1Bytes
  toEncodedPoint := sampleCrates.toEncodedPoint
  verify _ m s := m == emptyImage.signedRegion && s == emptyImage.signature

theorem emptyCrates_sec1Lawful : emptyCrates.Sec1Lawful :=
  ⟨sampleCrates_sec1Lawful.tag, sampleCrates_sec1Lawful.encode_decode⟩

def emptyBuffer : Buffer .host where
  bytes := emptyImage.bytes
  fits := by
    rw [Image.bytes_length]
    decide

theorem emptyImage_verifies : Verifies emptyCrates ⟨some sampleTarget, 12⟩ emptyImage where
  artifactId := by
    have hname : asBytes sampleHostManifest.artifactId = emptyImage.manifest.artifactId :=
      sampleHostManifest_shows.artifactId
    rw [← hname]
    exact sampleHostManifest.artifactId.isValidUTF8
  payloadSize := emptyImage.payload_length
  payloadDigest := by simp [emptyCrates, emptyImage]
  recordKeyId := by
    rw [slice_eq_toList (by rw [Image.signatureSection_length]; decide)]
    exact emptyImage.signatureLayout.1.keyId
  signature := by
    refine ⟨(), emptyImage.signature, ?_, ?_, ?_, ?_⟩
    · simp [emptyCrates, sampleCrates, emptyImage]
    · decide
    · exact sampleCrates_signature_decode emptyImage.signature
    · simp [emptyCrates, Image.signedRegion]
  target := by
    rintro _ ⟨⟩
    decide
  epoch := by decide

theorem not_hostPredictsDevice_empty :
    ¬ HostPredictsDevice emptyCrates emptyBuffer .zero sampleTarget 12 := by
  intro h
  obtain ⟨report, hreport, hvalid⟩ := exists_report_of_verifies emptyImage_verifies
  have haccepts := (deviceAccepts_iff emptyCrates_sec1Lawful (b := emptyBuffer) rfl
    emptyImage_verifies).mp (h report hreport hvalid)
  exact haccepts rfl

end RampartBoot.Host

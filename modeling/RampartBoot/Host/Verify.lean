import RampartBoot.Host.RoundTrip

/-! # Verification of images on the host -/

namespace RampartBoot.Host
open Foundation Format

structure DeviceTarget where
  vendorId : UInt32
  productId : UInt32
  hardwareFamily : UInt32
  componentId : UInt32
  deriving DecidableEq, Repr

structure VerificationOptions where
  deviceTarget : Option DeviceTarget
  minimumSecurityEpoch : UInt32
  deriving DecidableEq, Repr

structure VerificationReport where
  image : ParsedImage
  payloadDigestValid : Bool
  signatureValid : Bool
  targetValid : Bool
  securityEpochValid : Bool
  deriving DecidableEq

def VerificationReport.isValid (report : VerificationReport) : Bool :=
  report.payloadDigestValid && report.signatureValid && report.targetValid &&
    report.securityEpochValid

variable {ε : Type}

def digestPayload (c : Crates) (payload : List UInt8) : Checked ε (Vector UInt8 32) :=
  copyFromSlice 32 (c.sha256 payload).toList

def targetMatches (manifest : RampartManifest) (target : DeviceTarget) : Bool :=
  manifest.vendorId == target.vendorId && manifest.productId == target.productId &&
    manifest.hardwareFamily == target.hardwareFamily && manifest.componentId == target.componentId

def verifySignature (c : Crates) (bytes : List UInt8) (image : ParsedImage) : Res Bool := do
  let signedRegion ← sliceRange bytes image.signedRegionRange
  let verifyingKey ← okOr (c.fromSec1Bytes image.signature.publicKey.toList)
    "signature public key is not valid P-256 SEC1"
  let signature ← okOr (c.signatureFromSlice image.signature.signature.toList)
    "signature bytes are not a valid P-256 ECDSA signature"
  pure (c.verify verifyingKey signedRegion signature)

def verifyImage (c : Crates) (bytes : List UInt8) (options : VerificationOptions) :
    Res VerificationReport := do
  let image ← parseImage c bytes
  let digest ← digestPayload c (← sliceRange bytes image.payloadRange)
  let payloadDigestValid := digest == image.manifest.payloadDigest
  let signatureValid ← verifySignature c bytes image
  let targetValid := match options.deviceTarget with
    | some target => targetMatches image.manifest target
    | none => true
  let securityEpochValid := decide (image.manifest.securityEpoch ≥ options.minimumSecurityEpoch)
  pure {
    image := image
    payloadDigestValid := payloadDigestValid
    signatureValid := signatureValid
    targetValid := targetValid
    securityEpochValid := securityEpochValid }

variable {c : Crates} {b : List UInt8} {g : Image} {options : VerificationOptions}

def TargetBound (options : VerificationOptions) (m : ManifestFields) : Prop :=
  ∀ t, options.deviceTarget = some t → m.vendorId = t.vendorId ∧ m.productId = t.productId ∧
    m.hardwareFamily = t.hardwareFamily ∧ m.componentId = t.componentId

theorem targetMatches_iff {m : RampartManifest} {t : DeviceTarget} : targetMatches m t = true ↔
    m.fields.vendorId = t.vendorId ∧ m.fields.productId = t.productId ∧
      m.fields.hardwareFamily = t.hardwareFamily ∧ m.fields.componentId = t.componentId := by
  simp only [targetMatches, Bool.and_eq_true, beq_iff_eq, and_assoc, RampartManifest.fields]

/-- What `verify_image` reports on `g` under the key `point` and the signature `s`. -/
structure Reports (c : Crates) (options : VerificationOptions) (g : Image)
    (point : c.VerifyingKey) (s : c.Signature) (report : VerificationReport) : Prop where
  image : report.image.Shows g
  payloadDigest : report.payloadDigestValid = true ↔ c.sha256 g.payload = g.manifest.payloadDigest
  signature : report.signatureValid = c.verify point g.signedRegion s
  target : report.targetValid = true ↔ TargetBound options g.manifest.toManifestFields
  epoch : report.securityEpochValid = true ↔
    options.minimumSecurityEpoch ≤ g.manifest.securityEpoch

theorem digestPayload_eq (payload : List UInt8) :
    (digestPayload c payload : Checked ε (Vector UInt8 32)) = .ok (c.sha256 payload) :=
  copyFromSlice_toList

theorem verifySignature_eq_ok_iff {i : ParsedImage} (hi : i.Shows g) (valid : Bool) :
    verifySignature c g.bytes i = .ok valid ↔ ∃ point s,
      c.fromSec1Bytes g.publicKey.toList = some point ∧
      c.signatureFromSlice g.signature.toList = some s ∧
      valid = c.verify point g.signedRegion s := by
  rw [verifySignature, bind_of_eq_ok (sliceRange_signedRegion hi), hi.signature.publicKey,
    hi.signature.signature]
  simp only [okOr_bind_eq_ok, pure_eq_ok_iff]
  constructor
  · rintro ⟨point, hpoint, s, hs, hvalid⟩
    exact ⟨point, s, hpoint, hs, hvalid⟩
  · rintro ⟨point, s, hpoint, hs, hvalid⟩
    exact ⟨point, hpoint, s, hs, hvalid⟩

theorem verifyImage_parsed {i : ParsedImage} (hparse : parseImage c g.bytes = .ok i)
    (hi : i.Shows g) (report : VerificationReport) :
    verifyImage c g.bytes options = .ok report ↔ ∃ point s,
      c.fromSec1Bytes g.publicKey.toList = some point ∧
      c.signatureFromSlice g.signature.toList = some s ∧ report.image = i ∧
      Reports c options g point s report := by
  have hfields := hi.manifest.fields
  have hdigest := hi.manifest.payloadDigest
  have hepoch : i.manifest.securityEpoch = g.manifest.securityEpoch := by rw [← hfields]; rfl
  have htarget : (match options.deviceTarget with
      | some target => targetMatches i.manifest target
      | none => true) = true ↔ TargetBound options g.manifest.toManifestFields := by
    unfold TargetBound
    cases options.deviceTarget with
    | none => simp
    | some t =>
      rw [targetMatches_iff, hfields]
      simp
  rw [verifyImage, bind_of_eq_ok hparse, bind_of_eq_ok (sliceRange_payload hi),
    bind_of_eq_ok (digestPayload_eq _), bind_eq_ok_iff]
  simp only [verifySignature_eq_ok_iff hi, pure_eq_ok_iff, hdigest, hepoch]
  constructor
  · rintro ⟨_, ⟨point, s, hpoint, hs, rfl⟩, rfl⟩
    exact ⟨point, s, hpoint, hs, rfl, hi, by simp, rfl, htarget, by simp⟩
  · rintro ⟨point, s, hpoint, hs, rfl, -, hd, hv, ht, he⟩
    refine ⟨_, ⟨point, s, hpoint, hs, rfl⟩, ?_⟩
    obtain ⟨i, d, v, t, e⟩ := report
    simp only [VerificationReport.mk.injEq, true_and]
    refine ⟨Bool.eq_iff_iff.mpr ?_, hv, Bool.eq_iff_iff.mpr ?_, Bool.eq_iff_iff.mpr ?_⟩
    · rw [hd]
      simp
    · exact ht.trans htarget.symm
    · rw [he]
      simp

/-- Reports are made for the images that the parser accepts and whose signature bytes decode. -/
theorem verifyImage_eq_ok_iff (report : VerificationReport) :
    verifyImage c b options = .ok report ↔ ∃ g point s, b = g.bytes ∧
      c.fromSec1Bytes g.publicKey.toList = some point ∧
      c.keyIdOf (c.toEncodedPoint point) = g.manifest.keyId ∧
      c.signatureFromSlice g.signature.toList = some s ∧ Reports c options g point s report := by
  constructor
  · intro h
    obtain ⟨i, hparse, -⟩ := bind_eq_ok_iff.mp h
    obtain ⟨g, rfl, hi, point, hpoint, hid⟩ := (parseImage_eq_ok_iff i).mp hparse
    obtain ⟨point', s, hpoint', hs, -, hreport⟩ := (verifyImage_parsed hparse hi report).mp h
    exact ⟨g, point', s, rfl, hpoint', by
      rwa [← Option.some.inj (hpoint.symm.trans hpoint')], hs, hreport⟩
  · rintro ⟨g, point, s, rfl, hpoint, hid, hs, hreport⟩
    have hparse := (parseImage_eq_ok_iff report.image).mpr
      ⟨g, rfl, hreport.image, point, hpoint, hid⟩
    exact (verifyImage_parsed hparse hreport.image report).mpr
      ⟨point, s, hpoint, hs, rfl, hreport⟩

theorem exists_reports (options : VerificationOptions) {m : RampartManifest}
    (hm : m.Shows g.manifest) (point : c.VerifyingKey) (s : c.Signature) :
    ∃ report, report.image = parsedImageOf g m ∧ Reports c options g point s report := by
  classical
  refine ⟨⟨parsedImageOf g m, decide (c.sha256 g.payload = g.manifest.payloadDigest),
    c.verify point g.signedRegion s, decide (TargetBound options g.manifest.toManifestFields),
    decide (options.minimumSecurityEpoch ≤ g.manifest.securityEpoch)⟩, rfl, ?_⟩
  exact ⟨parsedImageOf_shows hm, decide_eq_true_iff, rfl, decide_eq_true_iff, decide_eq_true_iff⟩

/-- The documented requirements on an image, under given options. -/
structure Verifies (c : Crates) (options : VerificationOptions) (g : Image) : Prop where
  artifactId : (⟨g.manifest.artifactId.toArray⟩ : ByteArray).IsValidUTF8
  payloadSize : g.payload.length = g.manifest.payloadSize.toNat
  payloadDigest : c.sha256 g.payload = g.manifest.payloadDigest
  recordKeyId : slice g.signatureSection 32 8 = g.manifest.keyId.toList
  signature : ∃ point s, c.fromSec1Bytes g.publicKey.toList = some point ∧
    c.keyIdOf (c.toEncodedPoint point) = g.manifest.keyId ∧
    c.signatureFromSlice g.signature.toList = some s ∧
    c.verify point (g.manifest.bytes ++ g.payload) s = true
  target : TargetBound options g.manifest.toManifestFields
  epoch : options.minimumSecurityEpoch ≤ g.manifest.securityEpoch

theorem verifies_of_report {report : VerificationReport}
    (h : verifyImage c b options = .ok report) (hvalid : report.isValid = true) :
    ∃ g : Image, b = g.bytes ∧ Verifies c options g := by
  simp only [VerificationReport.isValid, Bool.and_eq_true] at hvalid
  obtain ⟨⟨⟨hd, hsig⟩, ht⟩, he⟩ := hvalid
  obtain ⟨g, point, s, rfl, hpoint, hid, hs, hr⟩ := (verifyImage_eq_ok_iff report).mp h
  refine ⟨g, rfl, ?_, g.payload_length, hr.payloadDigest.mp hd, ?_,
    ⟨point, s, hpoint, hid, hs, ?_⟩, hr.target.mp ht, hr.epoch.mp he⟩
  · rw [← hr.image.manifest.artifactId]
    exact report.image.manifest.artifactId.isValidUTF8
  · rw [slice_eq_toList (by rw [g.signatureSection_length]; decide)]
    exact g.signatureLayout.1.keyId
  · rw [← Image.signedRegion, ← hr.signature, hsig]

theorem exists_report_of_verifies (h : Verifies c options g) :
    ∃ report, verifyImage c g.bytes options = .ok report ∧ report.isValid = true := by
  obtain ⟨point, s, hpoint, hid, hs, hsig⟩ := h.signature
  obtain ⟨m, hm⟩ := exists_manifest_shows h.artifactId
  obtain ⟨report, -, hr⟩ := exists_reports options hm point s
  refine ⟨report, (verifyImage_eq_ok_iff report).mpr ⟨g, point, s, rfl, hpoint, hid, hs, hr⟩, ?_⟩
  simp only [VerificationReport.isValid, Bool.and_eq_true]
  refine ⟨⟨⟨hr.payloadDigest.mpr h.payloadDigest, ?_⟩, hr.target.mpr h.target⟩,
    hr.epoch.mpr h.epoch⟩
  rw [hr.signature, Image.signedRegion, hsig]

/-- The verdict is positive exactly for the images that meet the documented requirements. -/
theorem verifyImage_valid_iff (c : Crates) (b : List UInt8) (options : VerificationOptions) :
    (∃ report, verifyImage c b options = .ok report ∧ report.isValid = true) ↔
      ∃ g : Image, b = g.bytes ∧ Verifies c options g := by
  constructor
  · rintro ⟨report, h, hvalid⟩
    exact verifies_of_report h hvalid
  · rintro ⟨g, rfl, h⟩
    exact exists_report_of_verifies h

end RampartBoot.Host

import RampartBoot.Host.KeyIdText
import RampartBoot.Host.Verify
import RampartBoot.Host.Version

/-! # Inspection of images on the host

`inspect_image` and `verify_image` take slices of the bytes that `parse_image` accepted, at the
ranges that it returned. These lie inside the bytes, so neither panics.
-/

namespace RampartBoot.Host
open Foundation Format

def optionalStatus (valid : Option Bool) : String :=
  match valid with
  | some true => "valid"
  | some false => "rejected"
  | none => "not checked"

def hexLower (bytes : List UInt8) : String := .ofList (bytes.flatMap byteHex)

/-- `{:08x}` -/
def wordHex (value : UInt32) : String := .ofList ((Nat.toDigits 16 value.toNat).leftpad 8 '0')

def formatImageReport (image : ParsedImage) (payloadDigestValid signatureValid : Option Bool) :
    String :=
  let manifest := image.manifest
  let payloadDigest := hexLower manifest.payloadDigest.toList
  "Rampart Image\n\nArtifact\n  " ++ manifest.artifactId ++
    "\n\nTarget\n  vendor_id        0x" ++ wordHex manifest.vendorId ++
    "\n  product_id       0x" ++ wordHex manifest.productId ++
    "\n  hardware_family  0x" ++ wordHex manifest.hardwareFamily ++
    "\n  hardware_rev     " ++ toString manifest.hardwareRevisionMin.toNat ++
    ".." ++ toString manifest.hardwareRevisionMax.toNat ++
    "\n  component_id     0x" ++ wordHex manifest.componentId ++
    "\n\nVersion\n  " ++ manifest.versionString ++
    "\n\nSecurity Epoch\n  " ++ toString manifest.securityEpoch.toNat ++
    "\n\nPayload\n  " ++ toString manifest.payloadSize.toNat ++
    " bytes\n  SHA-256\n  " ++ payloadDigest ++
    "\n  digest " ++ optionalStatus payloadDigestValid ++
    "\n\nAuthorization\n  role              " ++ roleName manifest.signatureRole ++
    "\n  key_id            0x" ++ keyIdHex manifest.keyId ++
    "\n  signature         ECDSA_P256_SHA256\n  signature " ++ optionalStatus signatureValid ++
    "\n\nTrial Policy\n  attempts          " ++ toString manifest.trialMaxAttempts.toNat ++
    "\n  probation_ms      " ++ toString manifest.trialProbationMs.toNat ++
    "\n\nRollback\n  " ++ rollbackPolicyName manifest.rollbackPolicy ++ "\n"

def inspectImage (c : Crates) (bytes : List UInt8) : Res String := do
  let image ← parseImage c bytes
  let digest ← digestPayload c (← sliceRange bytes image.payloadRange)
  let digestValid := digest == image.manifest.payloadDigest
  pure (formatImageReport image (some digestValid) none)

variable {c : Crates} {b : List UInt8}

/-- Every image that is parsed is inspected, and the report says whether its digest is right. -/
theorem inspectImage_eq_ok_iff {report : String} : inspectImage c b = .ok report ↔
    ∃ g i, b = Image.bytes g ∧ parseImage c b = .ok i ∧ i.Shows g ∧ report =
      formatImageReport i (some (c.sha256 g.payload == g.manifest.payloadDigest)) none := by
  rw [inspectImage, bind_eq_ok_iff]
  constructor
  · rintro ⟨i, hparse, hreport⟩
    obtain ⟨g, rfl, hi, -⟩ := (parseImage_eq_ok_iff i).mp hparse
    rw [bind_of_eq_ok (sliceRange_payload hi), bind_of_eq_ok (digestPayload_eq _), pure_eq_ok_iff,
      hi.manifest.payloadDigest] at hreport
    exact ⟨g, i, rfl, hparse, hi, hreport⟩
  · rintro ⟨g, i, rfl, hparse, hi, rfl⟩
    refine ⟨i, hparse, ?_⟩
    rw [bind_of_eq_ok (sliceRange_payload hi), bind_of_eq_ok (digestPayload_eq _),
      hi.manifest.payloadDigest]
    rfl

theorem faultless_inspectImage : Faultless (inspectImage c b) := by
  refine faultless_parseImage.bind fun i hparse => ?_
  obtain ⟨g, rfl, hi, -⟩ := (parseImage_eq_ok_iff i).mp hparse
  rw [bind_of_eq_ok (sliceRange_payload hi), bind_of_eq_ok (digestPayload_eq _)]
  trivial

theorem faultless_verifyImage {options : VerificationOptions} :
    Faultless (verifyImage c b options) := by
  refine faultless_parseImage.bind fun i hparse => ?_
  obtain ⟨g, rfl, hi, -⟩ := (parseImage_eq_ok_iff i).mp hparse
  rw [bind_of_eq_ok (sliceRange_payload hi), bind_of_eq_ok (digestPayload_eq _), verifySignature,
    bind_of_eq_ok (sliceRange_signedRegion hi)]
  simp only [Faultless, wp_bind, wp_okOr, wp_pure, implies_true, and_self]

/-- Host parsing never panics, and neither do the functions that take slices of what it
accepted. -/
theorem hostParsing_faultless (c : Crates) (b : List UInt8) (options : VerificationOptions) :
    Faultless (parseImage c b) ∧ Faultless (inspectImage c b) ∧
      Faultless (verifyImage c b options) :=
  ⟨faultless_parseImage, faultless_inspectImage, faultless_verifyImage⟩

end RampartBoot.Host

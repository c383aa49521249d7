import RampartBoot.Host.Basic

/-! # The host manifest codec -/

namespace RampartBoot.Host
open Foundation

variable {ε : Type}

def asBytes (s : String) : List UInt8 := s.toByteArray.data.toList

/-- `std::str::from_utf8`, the error dropped -/
def fromUtf8 (bytes : List UInt8) : Option String := String.fromUTF8? ⟨bytes.toArray⟩

theorem fromUtf8_eq_some_iff {b : List UInt8} {s : String} :
    fromUtf8 b = some s ↔ asBytes s = b := by
  unfold fromUtf8 String.fromUTF8? asBytes
  constructor
  · intro h
    split_ifs at h with hv
    obtain rfl := Option.some.inj h
    rfl
  · rintro rfl
    have hs : (⟨s.toByteArray.data.toList.toArray⟩ : ByteArray) = s.toByteArray := rfl
    rw [dif_pos (hs ▸ s.isValidUTF8)]
    rfl

structure RampartManifest where
  artifactId : String
  vendorId : UInt32
  productId : UInt32
  hardwareFamily : UInt32
  hardwareRevisionMin : UInt32
  hardwareRevisionMax : UInt32
  componentId : UInt32
  securityEpoch : UInt32
  versionMajor : UInt16
  versionMinor : UInt16
  versionPatch : UInt16
  payloadSize : UInt32
  payloadDigest : Vector UInt8 32
  signatureRole : UInt16
  signatureThreshold : UInt16
  signatureCount : UInt16
  keyId : Vector UInt8 8
  trialMaxAttempts : UInt16
  trialProbationMs : UInt32
  rollbackPolicy : UInt16
  requirementCount : UInt16
  dependencyCount : UInt16
  healthRequiredCount : UInt16
  deriving DecidableEq

def isKnownRole (role : UInt16) : Bool :=
  role == 1 || role == 2 || role == 3 || role == 4 || role == 5 || role == 6

def isKnownRollbackPolicy (policy : UInt16) : Bool := policy == 0 || policy == 1

/-- The loop `while out.len() % 4 != 0` of `encode_manifest`. -/
def pushPadding (out : List UInt8) : List UInt8 :=
  if out.length % 4 ≠ 0 then pushPadding (out ++ [0]) else out
termination_by (4 - out.length % 4) % 4
decreasing_by
  simp only [List.length_append, List.length_singleton]
  omega

/-- The writes of `encode_manifest` into the fixed header. -/
def writeManifestHeader (manifest : RampartManifest) (artifactIdLen : ℕ) :
    Checked ε (List UInt8) := do
  let out := zeros 128
  let out ← copyInto out 0 8 (ascii ['R', 'P', 'M', 'F', 'S', 'T', '0', '1'])
  let out ← writeU16 out 8 1
  let out ← writeU16 out 10 (← expect (u16TryFrom 128))
  let out ← writeU32 out 16 manifest.vendorId
  let out ← writeU32 out 20 manifest.productId
  let out ← writeU32 out 24 manifest.hardwareFamily
  let out ← writeU32 out 28 manifest.hardwareRevisionMin
  let out ← writeU32 out 32 manifest.hardwareRevisionMax
  let out ← writeU32 out 36 manifest.componentId
  let out ← writeU32 out 40 manifest.securityEpoch
  let out ← writeU16 out 44 manifest.versionMajor
  let out ← writeU16 out 46 manifest.versionMinor
  let out ← writeU16 out 48 manifest.versionPatch
  let out ← writeU16 out 50 1
  let out ← writeU32 out 52 manifest.payloadSize
  let out ← copyInto out 56 88 manifest.payloadDigest.toList
  let out ← writeU16 out 88 1
  let out ← writeU16 out 90 manifest.signatureRole
  let out ← writeU16 out 92 manifest.signatureThreshold
  let out ← writeU16 out 94 manifest.signatureCount
  let out ← copyInto out 96 104 manifest.keyId.toList
  let out ← writeU16 out 104 manifest.trialMaxAttempts
  let out ← writeU16 out 106 manifest.rollbackPolicy
  let out ← writeU32 out 108 manifest.trialProbationMs
  let out ← writeU16 out 112 (← expect (u16TryFrom artifactIdLen))
  let out ← writeU16 out 114 manifest.requirementCount
  let out ← writeU16 out 116 manifest.dependencyCount
  writeU16 out 118 manifest.healthRequiredCount

def encodeManifest (manifest : RampartManifest) : Res (List UInt8) := do
  let artifactId := asBytes manifest.artifactId
  rejectIf (artifactId.length > 128) "artifact_id must be at most 128 bytes"
  let out ← writeManifestHeader manifest artifactId.length
  let out := pushPadding (out ++ artifactId)
  let manifestSize ← okOr (u32TryFrom out.length) "manifest size exceeds Rampart image v1 limit"
  writeU32 out 12 manifestSize

def parseManifest (bytes : List UInt8) : Res RampartManifest := do
  rejectIf (bytes.length < 128) "manifest is shorter than the fixed header"
  requireMagic (← sliceRange bytes ⟨0, 8⟩) (ascii ['R', 'P', 'M', 'F', 'S', 'T', '0', '1'])
    "manifest"
  requireU16 bytes 8 1 "manifest format version"
  requireU16 bytes 10 (← expect (u16TryFrom 128)) "manifest header size"
  let manifestSize ← readU32 bytes 12
  rejectIf (manifestSize.toNat ≠ bytes.length) "manifest size does not match section size"
  requireU16 bytes 50 1 "digest algorithm"
  requireU16 bytes 88 1 "signature algorithm"
  let artifactIdLen := (← readU16 bytes 112).toNat
  rejectIf (artifactIdLen = 0 ∨ artifactIdLen > 128) "artifact_id length is invalid"
  let artifactIdEnd ← checkedAdd 128 artifactIdLen
  let paddingLen := (← sizeSub 4 (artifactIdEnd % 4)) % 4
  let canonicalManifestSize ← checkedAdd artifactIdEnd paddingLen
  rejectIf (canonicalManifestSize ≠ bytes.length) "manifest padding length is not canonical"
  requireZeroes (← sliceRange bytes ⟨120, 128⟩) "manifest reserved bytes"
  requireZeroes (← sliceRange bytes ⟨artifactIdEnd, bytes.length⟩) "manifest trailing padding"
  let artifactId ← okOr (fromUtf8 (← sliceRange bytes ⟨128, artifactIdEnd⟩))
    "artifact_id must be UTF-8"
  let payloadDigest ← copyFromSlice 32 (← sliceRange bytes ⟨56, 88⟩)
  let keyId ← copyFromSlice 8 (← sliceRange bytes ⟨96, 104⟩)
  let hardwareRevisionMin ← readU32 bytes 28
  let hardwareRevisionMax ← readU32 bytes 32
  rejectIf (hardwareRevisionMin > hardwareRevisionMax) "hardware revision range is invalid"
  let signatureRole ← readU16 bytes 90
  rejectIf (!isKnownRole signatureRole) "signature role is unknown"
  let rollbackPolicy ← readU16 bytes 106
  rejectIf (!isKnownRollbackPolicy rollbackPolicy) "rollback policy is unknown"
  let signatureThreshold ← readU16 bytes 92
  let signatureCount ← readU16 bytes 94
  rejectIf (signatureThreshold ≠ 1 ∨ signatureCount ≠ 1)
    "image v1 requires exactly one signature"
  let requirementCount ← readU16 bytes 114
  let dependencyCount ← readU16 bytes 116
  let healthRequiredCount ← readU16 bytes 118
  rejectIf (requirementCount ≠ 0 ∨ dependencyCount ≠ 0 ∨ healthRequiredCount ≠ 0)
    "image v1 does not support manifest extension counts yet"
  pure {
    artifactId := artifactId
    vendorId := ← readU32 bytes 16
    productId := ← readU32 bytes 20
    hardwareFamily := ← readU32 bytes 24
    hardwareRevisionMin := hardwareRevisionMin
    hardwareRevisionMax := hardwareRevisionMax
    componentId := ← readU32 bytes 36
    securityEpoch := ← readU32 bytes 40
    versionMajor := ← readU16 bytes 44
    versionMinor := ← readU16 bytes 46
    versionPatch := ← readU16 bytes 48
    payloadSize := ← readU32 bytes 52
    payloadDigest := payloadDigest
    signatureRole := signatureRole
    signatureThreshold := signatureThreshold
    signatureCount := signatureCount
    keyId := keyId
    trialMaxAttempts := ← readU16 bytes 104
    trialProbationMs := ← readU32 bytes 108
    rollbackPolicy := rollbackPolicy
    requirementCount := requirementCount
    dependencyCount := dependencyCount
    healthRequiredCount := healthRequiredCount }

end RampartBoot.Host

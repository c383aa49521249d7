import RampartBoot.Core.Binary
import RampartBoot.Format.Manifest

/-! # The device manifest parser

`rampart_manifest_parse_v1` reads a manifest section in place: the view it publishes holds
the scalar fields by value and points into the section for the rest.
-/

namespace RampartBoot.Core
open Foundation

structure TargetId where
  vendorId : UInt32
  productId : UInt32
  hardwareFamily : UInt32
  componentId : UInt32
  deriving DecidableEq, Repr

structure ManifestView where
  formatVersion : UInt32
  artifactId : Option (Ptr UInt8)
  artifactIdLen : ℕ
  target : TargetId
  hardwareRevisionMin : UInt32
  hardwareRevisionMax : UInt32
  securityEpoch : UInt32
  versionMajor : UInt16
  versionMinor : UInt16
  versionPatch : UInt16
  digestAlgorithm : UInt16
  payloadSize : UInt32
  payloadDigest : Option (Ptr UInt8)
  payloadDigestLen : ℕ
  signatureAlgorithm : UInt16
  requiredKeyRole : UInt16
  signatureThreshold : UInt16
  signatureCount : UInt16
  keyId : Option (Ptr UInt8)
  keyIdLen : ℕ
  trialMaxAttempts : UInt16
  trialProbationMs : UInt32
  rollbackPolicy : UInt16
  requirementCount : UInt16
  dependencyCount : UInt16
  healthRequiredCount : UInt16
  deriving DecidableEq, Repr

def ManifestView.zero : ManifestView :=
  ⟨0, none, 0, ⟨0, 0, 0, 0⟩, 0, 0, 0, 0, 0, 0, 0, 0, none, 0, 0, 0, 0, 0, none, 0, 0, 0, 0, 0, 0, 0⟩

/-- `valid_key_role` of `manifest.c`, which `trust.c` repeats as `valid_role`. -/
def validKeyRole (role : UInt16) : Bool :=
  role == 1 || role == 2 || role == 3 || role == 4 || role == 5 || role == 6

def validRollbackPolicy (policy : UInt16) : Bool := policy == 0 || policy == 1

/-- The body of `rampart_manifest_parse_v1` between its `NULL` check and `*out = parsed`. -/
def readManifestV1 (z : SizeT) (bytes : Option (Ptr UInt8)) (len : ℕ) :
    Checked Status ManifestView := do
  rejectIf (len < 128) .manifestFormat
  let magic ← rampartBinaryBytesMatch bytes (literal ['R', 'P', 'M', 'F', 'S', 'T', '0', '1']) 8
  rejectIf (!magic) .manifestFormat
  let manifestSize ← rampartBinaryReadU32Le z bytes len 12
  rejectIf (z.ofU32 manifestSize ≠ len) .manifestFormat
  let formatVersion ← rampartBinaryReadU16Le z bytes len 8
  rejectIf (formatVersion ≠ 1) .manifestFormat
  let headerSize ← rampartBinaryReadU16Le z bytes len 10
  rejectIf (headerSize ≠ 128) .manifestFormat
  let vendorId ← rampartBinaryReadU32Le z bytes len 16
  let productId ← rampartBinaryReadU32Le z bytes len 20
  let hardwareFamily ← rampartBinaryReadU32Le z bytes len 24
  let hardwareRevisionMin ← rampartBinaryReadU32Le z bytes len 28
  let hardwareRevisionMax ← rampartBinaryReadU32Le z bytes len 32
  rejectIf (hardwareRevisionMin > hardwareRevisionMax) .manifestFormat
  let componentId ← rampartBinaryReadU32Le z bytes len 36
  let securityEpoch ← rampartBinaryReadU32Le z bytes len 40
  let versionMajor ← rampartBinaryReadU16Le z bytes len 44
  let versionMinor ← rampartBinaryReadU16Le z bytes len 46
  let versionPatch ← rampartBinaryReadU16Le z bytes len 48
  let digestAlgorithm ← rampartBinaryReadU16Le z bytes len 50
  rejectIf (digestAlgorithm ≠ 1) .manifestFormat
  let payloadSize ← rampartBinaryReadU32Le z bytes len 52
  let payloadDigest ← address bytes 56
  let signatureAlgorithm ← rampartBinaryReadU16Le z bytes len 88
  rejectIf (signatureAlgorithm ≠ 1) .manifestFormat
  let requiredKeyRole ← rampartBinaryReadU16Le z bytes len 90
  rejectIf (!validKeyRole requiredKeyRole) .manifestFormat
  let signatureThreshold ← rampartBinaryReadU16Le z bytes len 92
  let signatureCount ← rampartBinaryReadU16Le z bytes len 94
  rejectIf (signatureThreshold ≠ 1 ∨ signatureCount ≠ 1) .manifestFormat
  let keyId ← address bytes 96
  let trialMaxAttempts ← rampartBinaryReadU16Le z bytes len 104
  let rollbackPolicy ← rampartBinaryReadU16Le z bytes len 106
  rejectIf (!validRollbackPolicy rollbackPolicy) .manifestFormat
  let trialProbationMs ← rampartBinaryReadU32Le z bytes len 108
  let artifactIdLen ← rampartBinaryReadU16Le z bytes len 112
  rejectIf (artifactIdLen = 0 ∨ artifactIdLen > 128) .manifestFormat
  let artifactIdEnd ← rampartBinaryCheckedAddSize z 128 artifactIdLen.toNat
  let toBoundary ← sizeSub 4 (artifactIdEnd % 4)
  let paddingLen := toBoundary % 4
  let canonicalManifestSize ← rampartBinaryCheckedAddSize z artifactIdEnd paddingLen
  rejectIf (canonicalManifestSize ≠ len) .manifestFormat
  let artifactId ← address bytes 128
  let requirementCount ← rampartBinaryReadU16Le z bytes len 114
  let dependencyCount ← rampartBinaryReadU16Le z bytes len 116
  let healthRequiredCount ← rampartBinaryReadU16Le z bytes len 118
  rejectIf (requirementCount ≠ 0 ∨ dependencyCount ≠ 0 ∨ healthRequiredCount ≠ 0) .manifestFormat
  let reservedBytes ← address bytes 120
  let reservedLen ← sizeSub 128 120
  let reservedZero ← rampartBinaryAllZeroes reservedBytes reservedLen
  rejectIf (!reservedZero) .manifestFormat
  let trailingBytes ← address bytes artifactIdEnd
  let trailingLen ← sizeSub len artifactIdEnd
  let trailingZero ← rampartBinaryAllZeroes trailingBytes trailingLen
  rejectIf (!trailingZero) .manifestFormat
  pure {
    formatVersion := formatVersion.toUInt32
    artifactId := artifactId
    artifactIdLen := artifactIdLen.toNat
    target := ⟨vendorId, productId, hardwareFamily, componentId⟩
    hardwareRevisionMin := hardwareRevisionMin
    hardwareRevisionMax := hardwareRevisionMax
    securityEpoch := securityEpoch
    versionMajor := versionMajor
    versionMinor := versionMinor
    versionPatch := versionPatch
    digestAlgorithm := digestAlgorithm
    payloadSize := payloadSize
    payloadDigest := payloadDigest
    payloadDigestLen := 32
    signatureAlgorithm := signatureAlgorithm
    requiredKeyRole := requiredKeyRole
    signatureThreshold := signatureThreshold
    signatureCount := signatureCount
    keyId := keyId
    keyIdLen := 8
    trialMaxAttempts := trialMaxAttempts
    trialProbationMs := trialProbationMs
    rollbackPolicy := rollbackPolicy
    requirementCount := requirementCount
    dependencyCount := dependencyCount
    healthRequiredCount := healthRequiredCount }

/-- `rampart_manifest_parse_v1`; the state is what `out` points to, `none` for `NULL`. -/
def rampartManifestParseV1 (z : SizeT) (bytes : Option (Ptr UInt8)) (len : ℕ) :
    Prog (Option ManifestView) Status Unit := do
  let out ← get
  rejectIf (bytes.isNone || out.isNone) Status.invalidArgument
  let parsed ← readManifestV1 z bytes len
  set (some parsed)

def rampartTargetMatches (artifactTarget deviceTarget : Option TargetId) : Bool :=
  match artifactTarget, deviceTarget with
  | some a, some d => a.vendorId == d.vendorId && a.productId == d.productId &&
      a.hardwareFamily == d.hardwareFamily && a.componentId == d.componentId
  | _, _ => false

def rampartTargetValidateBinding (artifactTarget deviceTarget : Option TargetId) : Status :=
  if artifactTarget.isNone || deviceTarget.isNone then .invalidArgument
  else if !rampartTargetMatches artifactTarget deviceTarget then .targetMismatch
  else .ok

/-- `rampart_manifest_validate_basic`; `none` stands for `NULL`. -/
def rampartManifestValidateBasic (manifest : Option ManifestView) (deviceTarget : Option TargetId)
    (minimumSecurityEpoch : UInt32) : Status :=
  match manifest, deviceTarget with
  | some m, some d =>
    if m.formatVersion ≠ 1 then .manifestFormat
    else if m.digestAlgorithm ≠ 1 then .manifestFormat
    else if m.signatureAlgorithm ≠ 1 then .manifestFormat
    else
      let targetStatus := rampartTargetValidateBinding (some m.target) (some d)
      if targetStatus ≠ .ok then targetStatus
      else if m.securityEpoch < minimumSecurityEpoch then .securityEpoch
      else if m.payloadSize = 0 then .manifestFormat
      else if m.payloadDigest.isNone ∨ m.payloadDigestLen ≠ 32 then .manifestFormat
      else .ok
  | _, _ => .invalidArgument

end RampartBoot.Core

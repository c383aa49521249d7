import RampartBoot.Host.Manifest

/-! # The host image codec -/

namespace RampartBoot.Host
open Foundation

structure SignatureRecord where
  keyId : Vector UInt8 8
  signature : Vector UInt8 64
  publicKey : Vector UInt8 65
  deriving DecidableEq

structure ParsedImage where
  manifest : RampartManifest
  manifestRange : Range
  payloadRange : Range
  signatureRange : Range
  signedRegionRange : Range
  signature : SignatureRecord
  deriving DecidableEq

def encodeSignatureSection (record : SignatureRecord) (signedRegion : List UInt8) :
    Res (List UInt8) := do
  let signedRegionSize ← okOr (u32TryFrom signedRegion.length)
    "signed region exceeds Rampart image v1 limit"
  let sectionSize := 32 + 160
  let out := zeros sectionSize
  let out ← copyInto out 0 8 (ascii ['R', 'P', 'S', 'I', 'G', 'N', '0', '1'])
  let out ← writeU16 out 8 1
  let out ← writeU16 out 10 (← expect (u16TryFrom 32))
  let out ← writeU32 out 12 (← expect (u32TryFrom sectionSize))
  let out ← writeU32 out 16 (← expect (u32TryFrom 64))
  let out ← writeU32 out 20 signedRegionSize
  let out ← writeU16 out 24 1
  let out ← writeU16 out 26 1
  let out ← writeU16 out 28 (← expect (u16TryFrom 160))
  let recordOffset := 32
  let out ← copyInto out recordOffset (recordOffset + 8) record.keyId.toList
  let out ← writeU16 out (recordOffset + 8) 1
  let out ← writeU16 out (recordOffset + 10) 1
  let out ← writeU16 out (recordOffset + 12) (← expect (u16TryFrom 64))
  let out ← writeU16 out (recordOffset + 14) (← expect (u16TryFrom 65))
  let out ← copyInto out (recordOffset + 16) (recordOffset + 16 + 64) record.signature.toList
  copyInto out (recordOffset + 80) (recordOffset + 80 + 65) record.publicKey.toList

def encodeImage (manifest payload signature : List UInt8) : Res (List UInt8) := do
  let manifestOffset := 64
  let payloadOffset ← checkedAdd manifestOffset manifest.length
  let signatureOffset ← checkedAdd payloadOffset payload.length
  let fileLen ← checkedAdd signatureOffset signature.length
  let signedRegionSize ← checkedAdd manifest.length payload.length
  let out := zeros fileLen
  let out ← copyInto out 0 8 (ascii ['R', 'M', 'P', 'I', 'M', 'G', '0', '1'])
  let out ← writeU16 out 8 1
  let out ← writeU16 out 10 1
  let out ← writeU16 out 12 (← expect (u16TryFrom 64))
  let out ← writeU32 out 16 (← checkedU32 manifestOffset "manifest offset")
  let out ← writeU32 out 20 (← checkedU32 manifest.length "manifest size")
  let out ← writeU32 out 24 (← checkedU32 payloadOffset "payload offset")
  let out ← writeU32 out 28 (← checkedU32 payload.length "payload size")
  let out ← writeU32 out 32 (← checkedU32 signatureOffset "signature offset")
  let out ← writeU32 out 36 (← checkedU32 signature.length "signature size")
  let out ← writeU32 out 40 (← checkedU32 manifestOffset "signed region offset")
  let out ← writeU32 out 44 (← checkedU32 signedRegionSize "signed region size")
  let out ← copyInto out manifestOffset payloadOffset manifest
  let out ← copyInto out payloadOffset signatureOffset payload
  copyInto out signatureOffset fileLen signature

def parseSignatureSection (c : Crates) (bytes : List UInt8)
    (signedRegionOffset signedRegionSize : ℕ) (manifest : RampartManifest) :
    Res SignatureRecord := do
  let expectedSize := 32 + 160
  rejectIf (bytes.length ≠ expectedSize) "signature section size is invalid"
  requireMagic (← sliceRange bytes ⟨0, 8⟩) (ascii ['R', 'P', 'S', 'I', 'G', 'N', '0', '1'])
    "signature section"
  requireU16 bytes 8 1 "signature section format version"
  requireU16 bytes 10 (← expect (u16TryFrom 32)) "signature section header size"
  requireU32 bytes 12 (← expect (u32TryFrom expectedSize)) "signature section size"
  requireU32 bytes 16
    (← okOr (u32TryFrom signedRegionOffset) "signed region offset exceeds u32")
    "signature signed region offset"
  requireU32 bytes 20
    (← okOr (u32TryFrom signedRegionSize) "signed region size exceeds u32")
    "signature signed region size"
  requireU16 bytes 24 1 "signature count"
  requireU16 bytes 26 1 "signature section algorithm"
  requireU16 bytes 28 (← expect (u16TryFrom 160)) "signature record size"
  requireU16 bytes 30 0 "signature reserved field"
  let recordOffset := 32
  let keyId ← copyFromSlice 8 (← sliceRange bytes ⟨recordOffset, recordOffset + 8⟩)
  rejectIf (keyId ≠ manifest.keyId) "signature key ID does not match manifest policy"
  requireU16 bytes (recordOffset + 8) 1 "signature record algorithm"
  requireU16 bytes (recordOffset + 10) 1 "signature record public key algorithm"
  requireU16 bytes (recordOffset + 12) (← expect (u16TryFrom 64)) "signature size"
  requireU16 bytes (recordOffset + 14) (← expect (u16TryFrom 65)) "public key size"
  let signature ← copyFromSlice 64
    (← sliceRange bytes ⟨recordOffset + 16, recordOffset + 16 + 64⟩)
  let publicKey ← copyFromSlice 65
    (← sliceRange bytes ⟨recordOffset + 80, recordOffset + 80 + 65⟩)
  requireZeroes (← sliceRange bytes ⟨recordOffset + 145, recordOffset + 160⟩)
    "signature record padding"
  let verifyingKey ← okOr (c.fromSec1Bytes publicKey.toList)
    "signature record public key is not valid P-256 SEC1"
  let derivedKeyId ← deriveKeyId c verifyingKey
  rejectIf (derivedKeyId ≠ keyId) "signature key ID does not match embedded public key"
  pure { keyId := keyId, signature := signature, publicKey := publicKey }

/-- The locals of `parse_image` once the header has been checked. -/
structure SectionTable where
  payloadSize : ℕ
  signedRegionOffset : ℕ
  signedRegionSize : ℕ
  manifestRange : Range
  payloadRange : Range
  signatureRange : Range
  signedRegionRange : Range

/-- The first part of `parse_image`, up to the four ranges. -/
def parseImageHeader (bytes : List UInt8) : Res SectionTable := do
  rejectIf (bytes.length < 64) "image is shorter than the Rampart header"
  requireMagic (← sliceRange bytes ⟨0, 8⟩) (ascii ['R', 'M', 'P', 'I', 'M', 'G', '0', '1']) "image"
  requireU16 bytes 8 1 "image format version"
  requireU16 bytes 10 1 "image artifact kind"
  requireU16 bytes 12 (← expect (u16TryFrom 64)) "image header size"
  requireU16 bytes 14 0 "image flags"
  let manifestOffset := (← readU32 bytes 16).toNat
  let manifestSize := (← readU32 bytes 20).toNat
  let payloadOffset := (← readU32 bytes 24).toNat
  let payloadSize := (← readU32 bytes 28).toNat
  let signatureOffset := (← readU32 bytes 32).toNat
  let signatureSize := (← readU32 bytes 36).toNat
  let signedRegionOffset := (← readU32 bytes 40).toNat
  let signedRegionSize := (← readU32 bytes 44).toNat
  requireZeroes (← sliceRange bytes ⟨48, 64⟩) "image reserved bytes"
  rejectIf (manifestOffset ≠ 64) "manifest must immediately follow the image header"
  let expectedPayloadOffset ← checkedAdd manifestOffset manifestSize
  rejectIf (payloadOffset ≠ expectedPayloadOffset) "payload must immediately follow the manifest"
  let expectedSignatureOffset ← checkedAdd payloadOffset payloadSize
  rejectIf (signatureOffset ≠ expectedSignatureOffset)
    "signature section must immediately follow the payload"
  let expectedFileLen ← checkedAdd signatureOffset signatureSize
  rejectIf (expectedFileLen ≠ bytes.length) "image length does not match section table"
  rejectIf (signedRegionOffset ≠ manifestOffset) "signed region must start at the manifest"
  rejectIf (signedRegionSize ≠ (← checkedAdd manifestSize payloadSize))
    "signed region must cover manifest and payload"
  let manifestRange ← checkedRange manifestOffset manifestSize bytes.length
  let payloadRange ← checkedRange payloadOffset payloadSize bytes.length
  let signatureRange ← checkedRange signatureOffset signatureSize bytes.length
  let signedRegionRange ← checkedRange signedRegionOffset signedRegionSize bytes.length
  pure {
    payloadSize := payloadSize
    signedRegionOffset := signedRegionOffset
    signedRegionSize := signedRegionSize
    manifestRange := manifestRange
    payloadRange := payloadRange
    signatureRange := signatureRange
    signedRegionRange := signedRegionRange }

/-- The second part of `parse_image`: the manifest and the signature section. -/
def parseImageSections (c : Crates) (bytes : List UInt8) (t : SectionTable) :
    Res ParsedImage := do
  let manifest ← parseManifest (← sliceRange bytes t.manifestRange)
  rejectIf (manifest.payloadSize.toNat ≠ t.payloadSize)
    "manifest payload size does not match image header"
  let signature ← parseSignatureSection c (← sliceRange bytes t.signatureRange)
    t.signedRegionOffset t.signedRegionSize manifest
  pure {
    manifest := manifest
    manifestRange := t.manifestRange
    payloadRange := t.payloadRange
    signatureRange := t.signatureRange
    signedRegionRange := t.signedRegionRange
    signature := signature }

def parseImage (c : Crates) (bytes : List UInt8) : Res ParsedImage := do
  let t ← parseImageHeader bytes
  parseImageSections c bytes t

end RampartBoot.Host

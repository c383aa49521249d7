import RampartBoot.Core.Manifest

/-! # The device image parser

`rampart_image_parse` checks the image header, hands the manifest section to the manifest
parser, checks the signature section and publishes one view of offsets and pointers into
the caller's buffer. Nothing is written before the last check has passed.
-/

namespace RampartBoot.Core
open Foundation

structure SignatureView where
  keyId : Option (Ptr UInt8)
  keyIdLen : ℕ
  signatureAlgorithm : UInt16
  signature : Option (Ptr UInt8)
  signatureLen : ℕ
  publicKey : Option (Ptr UInt8)
  publicKeyLen : ℕ
  deriving DecidableEq, Repr

def SignatureView.zero : SignatureView := ⟨none, 0, 0, none, 0, none, 0⟩

structure ImageView where
  bytes : Option (Ptr UInt8)
  len : ℕ
  manifestOffset : ℕ
  manifestSize : ℕ
  payloadOffset : ℕ
  payloadSize : ℕ
  signatureOffset : ℕ
  signatureSize : ℕ
  signedRegionOffset : ℕ
  signedRegionSize : ℕ
  manifest : ManifestView
  signature : SignatureView
  deriving DecidableEq, Repr

/-- Run a status function on the address of a local variable and read the variable back. -/
def withLocal {τ : Type} (p : Prog (Option τ) Status Unit) (init : τ) : Checked Status τ :=
  match p (some init) with
  | .ok _ (some out) => pure out
  | .ok _ none => fault .null
  | .error e _ => .error e

def requireU16 (z : SizeT) (bytes : Option (Ptr UInt8)) (len offset : ℕ) (expected : UInt16) :
    Checked Status Unit := do
  let actual ← rampartBinaryReadU16Le z bytes len offset
  rejectIf (actual ≠ expected) .imageFormat

def requireU32 (z : SizeT) (bytes : Option (Ptr UInt8)) (len offset : ℕ) (expected : UInt32) :
    Checked Status Unit := do
  let actual ← rampartBinaryReadU32Le z bytes len offset
  rejectIf (actual ≠ expected) .imageFormat

/-- The body of `validate_signature_section` behind its `NULL` checks. -/
def readSignatureSection (z : SizeT) (bytes : Option (Ptr UInt8))
    (len signedRegionOffset signedRegionSize : ℕ) (manifest : ManifestView) :
    Checked Status SignatureView := do
  let recordOffset := 32
  let recordPaddingOffset := recordOffset + 145
  rejectIf (len ≠ 192) .imageFormat
  let magic ← rampartBinaryBytesMatch bytes (literal ['R', 'P', 'S', 'I', 'G', 'N', '0', '1']) 8
  rejectIf (!magic) .imageFormat
  requireU16 z bytes len 8 1
  requireU16 z bytes len 10 32
  requireU32 z bytes len 12 192
  requireU32 z bytes len 16 (UInt32.ofNat signedRegionOffset)
  requireU32 z bytes len 20 (UInt32.ofNat signedRegionSize)
  requireU16 z bytes len 24 1
  requireU16 z bytes len 26 1
  requireU16 z bytes len 28 160
  requireU16 z bytes len 30 0
  let keyId ← address bytes recordOffset
  let sameKey ← rampartBinaryBytesEqual keyId manifest.keyId 8
  rejectIf (!sameKey) .imageFormat
  requireU16 z bytes len (recordOffset + 8) 1
  requireU16 z bytes len (recordOffset + 10) 1
  requireU16 z bytes len (recordOffset + 12) 64
  requireU16 z bytes len (recordOffset + 14) 65
  let signature ← address bytes (recordOffset + 16)
  let publicKey ← address bytes (recordOffset + 80)
  let tag ← load publicKey 0
  rejectIf (tag ≠ 0x04) .imageFormat
  let padding ← address bytes recordPaddingOffset
  let paddingLen ← sizeSub len recordPaddingOffset
  let paddingZero ← rampartBinaryAllZeroes padding paddingLen
  rejectIf (!paddingZero) .imageFormat
  pure {
    keyId := keyId
    keyIdLen := 8
    signatureAlgorithm := 1
    signature := signature
    signatureLen := 64
    publicKey := publicKey
    publicKeyLen := 65 }

/-- `validate_signature_section`; the state is what `out` points to. -/
def validateSignatureSection (z : SizeT) (bytes : Option (Ptr UInt8))
    (len signedRegionOffset signedRegionSize : ℕ) (manifest : Option ManifestView) :
    Prog (Option SignatureView) Status Unit := do
  let out ← get
  match manifest with
  | none => exit Status.invalidArgument
  | some m =>
    rejectIf (bytes.isNone || out.isNone) Status.invalidArgument
    let signature ← readSignatureSection z bytes len signedRegionOffset signedRegionSize m
    set (some signature)

def rangesAvailable {ε : Type} (z : SizeT) (len : ℕ) : List (ℕ × ℕ) → Checked ε Bool
  | [] => pure true
  | (offset, size) :: rest => do
    let available ← rampartBinaryRangeAvailable z offset size len none
    if available.1 then rangesAvailable z len rest else pure false

def ImageView.zero : ImageView := ⟨none, 0, 0, 0, 0, 0, 0, 0, 0, 0, .zero, .zero⟩

/-- The first part of `rampart_image_parse`: the header fields and the section ranges. The
result is `parsed` as it stands before the manifest parser is called. -/
def readImageHeader (z : SizeT) (bytes : Option (Ptr UInt8)) (len : ℕ) :
    Checked Status ImageView := do
  rejectIf (len < 64) .imageFormat
  let magic ← rampartBinaryBytesMatch bytes (literal ['R', 'M', 'P', 'I', 'M', 'G', '0', '1']) 8
  rejectIf (!magic) .imageFormat
  let imageVersion ← rampartBinaryReadU16Le z bytes len 8
  let imageKind ← rampartBinaryReadU16Le z bytes len 10
  let headerSize ← rampartBinaryReadU16Le z bytes len 12
  let flags ← rampartBinaryReadU16Le z bytes len 14
  rejectIf (imageVersion ≠ 1 ∨ imageKind ≠ 1 ∨ headerSize ≠ 64 ∨ flags ≠ 0) .imageFormat
  let manifestOffsetU32 ← rampartBinaryReadU32Le z bytes len 16
  let manifestSizeU32 ← rampartBinaryReadU32Le z bytes len 20
  let payloadOffsetU32 ← rampartBinaryReadU32Le z bytes len 24
  let payloadSizeU32 ← rampartBinaryReadU32Le z bytes len 28
  let signatureOffsetU32 ← rampartBinaryReadU32Le z bytes len 32
  let signatureSizeU32 ← rampartBinaryReadU32Le z bytes len 36
  let signedRegionOffsetU32 ← rampartBinaryReadU32Le z bytes len 40
  let signedRegionSizeU32 ← rampartBinaryReadU32Le z bytes len 44
  let reservedBytes ← address bytes 48
  let reservedLen ← sizeSub 64 48
  let reservedZero ← rampartBinaryAllZeroes reservedBytes reservedLen
  rejectIf (!reservedZero) .imageFormat
  let parsed : ImageView := { ImageView.zero with
    bytes := bytes
    len := len
    manifestOffset := z.ofU32 manifestOffsetU32
    manifestSize := z.ofU32 manifestSizeU32
    payloadOffset := z.ofU32 payloadOffsetU32
    payloadSize := z.ofU32 payloadSizeU32
    signatureOffset := z.ofU32 signatureOffsetU32
    signatureSize := z.ofU32 signatureSizeU32
    signedRegionOffset := z.ofU32 signedRegionOffsetU32
    signedRegionSize := z.ofU32 signedRegionSizeU32 }
  rejectIf (parsed.manifestOffset ≠ 64) .imageFormat
  let expectedPayloadOffset ←
    rampartBinaryCheckedAddSize z parsed.manifestOffset parsed.manifestSize
  rejectIf (parsed.payloadOffset ≠ expectedPayloadOffset) .imageFormat
  let expectedSignatureOffset ←
    rampartBinaryCheckedAddSize z parsed.payloadOffset parsed.payloadSize
  rejectIf (parsed.signatureOffset ≠ expectedSignatureOffset) .imageFormat
  let expectedFileLen ← rampartBinaryCheckedAddSize z parsed.signatureOffset parsed.signatureSize
  rejectIf (expectedFileLen ≠ len) .imageFormat
  rejectIf (parsed.signedRegionOffset ≠ parsed.manifestOffset) .imageFormat
  let expectedSignedRegionSize ←
    rampartBinaryCheckedAddSize z parsed.manifestSize parsed.payloadSize
  rejectIf (parsed.signedRegionSize ≠ expectedSignedRegionSize) .imageFormat
  let available ← rangesAvailable z len [(parsed.manifestOffset, parsed.manifestSize),
    (parsed.payloadOffset, parsed.payloadSize), (parsed.signatureOffset, parsed.signatureSize),
    (parsed.signedRegionOffset, parsed.signedRegionSize)]
  rejectIf (!available) .imageFormat
  pure parsed

/-- The second part of `rampart_image_parse`: the manifest and the signature section. -/
def readImageSections (z : SizeT) (bytes : Option (Ptr UInt8)) (parsed : ImageView) :
    Checked Status ImageView := do
  let manifestBytes ← address bytes parsed.manifestOffset
  let manifest ← withLocal (rampartManifestParseV1 z manifestBytes parsed.manifestSize)
    parsed.manifest
  rejectIf (z.ofU32 manifest.payloadSize ≠ parsed.payloadSize) .imageFormat
  let signatureBytes ← address bytes parsed.signatureOffset
  let signature ← withLocal (validateSignatureSection z signatureBytes parsed.signatureSize
    parsed.signedRegionOffset parsed.signedRegionSize (some manifest)) parsed.signature
  pure { parsed with manifest := manifest, signature := signature }

/-- The body of `rampart_image_parse` between its `NULL` check and `*out = parsed`. -/
def readImage (z : SizeT) (bytes : Option (Ptr UInt8)) (len : ℕ) : Checked Status ImageView := do
  let parsed ← readImageHeader z bytes len
  readImageSections z bytes parsed

/-- `rampart_image_parse`; the state is what `out` points to, `none` for `NULL`. -/
def rampartImageParse (z : SizeT) (bytes : Option (Ptr UInt8)) (len : ℕ) :
    Prog (Option ImageView) Status Unit := do
  let out ← get
  rejectIf (bytes.isNone || out.isNone) Status.invalidArgument
  let parsed ← readImage z bytes len
  set (some parsed)

end RampartBoot.Core

import RampartBoot.Format.Manifest

/-! # The v1 image

An image is a 64-byte header, the manifest section, the payload and a 192-byte signature
section. The signed region is the manifest followed by the payload. The header is not
signed, and neither is the signature section.
-/

namespace RampartBoot.Format
open Foundation

def headerTable (m p : ℕ) : Table UInt8 :=
  [⟨0, 8, ascii ['R', 'M', 'P', 'I', 'M', 'G', '0', '1']⟩,
   ⟨8, 2, u16Bytes 1⟩,
   ⟨10, 2, u16Bytes 1⟩,
   ⟨12, 2, u16Bytes 64⟩,
   ⟨14, 2, u16Bytes 0⟩,
   ⟨16, 4, u32Bytes 64⟩,
   ⟨20, 4, u32Bytes (UInt32.ofNat m)⟩,
   ⟨24, 4, u32Bytes (UInt32.ofNat (64 + m))⟩,
   ⟨28, 4, u32Bytes (UInt32.ofNat p)⟩,
   ⟨32, 4, u32Bytes (UInt32.ofNat (64 + m + p))⟩,
   ⟨36, 4, u32Bytes 192⟩,
   ⟨40, 4, u32Bytes 64⟩,
   ⟨44, 4, u32Bytes (UInt32.ofNat (m + p))⟩,
   ⟨48, 16, zeros 16⟩]

/-- The signature section of a signed region of `n` bytes: a 32-byte header and one record,
whose rows are listed at their offset in the section. -/
def signatureTable (n : ℕ) (keyId : Vector UInt8 8) (signature : Vector UInt8 64)
    (publicKey : Vector UInt8 65) : Table UInt8 :=
  [⟨0, 8, ascii ['R', 'P', 'S', 'I', 'G', 'N', '0', '1']⟩,
   ⟨8, 2, u16Bytes 1⟩,
   ⟨10, 2, u16Bytes 32⟩,
   ⟨12, 4, u32Bytes 192⟩,
   ⟨16, 4, u32Bytes 64⟩,
   ⟨20, 4, u32Bytes (UInt32.ofNat n)⟩,
   ⟨24, 2, u16Bytes 1⟩,
   ⟨26, 2, u16Bytes 1⟩,
   ⟨28, 2, u16Bytes 160⟩,
   ⟨30, 2, u16Bytes 0⟩,
   ⟨32, 8, keyId.toList⟩,
   ⟨40, 2, u16Bytes 1⟩,
   ⟨42, 2, u16Bytes 1⟩,
   ⟨44, 2, u16Bytes 64⟩,
   ⟨46, 2, u16Bytes 65⟩,
   ⟨48, 64, signature.toList⟩,
   ⟨112, 65, publicKey.toList⟩,
   ⟨177, 15, zeros 15⟩]

theorem headerTable_contiguous (m p : ℕ) : (headerTable m p).Contiguous 0 := by
  simp [headerTable, Table.Contiguous, ascii, zeros]

theorem headerTable_size (m p : ℕ) : (headerTable m p).size = 64 := by
  simp [headerTable, Table.size]

theorem signatureTable_contiguous (n : ℕ) (k : Vector UInt8 8) (s : Vector UInt8 64)
    (q : Vector UInt8 65) : (signatureTable n k s q).Contiguous 0 := by
  simp [signatureTable, Table.Contiguous, ascii, zeros]

theorem signatureTable_size (n : ℕ) (k : Vector UInt8 8) (s : Vector UInt8 64)
    (q : Vector UInt8 65) : (signatureTable n k s q).size = 192 := by
  simp [signatureTable, Table.size]

/-- The conditions on the 64 header bytes of `b`, for sections of `m` and `p` bytes, that can
be checked without a look into the sections. The size of the signature section is left out. -/
structure HeaderRanges (m p : ℕ) (b : List UInt8) : Prop where
  magic : slice b 0 8 = ascii ['R', 'M', 'P', 'I', 'M', 'G', '0', '1']
  version : u16At b 8 = 1
  kind : u16At b 10 = 1
  headerSize : u16At b 12 = 64
  flags : u16At b 14 = 0
  manifestOffset : u32At b 16 = 64
  manifestSize : u32At b 20 = UInt32.ofNat m
  payloadOffset : u32At b 24 = UInt32.ofNat (64 + m)
  payloadSize : u32At b 28 = UInt32.ofNat p
  signatureOffset : u32At b 32 = UInt32.ofNat (64 + m + p)
  signedRegionOffset : u32At b 40 = 64
  signedRegionSize : u32At b 44 = UInt32.ofNat (m + p)
  reserved : slice b 48 16 = zeros 16

structure HeaderLayout (m p : ℕ) (b : List UInt8) : Prop extends HeaderRanges m p b where
  signatureSize : u32At b 36 = 192

theorem headerTable_holdsIn_iff {m p : ℕ} {b : List UInt8} (hb : 64 ≤ b.length) :
    (headerTable m p).HoldsIn b ↔ HeaderLayout m p b := by
  simp only [headerTable, Table.holdsIn_cons, Table.holdsIn_nil, and_true]
  simp (disch := omega) only [slice_eq_u16Bytes, slice_eq_u32Bytes]
  constructor
  · rintro ⟨h₁, h₂, h₃, h₄, h₅, h₆, h₇, h₈, h₉, h₁₀, h₁₁, h₁₂, h₁₃, h₁₄⟩
    exact ⟨⟨h₁, h₂, h₃, h₄, h₅, h₆, h₇, h₈, h₉, h₁₀, h₁₂, h₁₃, h₁₄⟩, h₁₁⟩
  · rintro ⟨⟨h₁, h₂, h₃, h₄, h₅, h₆, h₇, h₈, h₉, h₁₀, h₁₂, h₁₃, h₁₄⟩, h₁₁⟩
    exact ⟨h₁, h₂, h₃, h₄, h₅, h₆, h₇, h₈, h₉, h₁₀, h₁₁, h₁₂, h₁₃, h₁₄⟩

/-- The conditions on a signature section `s` for a signed region of `n` bytes and a key ID. -/
structure SignatureLayout (n : ℕ) (keyId : Vector UInt8 8) (s : List UInt8) : Prop where
  length : s.length = 192
  magic : slice s 0 8 = ascii ['R', 'P', 'S', 'I', 'G', 'N', '0', '1']
  version : u16At s 8 = 1
  headerSize : u16At s 10 = 32
  size : u32At s 12 = 192
  signedRegionOffset : u32At s 16 = 64
  signedRegionSize : u32At s 20 = UInt32.ofNat n
  count : u16At s 24 = 1
  algorithm : u16At s 26 = 1
  recordSize : u16At s 28 = 160
  reserved : u16At s 30 = 0
  keyId : vectorAt s 32 8 = keyId
  recordAlgorithm : u16At s 40 = 1
  keyAlgorithm : u16At s 42 = 1
  signatureSize : u16At s 44 = 64
  keySize : u16At s 46 = 65
  trailing : slice s 177 15 = zeros 15

theorem eq_signatureTable_bytes_iff {n : ℕ} {k : Vector UInt8 8} {g : Vector UInt8 64}
    {q : Vector UInt8 65} {s : List UInt8} :
    s = (signatureTable n k g q).bytes ↔
      SignatureLayout n k s ∧ vectorAt s 48 64 = g ∧ vectorAt s 112 65 = q := by
  rw [Table.eq_bytes_iff (signatureTable_contiguous n k g q), signatureTable_size]
  constructor
  · rintro ⟨hl, hr⟩
    simp only [signatureTable, Table.holdsIn_cons, Table.holdsIn_nil, and_true] at hr
    simp (disch := omega) only [slice_eq_u16Bytes, slice_eq_u32Bytes, slice_eq_toList] at hr
    obtain ⟨h₁, h₂, h₃, h₄, h₅, h₆, h₇, h₈, h₉, h₁₀, h₁₁, h₁₂, h₁₃, h₁₄, h₁₅, hg, hq, h₁₆⟩ := hr
    exact ⟨⟨hl, h₁, h₂, h₃, h₄, h₅, h₆, h₇, h₈, h₉, h₁₀, h₁₁, h₁₂, h₁₃, h₁₄, h₁₅, h₁₆⟩, hg, hq⟩
  · rintro ⟨⟨hl, h₁, h₂, h₃, h₄, h₅, h₆, h₇, h₈, h₉, h₁₀, h₁₁, h₁₂, h₁₃, h₁₄, h₁₅, h₁₆⟩, hg, hq⟩
    refine ⟨hl, ?_⟩
    simp only [signatureTable, Table.holdsIn_cons, Table.holdsIn_nil, and_true]
    simp (disch := omega) only [slice_eq_u16Bytes, slice_eq_u32Bytes, slice_eq_toList]
    exact ⟨h₁, h₂, h₃, h₄, h₅, h₆, h₇, h₈, h₉, h₁₀, h₁₁, h₁₂, h₁₃, h₁₄, h₁₅, hg, hq, h₁₆⟩

structure Image where
  manifest : Manifest
  payload : List UInt8
  signature : Vector UInt8 64
  publicKey : Vector UInt8 65
  payload_length : payload.length = manifest.payloadSize.toNat
  fits : 64 + manifest.size + payload.length < 2 ^ 32

namespace Image

def signedRegion (g : Image) : List UInt8 := g.manifest.bytes ++ g.payload

def header (g : Image) : List UInt8 := (headerTable g.manifest.size g.payload.length).bytes

def signatureSection (g : Image) : List UInt8 :=
  (signatureTable (g.manifest.size + g.payload.length) g.manifest.keyId g.signature
    g.publicKey).bytes

def bytes (g : Image) : List UInt8 :=
  g.header ++ (g.manifest.bytes ++ (g.payload ++ g.signatureSection))

def signatureOffset (g : Image) : ℕ := 64 + g.manifest.size + g.payload.length

@[simp] theorem header_length (g : Image) : g.header.length = 64 := by
  rw [header, Table.bytes_length (headerTable_contiguous _ _), headerTable_size]

@[simp] theorem signatureSection_length (g : Image) : g.signatureSection.length = 192 := by
  rw [signatureSection, Table.bytes_length (signatureTable_contiguous _ _ _ _),
    signatureTable_size]

@[simp] theorem signedRegion_length (g : Image) :
    g.signedRegion.length = g.manifest.size + g.payload.length := by
  simp [signedRegion]

@[simp] theorem bytes_length (g : Image) : g.bytes.length = g.signatureOffset + 192 := by
  simp only [bytes, List.length_append, header_length, Manifest.bytes_length,
    signatureSection_length, signatureOffset]
  omega

theorem bytes_eq (g : Image) : g.bytes = g.header ++ (g.signedRegion ++ g.signatureSection) := by
  simp only [bytes, signedRegion, List.append_assoc]

theorem ext {g h : Image} (hm : g.manifest = h.manifest) (hp : g.payload = h.payload)
    (hs : g.signature = h.signature) (hk : g.publicKey = h.publicKey) : g = h := by
  cases g; cases h
  simp_all

theorem slice_manifest (g : Image) : slice g.bytes 64 g.manifest.size = g.manifest.bytes := by
  have h := slice_append_right g.header (g.manifest.bytes ++ (g.payload ++ g.signatureSection)) 0
    g.manifest.size
  rw [header_length] at h
  rw [bytes, h, slice_append_left (by simp), ← g.manifest.bytes_length, slice_self]

theorem slice_signedRegion (g : Image) :
    slice g.bytes 64 (g.manifest.size + g.payload.length) = g.signedRegion := by
  have h := slice_append_right g.header (g.signedRegion ++ g.signatureSection) 0
    (g.manifest.size + g.payload.length)
  rw [header_length] at h
  rw [bytes_eq, h, slice_append_left (by simp), ← g.signedRegion_length, slice_self]

theorem slice_payload (g : Image) :
    slice g.bytes (64 + g.manifest.size) g.payload.length = g.payload := by
  have h := slice_slice (s := g.bytes) (i := 64) (n := g.manifest.size + g.payload.length)
    (j := g.manifest.size) (k := g.payload.length) le_rfl
  rw [← h, slice_signedRegion, signedRegion]
  simpa using slice_append_right g.manifest.bytes g.payload 0 g.payload.length

theorem slice_signatureSection (g : Image) :
    slice g.bytes g.signatureOffset 192 = g.signatureSection := by
  have h := slice_append_right (g.header ++ g.signedRegion) g.signatureSection 0 192
  have hl : (g.header ++ g.signedRegion).length + 0 = g.signatureOffset := by
    simp only [List.length_append, header_length, signedRegion_length, signatureOffset]
    omega
  rw [hl] at h
  rw [bytes_eq, ← List.append_assoc, h, ← g.signatureSection_length, slice_self]

theorem headerLayout (g : Image) : HeaderLayout g.manifest.size g.payload.length g.bytes := by
  refine (headerTable_holdsIn_iff ?_).mp (Table.holdsIn_bytes_append (headerTable_contiguous _ _) _)
  rw [bytes_length, signatureOffset]
  omega

theorem toNat_manifestSize (g : Image) : (u32At g.bytes 20).toNat = g.manifest.size := by
  have := g.fits
  rw [g.headerLayout.manifestSize, UInt32.toNat_ofNat', Nat.mod_eq_of_lt (by omega)]

theorem toNat_payloadSize (g : Image) : (u32At g.bytes 28).toNat = g.payload.length := by
  have := g.fits
  rw [g.headerLayout.payloadSize, UInt32.toNat_ofNat', Nat.mod_eq_of_lt (by omega)]

theorem signatureLayout (g : Image) :
    SignatureLayout (g.manifest.size + g.payload.length) g.manifest.keyId g.signatureSection ∧
      vectorAt g.signatureSection 48 64 = g.signature ∧
      vectorAt g.signatureSection 112 65 = g.publicKey :=
  eq_signatureTable_bytes_iff.mp rfl

end Image

def manifestIn (b : List UInt8) : List UInt8 := slice b 64 (u32At b 20).toNat

def payloadIn (b : List UInt8) : List UInt8 :=
  slice b (64 + (u32At b 20).toNat) (u32At b 28).toNat

def signatureIn (b : List UInt8) : List UInt8 :=
  slice b (64 + (u32At b 20).toNat + (u32At b 28).toNat) 192

/-- What a reader of an image has to check besides the values of the manifest fields. -/
structure ImageLayout (b : List UInt8) : Prop where
  length : b.length = 64 + (u32At b 20).toNat + (u32At b 28).toNat + 192
  fits : 64 + (u32At b 20).toNat + (u32At b 28).toNat < 2 ^ 32
  header : HeaderLayout (u32At b 20).toNat (u32At b 28).toNat b
  manifest : ManifestLayout (manifestIn b)
  payload : (u32At b 28).toNat = (fieldsAt (manifestIn b)).payloadSize.toNat
  signature : SignatureLayout ((u32At b 20).toNat + (u32At b 28).toNat)
    (fieldsAt (manifestIn b)).keyId (signatureIn b)

namespace ImageLayout

variable {b : List UInt8}

theorem manifestIn_length (h : ImageLayout b) :
    (manifestIn b).length = (u32At b 20).toNat :=
  slice_length_of_le (by have := h.length; omega)

theorem payloadIn_length (h : ImageLayout b) :
    (payloadIn b).length = (u32At b 28).toNat :=
  slice_length_of_le (by have := h.length; omega)

theorem ofSection_size (h : ImageLayout b) (hv : (fieldsAt (manifestIn b)).Valid) :
    (Manifest.ofSection _ h.manifest hv).size = (u32At b 20).toNat := by
  rw [← Manifest.bytes_length, Manifest.ofSection_bytes, h.manifestIn_length]

end ImageLayout

namespace Image

variable {b : List UInt8}

def ofBytes (b : List UInt8) (h : ImageLayout b) (hv : (fieldsAt (manifestIn b)).Valid) :
    Image where
  manifest := .ofSection (manifestIn b) h.manifest hv
  payload := payloadIn b
  signature := vectorAt (signatureIn b) 48 64
  publicKey := vectorAt (signatureIn b) 112 65
  payload_length := h.payloadIn_length.trans h.payload
  fits := by rw [h.ofSection_size, h.payloadIn_length]; exact h.fits

theorem ofBytes_bytes (h : ImageLayout b) (hv : (fieldsAt (manifestIn b)).Valid) :
    (ofBytes b h hv).bytes = b := by
  have hl := h.length
  have hm : (ofBytes b h hv).manifest.size = (u32At b 20).toNat := h.ofSection_size hv
  have hp : (ofBytes b h hv).payload.length = (u32At b 28).toNat := h.payloadIn_length
  have hheader : (ofBytes b h hv).header = slice b 0 64 := by
    have hrows := (headerTable_holdsIn_iff (by omega)).mpr h.header
    have hslice := (Table.slice_eq_bytes_iff (headerTable_contiguous _ _)
      (by rw [headerTable_size]; omega)).mpr hrows
    rw [headerTable_size] at hslice
    rw [header, hm, hp, hslice]
  have hsig : (ofBytes b h hv).signatureSection = signatureIn b := by
    rw [signatureSection, hm, hp]
    exact (eq_signatureTable_bytes_iff.mpr ⟨h.signature, rfl, rfl⟩).symm
  have hman : (ofBytes b h hv).manifest.bytes = manifestIn b :=
    Manifest.ofSection_bytes h.manifest hv
  have hpay : (ofBytes b h hv).payload = payloadIn b := rfl
  rw [bytes, hheader, hman, hpay, hsig, payloadIn, signatureIn, slice_append_slice, manifestIn,
    slice_append_slice]
  have hall := slice_append_slice b 0 64 ((u32At b 20).toNat + ((u32At b 28).toNat + 192))
  rw [Nat.zero_add] at hall
  rw [hall, show 64 + ((u32At b 20).toNat + ((u32At b 28).toNat + 192)) = b.length by omega,
    slice_self]

theorem layout_bytes (g : Image) :
    ImageLayout g.bytes ∧ manifestIn g.bytes = g.manifest.bytes := by
  have hm := g.toNat_manifestSize
  have hp := g.toNat_payloadSize
  have hman : manifestIn g.bytes = g.manifest.bytes := by
    rw [manifestIn, hm, slice_manifest]
  obtain ⟨hlay, hf⟩ := g.manifest.layout_bytes
  refine ⟨⟨?_, ?_, ?_, ?_, ?_, ?_⟩, hman⟩
  · rw [hm, hp, bytes_length, signatureOffset]
  · rw [hm, hp]; exact g.fits
  · rw [hm, hp]; exact g.headerLayout
  · rw [hman]; exact hlay
  · rw [hman, hf, hp, g.payload_length]
  · rw [hman, hf, hm, hp, signatureIn, hm, hp]
    rw [show slice g.bytes (64 + g.manifest.size + g.payload.length) 192 = g.signatureSection from
      g.slice_signatureSection]
    exact g.signatureLayout.1

theorem bytes_inj {g h : Image} (heq : g.bytes = h.bytes) : g = h := by
  have hm : g.manifest.size = h.manifest.size := by
    rw [← g.toNat_manifestSize, heq, h.toNat_manifestSize]
  have hp : g.payload.length = h.payload.length := by
    rw [← g.toNat_payloadSize, heq, h.toNat_payloadSize]
  have hsec : g.signatureSection = h.signatureSection := by
    rw [← g.slice_signatureSection, ← h.slice_signatureSection, heq, signatureOffset,
      signatureOffset, hm, hp]
  obtain ⟨-, hs, hk⟩ := g.signatureLayout
  obtain ⟨-, hs', hk'⟩ := h.signatureLayout
  apply ext
  · apply Manifest.bytes_inj
    rw [← g.slice_manifest, ← h.slice_manifest, heq, hm]
  · rw [← g.slice_payload, ← h.slice_payload, heq, hm, hp]
  · rw [← hs, ← hs', hsec]
  · rw [← hk, ← hk', hsec]

/-- Images are exactly the well laid out byte strings with valid manifest values. -/
theorem exists_eq_bytes_iff {R : Image → Prop} :
    (∃ g : Image, b = g.bytes ∧ R g) ↔
      ∃ (h : ImageLayout b) (hv : (fieldsAt (manifestIn b)).Valid), R (ofBytes b h hv) := by
  constructor
  · rintro ⟨g, rfl, hR⟩
    obtain ⟨h, hman⟩ := g.layout_bytes
    have hv : (fieldsAt (manifestIn g.bytes)).Valid := by
      rw [hman, g.manifest.layout_bytes.2]; exact g.manifest.valid
    refine ⟨h, hv, ?_⟩
    rwa [bytes_inj (ofBytes_bytes h hv)]
  · rintro ⟨h, hv, hR⟩
    exact ⟨_, (ofBytes_bytes h hv).symm, hR⟩

end Image

/-- The manifest of the image in the repository's test vectors. -/
def goldenManifest : Manifest where
  vendorId := 1380011344
  productId := 1
  hardwareFamily := 1413
  hardwareRevisionMin := 1
  hardwareRevisionMax := 3
  componentId := 16
  securityEpoch := 12
  versionMajor := 2
  versionMinor := 4
  versionPatch := 0
  digestAlgorithm := 1
  payloadSize := 32
  payloadDigest :=
    #v[90, 144, 62, 192, 51, 119, 70, 17, 83, 93, 83, 23, 175, 28, 252, 12, 233, 38, 49, 125,
       32, 5, 41, 251, 2, 183, 171, 149, 53, 53, 27, 3]
  signatureAlgorithm := 1
  requiredKeyRole := 1
  signatureThreshold := 1
  signatureCount := 1
  keyId := #v[117, 171, 221, 162, 233, 229, 132, 186]
  trialMaxAttempts := 3
  rollbackPolicy := 1
  trialProbationMs := 30000
  requirementCount := 0
  dependencyCount := 0
  healthRequiredCount := 0
  artifactId := ascii
    ['i', 'n', 'd', 'u', 's', 't', 'r', 'i', 'a', 'l', '-', 'c', 'o', 'n', 't', 'r', 'o', 'l',
     'l', 'e', 'r', '-', 'm', 'a', 'i', 'n', '-', '2', '.', '4', '.', '0']
  valid := by constructor <;> decide
  artifactId_pos := by decide
  artifactId_le := by decide

def goldenImage : Image where
  manifest := goldenManifest
  payload := ascii
    ['R', 'a', 'm', 'p', 'a', 'r', 't', ' ', 'g', 'o', 'l', 'd', 'e', 'n', ' ', 'f', 'i', 'r',
     'm', 'w', 'a', 'r', 'e', ' ', 'p', 'a', 'y', 'l', 'o', 'a', 'd', '\n']
  signature :=
    #v[47, 140, 239, 6, 142, 242, 157, 133, 94, 109, 171, 145, 65, 234, 216, 15, 163, 99, 169,
       15, 245, 202, 94, 73, 150, 210, 164, 169, 152, 253, 109, 198, 220, 23, 14, 8, 188, 166,
       102, 96, 88, 52, 118, 94, 226, 178, 217, 140, 65, 218, 96, 189, 252, 187, 165, 37, 169,
       152, 5, 111, 191, 216, 46, 175]
  publicKey :=
    #v[4, 203, 48, 148, 130, 30, 244, 138, 112, 34, 58, 129, 145, 14, 220, 15, 9, 241, 214, 241,
       244, 9, 36, 4, 62, 20, 8, 82, 133, 73, 92, 228, 156, 240, 164, 174, 46, 244, 124, 73,
       142, 148, 63, 16, 106, 71, 15, 255, 16, 110, 161, 28, 242, 116, 63, 95, 87, 134, 29, 118,
       79, 9, 45, 34, 13]
  payload_length := by decide
  fits := by decide

/-- The base point of the group, which is the public key of another signer. -/
def basePoint : Vector UInt8 65 :=
  #v[4, 107, 23, 209, 242, 225, 44, 66, 71, 248, 188, 230, 229, 99, 164, 64, 242, 119, 3, 125, 129,
     45, 235, 51, 160, 244, 161, 57, 69, 216, 152, 194, 150, 79, 227, 66, 226, 254, 26, 127, 155,
     142, 231, 235, 74, 124, 15, 158, 22, 43, 206, 51, 87, 107, 49, 94, 206, 203, 182, 64, 104, 55,
     191, 81, 245]

/-- SHA-256 on the payload of the golden image and on the two public keys. -/
def goldenHash (m : List UInt8) : Option (Vector UInt8 32) :=
  if m = goldenImage.payload then some goldenManifest.payloadDigest
  else if m = goldenImage.publicKey.toList then
    some #v[117, 171, 221, 162, 233, 229, 132, 186, 247, 123, 116, 128, 136, 248, 69, 82, 155, 254,
      233, 123, 166, 125, 120, 122, 173, 146, 18, 73, 184, 221, 87, 15]
  else if m = basePoint.toList then
    some #v[105, 139, 234, 99, 220, 68, 163, 68, 102, 63, 241, 66, 154, 234, 16, 132, 45, 242, 123,
      107, 153, 30, 242, 88, 102, 178, 198, 192, 44, 220, 197, 190]
  else none

end RampartBoot.Format

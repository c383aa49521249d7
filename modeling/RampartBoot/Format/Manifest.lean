import RampartBoot.Foundation.Table
import RampartBoot.Foundation.LittleEndian
import Mathlib.Order.Bounds.Defs

/-! # The v1 manifest section

A manifest is its 128-byte header, the artifact ID and zero bytes up to a multiple of four.
The header table is the one of the image format document, row by row.
-/

namespace RampartBoot.Format
open Foundation

structure ManifestFields where
  vendorId : UInt32
  productId : UInt32
  hardwareFamily : UInt32
  hardwareRevisionMin : UInt32
  hardwareRevisionMax : UInt32
  componentId : UInt32
  securityEpoch : UInt32
  versionMajor : UInt16
  versionMinor : UInt16
  versionPatch : UInt16
  digestAlgorithm : UInt16
  payloadSize : UInt32
  payloadDigest : Vector UInt8 32
  signatureAlgorithm : UInt16
  requiredKeyRole : UInt16
  signatureThreshold : UInt16
  signatureCount : UInt16
  keyId : Vector UInt8 8
  trialMaxAttempts : UInt16
  rollbackPolicy : UInt16
  trialProbationMs : UInt32
  requirementCount : UInt16
  dependencyCount : UInt16
  healthRequiredCount : UInt16
  deriving DecidableEq

/-- What format v1 asks of the values themselves. -/
structure ManifestFields.Valid (f : ManifestFields) : Prop where
  revisions : f.hardwareRevisionMin ≤ f.hardwareRevisionMax
  digestAlgorithm : f.digestAlgorithm = 1
  signatureAlgorithm : f.signatureAlgorithm = 1
  role : 1 ≤ f.requiredKeyRole ∧ f.requiredKeyRole ≤ 6
  threshold : f.signatureThreshold = 1
  count : f.signatureCount = 1
  rollback : f.rollbackPolicy = 0 ∨ f.rollbackPolicy = 1
  requirements : f.requirementCount = 0
  dependencies : f.dependencyCount = 0
  health : f.healthRequiredCount = 0

structure Manifest extends ManifestFields where
  artifactId : List UInt8
  valid : toManifestFields.Valid
  artifactId_pos : 1 ≤ artifactId.length
  artifactId_le : artifactId.length ≤ 128

def padding (n : ℕ) : ℕ := (4 - n % 4) % 4

theorem padding_lt (n : ℕ) : padding n < 4 := Nat.mod_lt _ (by decide)

theorem four_dvd_add_padding (n : ℕ) : 4 ∣ n + padding n := by unfold padding; omega

def manifestSize (n : ℕ) : ℕ := 128 + n + padding (128 + n)

/-- The fixed manifest header, with the bytes `size` in place of the manifest size. -/
def manifestHeaderTable (f : ManifestFields) (size : List UInt8) (idLen : ℕ) : Table UInt8 :=
  [⟨0, 8, ascii ['R', 'P', 'M', 'F', 'S', 'T', '0', '1']⟩,
   ⟨8, 2, u16Bytes 1⟩,
   ⟨10, 2, u16Bytes 128⟩,
   ⟨12, 4, size⟩,
   ⟨16, 4, u32Bytes f.vendorId⟩,
   ⟨20, 4, u32Bytes f.productId⟩,
   ⟨24, 4, u32Bytes f.hardwareFamily⟩,
   ⟨28, 4, u32Bytes f.hardwareRevisionMin⟩,
   ⟨32, 4, u32Bytes f.hardwareRevisionMax⟩,
   ⟨36, 4, u32Bytes f.componentId⟩,
   ⟨40, 4, u32Bytes f.securityEpoch⟩,
   ⟨44, 2, u16Bytes f.versionMajor⟩,
   ⟨46, 2, u16Bytes f.versionMinor⟩,
   ⟨48, 2, u16Bytes f.versionPatch⟩,
   ⟨50, 2, u16Bytes f.digestAlgorithm⟩,
   ⟨52, 4, u32Bytes f.payloadSize⟩,
   ⟨56, 32, f.payloadDigest.toList⟩,
   ⟨88, 2, u16Bytes f.signatureAlgorithm⟩,
   ⟨90, 2, u16Bytes f.requiredKeyRole⟩,
   ⟨92, 2, u16Bytes f.signatureThreshold⟩,
   ⟨94, 2, u16Bytes f.signatureCount⟩,
   ⟨96, 8, f.keyId.toList⟩,
   ⟨104, 2, u16Bytes f.trialMaxAttempts⟩,
   ⟨106, 2, u16Bytes f.rollbackPolicy⟩,
   ⟨108, 4, u32Bytes f.trialProbationMs⟩,
   ⟨112, 2, u16Bytes (UInt16.ofNat idLen)⟩,
   ⟨114, 2, u16Bytes f.requirementCount⟩,
   ⟨116, 2, u16Bytes f.dependencyCount⟩,
   ⟨118, 2, u16Bytes f.healthRequiredCount⟩,
   ⟨120, 8, zeros 8⟩]

theorem manifestHeaderTable_contiguous (f : ManifestFields) {size : List UInt8} (idLen : ℕ)
    (hsize : size.length = 4) : (manifestHeaderTable f size idLen).Contiguous 0 := by
  simp [manifestHeaderTable, Table.Contiguous, ascii, hsize]

theorem manifestHeaderTable_size (f : ManifestFields) (size : List UInt8) (idLen : ℕ) :
    (manifestHeaderTable f size idLen).size = 128 := by
  simp [manifestHeaderTable, Table.size]

def manifestTable (f : ManifestFields) (artifactId : List UInt8) : Table UInt8 :=
  manifestHeaderTable f (u32Bytes (UInt32.ofNat (manifestSize artifactId.length)))
      artifactId.length ++
    [⟨128, artifactId.length, artifactId⟩,
     ⟨128 + artifactId.length, padding (128 + artifactId.length),
       zeros (padding (128 + artifactId.length))⟩]

theorem manifestTable_contiguous (f : ManifestFields) (artifactId : List UInt8) :
    (manifestTable f artifactId).Contiguous 0 := by
  simp [manifestTable, manifestHeaderTable, Table.Contiguous, ascii, zeros]

theorem manifestTable_size (f : ManifestFields) (artifactId : List UInt8) :
    (manifestTable f artifactId).size = manifestSize artifactId.length := by
  rw [manifestTable, Table.size_append, manifestHeaderTable_size, Table.size, manifestSize]
  simp only [List.map_cons, List.map_nil, List.sum_cons, List.sum_nil]
  omega

def fieldsAt (s : List UInt8) : ManifestFields where
  vendorId := u32At s 16
  productId := u32At s 20
  hardwareFamily := u32At s 24
  hardwareRevisionMin := u32At s 28
  hardwareRevisionMax := u32At s 32
  componentId := u32At s 36
  securityEpoch := u32At s 40
  versionMajor := u16At s 44
  versionMinor := u16At s 46
  versionPatch := u16At s 48
  digestAlgorithm := u16At s 50
  payloadSize := u32At s 52
  payloadDigest := vectorAt s 56 32
  signatureAlgorithm := u16At s 88
  requiredKeyRole := u16At s 90
  signatureThreshold := u16At s 92
  signatureCount := u16At s 94
  keyId := vectorAt s 96 8
  trialMaxAttempts := u16At s 104
  rollbackPolicy := u16At s 106
  trialProbationMs := u32At s 108
  requirementCount := u16At s 114
  dependencyCount := u16At s 116
  healthRequiredCount := u16At s 118

/-- The conditions on a byte string that do not concern the field values: what a reader of
the section has to check before it can trust `fieldsAt`. -/
structure ManifestLayout (s : List UInt8) : Prop where
  header : 128 ≤ s.length
  magic : slice s 0 8 = ascii ['R', 'P', 'M', 'F', 'S', 'T', '0', '1']
  version : u16At s 8 = 1
  headerSize : u16At s 10 = 128
  size : (u32At s 12).toNat = s.length
  idLength : 1 ≤ (u16At s 112).toNat ∧ (u16At s 112).toNat ≤ 128
  canonical : manifestSize (u16At s 112).toNat = s.length
  reserved : slice s 120 8 = zeros 8
  trailing : slice s (128 + (u16At s 112).toNat) (padding (128 + (u16At s 112).toNat)) =
    zeros (padding (128 + (u16At s 112).toNat))

/-- Reading the rows back: everything but the fixed rows is `fieldsAt` and the artifact ID. -/
theorem manifestTable_holdsIn_iff {f : ManifestFields} {a s : List UInt8}
    (hs : manifestSize a.length ≤ s.length) :
    (manifestTable f a).HoldsIn s ↔
      slice s 0 8 = ascii ['R', 'P', 'M', 'F', 'S', 'T', '0', '1'] ∧ u16At s 8 = 1 ∧
      u16At s 10 = 128 ∧ u32At s 12 = UInt32.ofNat (manifestSize a.length) ∧ fieldsAt s = f ∧
      u16At s 112 = UInt16.ofNat a.length ∧ slice s 120 8 = zeros 8 ∧
      slice s 128 a.length = a ∧
      slice s (128 + a.length) (padding (128 + a.length)) = zeros (padding (128 + a.length)) := by
  unfold manifestSize at hs
  have h128 : 128 ≤ s.length := by omega
  simp only [manifestTable, manifestHeaderTable, List.cons_append, List.nil_append,
    Table.holdsIn_cons, Table.holdsIn_nil, and_true]
  simp (disch := omega) only [slice_eq_u16Bytes, slice_eq_u32Bytes, slice_eq_toList]
  cases f
  simp only [fieldsAt, ManifestFields.mk.injEq, manifestSize, and_assoc]
  constructor
  · rintro ⟨hm, hv, hh, hz, f₁, f₂, f₃, f₄, f₅, f₆, f₇, f₈, f₉, f₁₀, f₁₁, f₁₂, f₁₃, f₁₄, f₁₅, f₁₆,
      f₁₇, f₁₈, f₁₉, f₂₀, f₂₁, hn, rest⟩
    obtain ⟨f₂₂, f₂₃, f₂₄, hr, ha, hp⟩ := rest
    exact ⟨hm, hv, hh, hz, f₁, f₂, f₃, f₄, f₅, f₆, f₇, f₈, f₉, f₁₀, f₁₁, f₁₂, f₁₃, f₁₄, f₁₅, f₁₆,
      f₁₇, f₁₈, f₁₉, f₂₀, f₂₁, f₂₂, f₂₃, f₂₄, hn, hr, ha, hp⟩
  · rintro ⟨hm, hv, hh, hz, f₁, f₂, f₃, f₄, f₅, f₆, f₇, f₈, f₉, f₁₀, f₁₁, f₁₂, f₁₃, f₁₄, f₁₅, f₁₆,
      f₁₇, f₁₈, f₁₉, f₂₀, f₂₁, f₂₂, f₂₃, f₂₄, hn, hr, ha, hp⟩
    exact ⟨hm, hv, hh, hz, f₁, f₂, f₃, f₄, f₅, f₆, f₇, f₈, f₉, f₁₀, f₁₁, f₁₂, f₁₃, f₁₄, f₁₅, f₁₆,
      f₁₇, f₁₈, f₁₉, f₂₀, f₂₁, hn, f₂₂, f₂₃, f₂₄, hr, ha, hp⟩

namespace Manifest

def bytes (m : Manifest) : List UInt8 := (manifestTable m.toManifestFields m.artifactId).bytes

def size (m : Manifest) : ℕ := manifestSize m.artifactId.length

@[simp] theorem bytes_length (m : Manifest) : m.bytes.length = m.size := by
  rw [bytes, Table.bytes_length (manifestTable_contiguous _ _), manifestTable_size, size]

theorem size_ge (m : Manifest) : 128 ≤ m.size := by
  unfold size manifestSize; omega

theorem size_le (m : Manifest) : m.size ≤ 256 := by
  have := m.artifactId_le
  unfold size manifestSize padding; omega

theorem isLeast_size (m : Manifest) :
    IsLeast {n | 4 ∣ n ∧ 128 + m.artifactId.length ≤ n} m.size := by
  have hpad := padding_lt (128 + m.artifactId.length)
  refine ⟨⟨four_dvd_add_padding _, Nat.le_add_right _ _⟩, ?_⟩
  rintro n ⟨hdvd, hle⟩
  obtain ⟨k, hk⟩ := four_dvd_add_padding (128 + m.artifactId.length)
  obtain ⟨j, rfl⟩ := hdvd
  unfold size manifestSize
  omega

/-- A byte string is the section of `m` exactly when it has its length and rows. -/
theorem eq_bytes_iff (m : Manifest) {s : List UInt8} :
    s = m.bytes ↔
      s.length = m.size ∧ (manifestTable m.toManifestFields m.artifactId).HoldsIn s := by
  rw [bytes, Table.eq_bytes_iff (manifestTable_contiguous _ _), manifestTable_size, size]

theorem ext {m n : Manifest} (hf : m.toManifestFields = n.toManifestFields)
    (ha : m.artifactId = n.artifactId) : m = n := by
  cases m; cases n
  simp_all

theorem read_bytes_append (m : Manifest) (t : List UInt8) :
    fieldsAt (m.bytes ++ t) = m.toManifestFields ∧
      (u16At (m.bytes ++ t) 112).toNat = m.artifactId.length ∧
      slice (m.bytes ++ t) 128 m.artifactId.length = m.artifactId ∧
      (u32At (m.bytes ++ t) 12).toNat = m.size := by
  have hle := m.artifactId_le
  have hsize := m.size_le
  have hlen : m.size ≤ (m.bytes ++ t).length := by simp
  obtain ⟨-, -, -, hz, hf, hn, -, ha, -⟩ := (manifestTable_holdsIn_iff hlen).mp
    (Table.holdsIn_bytes_append (manifestTable_contiguous m.toManifestFields m.artifactId) t)
  refine ⟨hf, ?_, ha, ?_⟩
  · rw [hn, UInt16.toNat_ofNat', Nat.mod_eq_of_lt (by omega)]
  · rw [hz, UInt32.toNat_ofNat', ← size, Nat.mod_eq_of_lt (by omega)]

/-- A manifest section ends where it says, so what follows it is determined as well. -/
theorem bytes_append_inj {m n : Manifest} {t u : List UInt8} (h : m.bytes ++ t = n.bytes ++ u) :
    m = n ∧ t = u := by
  obtain ⟨hf, hn, ha, -⟩ := m.read_bytes_append t
  obtain ⟨hf', hn', ha', -⟩ := n.read_bytes_append u
  rw [h] at hf hn ha
  have hmn : m = n := ext (hf.symm.trans hf') (by rw [← ha, ← ha', ← hn, ← hn'])
  subst hmn
  exact ⟨rfl, List.append_cancel_left h⟩

theorem bytes_inj {m n : Manifest} (h : m.bytes = n.bytes) : m = n :=
  (bytes_append_inj (t := []) (u := []) (by simpa using h)).1

def ofSection (s : List UInt8) (h : ManifestLayout s) (hv : (fieldsAt s).Valid) : Manifest where
  toManifestFields := fieldsAt s
  artifactId := slice s 128 (u16At s 112).toNat
  valid := hv
  artifactId_pos := by
    have := h.canonical
    rw [manifestSize] at this
    rw [slice_length_of_le (by omega)]
    exact h.idLength.1
  artifactId_le := (List.length_take_le _ _).trans h.idLength.2

theorem ofSection_artifactId_length {s : List UInt8} (h : ManifestLayout s)
    (hv : (fieldsAt s).Valid) : (ofSection s h hv).artifactId.length = (u16At s 112).toNat := by
  have := h.canonical
  rw [manifestSize] at this
  exact slice_length_of_le (by omega)

theorem ofSection_bytes {s : List UInt8} (h : ManifestLayout s) (hv : (fieldsAt s).Valid) :
    (ofSection s h hv).bytes = s := by
  have hlen := ofSection_artifactId_length h hv
  have hcan := h.canonical
  symm
  rw [eq_bytes_iff, size, hlen]
  refine ⟨hcan.symm, (manifestTable_holdsIn_iff (by rw [hlen]; omega)).mpr ?_⟩
  rw [hlen]
  refine ⟨h.magic, h.version, h.headerSize, ?_, rfl, ?_, h.reserved, rfl, h.trailing⟩
  · rw [hcan, ← h.size, UInt32.ofNat_toNat]
  · rw [UInt16.ofNat_toNat]

theorem layout_bytes (m : Manifest) :
    ManifestLayout m.bytes ∧ fieldsAt m.bytes = m.toManifestFields := by
  have hle := m.artifactId_le
  have hpos := m.artifactId_pos
  have hread := m.read_bytes_append []
  rw [List.append_nil] at hread
  obtain ⟨hf, hn, -, hz⟩ := hread
  obtain ⟨hl, hrows⟩ := m.eq_bytes_iff.mp rfl
  obtain ⟨hm, hv, hh, -, -, -, hr, -, hp⟩ := (manifestTable_holdsIn_iff hl.ge).mp hrows
  refine ⟨⟨?_, hm, hv, hh, ?_, ?_, ?_, hr, ?_⟩, hf⟩
  · rw [hl]; exact m.size_ge
  · rw [hz, hl]
  · rw [hn]; exact ⟨hpos, hle⟩
  · rw [hn, hl, size]
  · rw [hn]; exact hp

/-- Sections are exactly the well laid out byte strings with valid field values. -/
theorem exists_eq_bytes_iff {s : List UInt8} {R : Manifest → Prop} :
    (∃ m : Manifest, s = m.bytes ∧ R m) ↔
      ∃ (h : ManifestLayout s) (hv : (fieldsAt s).Valid), R (ofSection s h hv) := by
  constructor
  · rintro ⟨m, rfl, hR⟩
    obtain ⟨h, hf⟩ := m.layout_bytes
    have hv : (fieldsAt m.bytes).Valid := hf ▸ m.valid
    refine ⟨h, hv, ?_⟩
    rwa [bytes_inj (ofSection_bytes h hv)]
  · rintro ⟨h, hv, hR⟩
    exact ⟨_, (ofSection_bytes h hv).symm, hR⟩

end Manifest

end RampartBoot.Format

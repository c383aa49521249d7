import RampartBoot.Host.Manifest
import RampartBoot.Format.Manifest

/-! # What the host manifest codec reads and writes

The encoder writes the documented section of the values it is given. The parser accepts the
sections whose artifact ID is text, and returns the values they carry.
-/

namespace RampartBoot.Host
open Foundation Format

variable {ε : Type} {m : RampartManifest} {s : List UInt8}

def RampartManifest.fields (m : RampartManifest) : ManifestFields where
  vendorId := m.vendorId
  productId := m.productId
  hardwareFamily := m.hardwareFamily
  hardwareRevisionMin := m.hardwareRevisionMin
  hardwareRevisionMax := m.hardwareRevisionMax
  componentId := m.componentId
  securityEpoch := m.securityEpoch
  versionMajor := m.versionMajor
  versionMinor := m.versionMinor
  versionPatch := m.versionPatch
  digestAlgorithm := 1
  payloadSize := m.payloadSize
  payloadDigest := m.payloadDigest
  signatureAlgorithm := 1
  requiredKeyRole := m.signatureRole
  signatureThreshold := m.signatureThreshold
  signatureCount := m.signatureCount
  keyId := m.keyId
  trialMaxAttempts := m.trialMaxAttempts
  rollbackPolicy := m.rollbackPolicy
  trialProbationMs := m.trialProbationMs
  requirementCount := m.requirementCount
  dependencyCount := m.dependencyCount
  healthRequiredCount := m.healthRequiredCount

/-- The header is written row by row, but for its size and its reserved bytes. -/
theorem writeManifestHeader_eq (m : RampartManifest) {n : ℕ} (hn : n < 2 ^ 16) :
    (writeManifestHeader m n : Checked ε (List UInt8)) =
      .ok (manifestHeaderTable m.fields (zeros 4) n).bytes := by
  have homits : Table.OmitsBlank 0 ((manifestHeaderTable m.fields (zeros 4) n).eraseIdx 3).dropLast
      (manifestHeaderTable m.fields (zeros 4) n) := by repeat' constructor
  have hrows := Table.overlay_blank homits (manifestHeaderTable_contiguous m.fields n (by simp))
  rw [manifestHeaderTable_size] at hrows
  rw [← hrows]
  unfold writeManifestHeader
  have h128 : UInt16.ofNat 128 = 128 := rfl
  -- from the outside in, so that every write finds the buffer that the writes before it have left
  simp (disch := first | assumption | simp [ascii]) only [↓copyInto_bind, ↓writeU16_bind,
    ↓writeU32_bind, ↓expect_u16TryFrom_bind, h128]
  rw [writeU16_eq (by simp) (by decide)]
  simp only [manifestHeaderTable, List.eraseIdx_cons_succ, List.eraseIdx_cons_zero,
    List.dropLast_cons_cons, List.dropLast_singleton, Table.overlay, List.foldl_cons,
    List.foldl_nil, RampartManifest.fields, zeros]

theorem patch_manifestSize (f : ManifestFields) (n : ℕ) (rest : List UInt8) {size : List UInt8}
    (hsize : size.length = 4) :
    patch ((manifestHeaderTable f (zeros 4) n).bytes ++ rest) 12 size =
      (manifestHeaderTable f size n).bytes ++ rest := by
  have hsplit : ∀ v, (manifestHeaderTable f v n).bytes ++ rest =
      Table.bytes ((manifestHeaderTable f v n).take 3) ++ v ++
        (Table.bytes ((manifestHeaderTable f v n).drop 4) ++ rest) := by
    intro v
    simp only [manifestHeaderTable, Table.bytes, List.take_succ_cons, List.take_zero,
      List.drop_succ_cons, List.drop_zero, List.flatMap_cons, List.flatMap_nil, List.append_assoc,
      List.append_nil]
  have hlen : (Table.bytes ((manifestHeaderTable f (zeros 4) n).take 3)).length = 12 := rfl
  rw [hsplit, hsplit, ← hlen, patch_append (by rw [hsize, zeros_length])]
  rfl

theorem pushPadding_eq (out : List UInt8) :
    pushPadding out = out ++ zeros (padding out.length) := by
  fun_induction pushPadding out with
  | case1 out h ih =>
    have hpad : padding out.length = padding (out ++ [0]).length + 1 := by
      rw [List.length_append, List.length_singleton, padding, padding]
      omega
    rw [ih, hpad, zeros, zeros, List.replicate_succ, List.append_assoc]
    rfl
  | case2 out h =>
    have hpad : padding out.length = 0 := by
      rw [padding]
      omega
    simp [hpad, zeros]

/-- The encoder writes the section of the format. It does not look at the values. -/
theorem encodeManifest_eq (m : RampartManifest) (h : (asBytes m.artifactId).length ≤ 128) :
    encodeManifest m = .ok (manifestTable m.fields (asBytes m.artifactId)).bytes := by
  set a := asBytes m.artifactId with ha
  have hpad := padding_lt (128 + a.length)
  have hheader : (manifestHeaderTable m.fields (zeros 4) a.length).bytes.length = 128 := by
    rw [Table.bytes_length (manifestHeaderTable_contiguous _ _ (zeros_length 4)),
      manifestHeaderTable_size]
  have hpush : pushPadding ((manifestHeaderTable m.fields (zeros 4) a.length).bytes ++ a) =
      (manifestHeaderTable m.fields (zeros 4) a.length).bytes ++
        (a ++ zeros (padding (128 + a.length))) := by
    rw [pushPadding_eq, List.length_append, hheader, List.append_assoc]
  have hlen : ((manifestHeaderTable m.fields (zeros 4) a.length).bytes ++
      (a ++ zeros (padding (128 + a.length)))).length = manifestSize a.length := by
    rw [List.length_append, hheader, List.length_append, zeros_length, manifestSize, Nat.add_assoc]
  have hsize : manifestSize a.length < 2 ^ 32 := by
    rw [manifestSize]
    omega
  rw [encodeManifest, ← ha, rejectIf_bind_eq_ok]
  refine ⟨by omega, ?_⟩
  rw [bind_of_eq_ok (writeManifestHeader_eq m (by omega)), hpush]
  dsimp only
  rw [hlen, bind_of_eq_ok (okOr_u32TryFrom hsize _),
    writeU32_eq (by rw [hlen, manifestSize]; omega) (by omega),
    patch_manifestSize _ _ _ (u32Bytes_length _)]
  simp [manifestTable, Table.bytes]

theorem isKnownRole_iff (role : UInt16) : isKnownRole role = true ↔ 1 ≤ role ∧ role ≤ 6 := by
  simp only [isKnownRole, Bool.or_eq_true, beq_iff_eq, ← UInt16.toNat_inj,
    UInt16.le_iff_toNat_le, UInt16.reduceToNat]
  omega

theorem isKnownRollbackPolicy_iff (policy : UInt16) :
    isKnownRollbackPolicy policy = true ↔ policy = 0 ∨ policy = 1 := by
  simp [isKnownRollbackPolicy]

def manifestAt (f : ManifestFields) (artifactId : String) : RampartManifest where
  artifactId := artifactId
  vendorId := f.vendorId
  productId := f.productId
  hardwareFamily := f.hardwareFamily
  hardwareRevisionMin := f.hardwareRevisionMin
  hardwareRevisionMax := f.hardwareRevisionMax
  componentId := f.componentId
  securityEpoch := f.securityEpoch
  versionMajor := f.versionMajor
  versionMinor := f.versionMinor
  versionPatch := f.versionPatch
  payloadSize := f.payloadSize
  payloadDigest := f.payloadDigest
  signatureRole := f.requiredKeyRole
  signatureThreshold := f.signatureThreshold
  signatureCount := f.signatureCount
  keyId := f.keyId
  trialMaxAttempts := f.trialMaxAttempts
  trialProbationMs := f.trialProbationMs
  rollbackPolicy := f.rollbackPolicy
  requirementCount := f.requirementCount
  dependencyCount := f.dependencyCount
  healthRequiredCount := f.healthRequiredCount

theorem manifestAt_fields (m : RampartManifest) : manifestAt m.fields m.artifactId = m := rfl

/-- The two algorithms are the only values of the format that a host manifest does not keep. -/
theorem fields_manifestAt {f : ManifestFields} (hf : f.Valid) (name : String) :
    (manifestAt f name).fields = f := by
  have hd := hf.digestAlgorithm
  have hs := hf.signatureAlgorithm
  cases f
  simp only at hd hs
  subst hd hs
  rfl

theorem okOr_bind_eq_ok {α β : Type} {x : Option α} {e : String} {f : α → Res β} {b : β} :
    (okOr x e >>= f) = .ok b ↔ ∃ a, x = some a ∧ f a = .ok b := by
  cases x with
  | none => simp [okOr, exit, bind, Except.bind]
  | some a => simp [okOr_some, ok_bind]

private theorem idLength_iff (n : UInt16) :
    (n.toNat = 0 ∨ n.toNat > 128) ↔ ¬ (1 ≤ n.toNat ∧ n.toNat ≤ 128) := by
  omega

theorem parseManifest_eq_ok_iff_layout : parseManifest s = .ok m ↔
    ManifestLayout s ∧ (fieldsAt s).Valid ∧
      asBytes m.artifactId = slice s 128 (u16At s 112).toNat ∧
      m = manifestAt (fieldsAt s) m.artifactId := by
  unfold parseManifest
  rw [rejectIf_bind_eq_ok]
  by_cases h : 128 ≤ s.length
  swap
  · simp only [Nat.lt_of_not_le h, not_true_eq_false, false_and, false_iff]
    exact fun hl => h hl.1.header
  have h128 : UInt16.ofNat 128 = 128 := rfl
  simp (disch := omega) only [Nat.not_lt_of_le h, not_false_eq_true, true_and, sliceRange_eq,
    requireMagic, requireZeroes, any_nonzero_iff, requireU16_eq, expect_u16TryFrom, readU16_eq,
    readU32_eq, ok_bind, rejectIf_bind_eq_ok, Nat.sub_zero, idLength_iff, not_not, h128]
  by_cases hid : 1 ≤ (u16At s 112).toNat ∧ (u16At s 112).toNat ≤ 128
  swap
  · simp only [hid, false_and, and_false, false_iff]
    exact fun hl => hid hl.1.idLength
  -- the two additions stay far below the size range, so only the comparison can reject
  have hpad := padding_lt (128 + (u16At s 112).toNat)
  have hmod : (4 - (128 + (u16At s 112).toNat) % 4) % 4 = padding (128 + (u16At s 112).toNat) := rfl
  simp (disch := omega) only [hid, checkedAdd_eq, sizeSub_eq, ok_bind, hmod, rejectIf_bind_eq_ok]
  by_cases hcan : manifestSize (u16At s 112).toNat = s.length
  swap
  · rw [manifestSize] at hcan
    simp only [ne_eq, hcan, not_false_eq_true, not_true_eq_false, false_and, and_false, false_iff]
    exact fun hl => hcan hl.1.canonical
  have hlen : 128 + (u16At s 112).toNat + padding (128 + (u16At s 112).toNat) = s.length := hcan
  have htail : s.length - (128 + (u16At s 112).toNat) = padding (128 + (u16At s 112).toNat) := by
    omega
  simp (disch := omega) only [hlen, sliceRange_eq, htail, ok_bind, rejectIf_bind_eq_ok,
    okOr_bind_eq_ok, fromUtf8_eq_some_iff, Nat.reduceSub, Nat.add_sub_cancel_left,
    slice_length_of_le, copyFromSlice_eq, pure_eq_ok_iff]
  simp only [ne_eq, not_not, not_true_eq_false, not_false_eq_true, true_and, not_or,
    Bool.not_eq_true', Bool.not_eq_false, isKnownRole_iff, isKnownRollbackPolicy_iff, gt_iff_lt,
    UInt32.not_lt]
  constructor
  · rintro ⟨hm, hv, hh, hz, hd, ha, hres, htr, name, hname, hrev, hrole, hroll, ht, ⟨h₁, h₂, h₃⟩,
      rfl⟩
    exact ⟨⟨h, hm, hv, hh, hz, hid, hcan, hres, htr⟩,
      ⟨hrev, hd, ha, hrole, ht.1, ht.2, hroll, h₁, h₂, h₃⟩, hname, rfl⟩
  · rintro ⟨hl, hf, hname, hm⟩
    exact ⟨hl.magic, hl.version, hl.headerSize, hl.size, hf.digestAlgorithm,
      hf.signatureAlgorithm, hl.reserved, hl.trailing, m.artifactId, hname, hf.revisions, hf.role,
      hf.rollback, ⟨hf.threshold, hf.count⟩, ⟨hf.requirements, hf.dependencies, hf.health⟩, hm⟩

structure RampartManifest.Shows (m : RampartManifest) (g : Manifest) : Prop where
  fields : m.fields = g.toManifestFields
  artifactId : asBytes m.artifactId = g.artifactId

theorem RampartManifest.Shows.keyId {g : Manifest} (h : m.Shows g) : m.keyId = g.keyId :=
  congrArg ManifestFields.keyId h.fields

theorem RampartManifest.Shows.payloadSize {g : Manifest} (h : m.Shows g) :
    m.payloadSize = g.payloadSize :=
  congrArg ManifestFields.payloadSize h.fields

theorem RampartManifest.Shows.payloadDigest {g : Manifest} (h : m.Shows g) :
    m.payloadDigest = g.payloadDigest :=
  congrArg ManifestFields.payloadDigest h.fields

theorem RampartManifest.Shows.bytes {g : Manifest} (h : m.Shows g) :
    (manifestTable m.fields (asBytes m.artifactId)).bytes = g.bytes := by
  rw [h.fields, h.artifactId, Manifest.bytes]

theorem exists_manifest_shows {g : Manifest}
    (h : (⟨g.artifactId.toArray⟩ : ByteArray).IsValidUTF8) : ∃ m : RampartManifest, m.Shows g := by
  have hname : fromUtf8 g.artifactId = some (String.fromUTF8 _ h) := by
    rw [fromUtf8, String.fromUTF8?, dif_pos h]
  refine ⟨manifestAt g.toManifestFields (String.fromUTF8 _ h), fields_manifestAt g.valid _, ?_⟩
  exact fromUtf8_eq_some_iff.mp hname

/-- The parser accepts the sections of the format whose artifact ID is text. -/
theorem parseManifest_eq_ok_iff :
    parseManifest s = .ok m ↔ ∃ g : Manifest, s = g.bytes ∧ m.Shows g := by
  rw [parseManifest_eq_ok_iff_layout, Manifest.exists_eq_bytes_iff]
  constructor
  · rintro ⟨hl, hf, hname, hm⟩
    refine ⟨hl, hf, ?_, hname⟩
    rw [hm, fields_manifestAt hf]
    rfl
  · rintro ⟨hl, hf, hfields, hname⟩
    refine ⟨hl, hf, hname, ?_⟩
    conv_lhs => rw [← manifestAt_fields m, hfields]
    rfl

theorem encodeManifest_of_shows {g : Manifest} (h : m.Shows g) :
    encodeManifest m = .ok g.bytes := by
  have hle := g.artifactId_le
  rw [encodeManifest_eq m (by rw [h.artifactId]; exact hle), h.bytes]

end RampartBoot.Host

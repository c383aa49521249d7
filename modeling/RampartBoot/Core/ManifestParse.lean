import RampartBoot.Core.Manifest

/-! # What the device manifest parser accepts

Acceptance is the documented layout together with the conditions on the field values. Every
other section, whatever its length, is answered by `manifestFormat`.
-/

namespace RampartBoot.Core
open Foundation Format

variable {p : Ptr UInt8} {s : List UInt8} {z : SizeT}

theorem validKeyRole_iff (role : UInt16) : validKeyRole role = true ↔ 1 ≤ role ∧ role ≤ 6 := by
  simp only [validKeyRole, Bool.or_eq_true, beq_iff_eq, ← UInt16.toNat_inj,
    UInt16.le_iff_toNat_le, UInt16.reduceToNat]
  omega

theorem validRollbackPolicy_iff (policy : UInt16) :
    validRollbackPolicy policy = true ↔ policy = 0 ∨ policy = 1 := by
  simp [validRollbackPolicy]

private theorem idLength_iff (n : UInt16) :
    (n = 0 ∨ n > 128) ↔ ¬ (1 ≤ n.toNat ∧ n.toNat ≤ 128) := by
  simp only [← UInt16.toNat_inj, gt_iff_lt, UInt16.lt_iff_toNat_lt, UInt16.reduceToNat]
  omega

private theorem sub_four_mod (n : ℕ) : (4 - n % 4) % 4 = padding n := rfl

def manifestViewAt (p : Ptr UInt8) (f : ManifestFields) (idLen : ℕ) : ManifestView where
  formatVersion := 1
  artifactId := some ⟨p.obj, p.off + 128⟩
  artifactIdLen := idLen
  target := ⟨f.vendorId, f.productId, f.hardwareFamily, f.componentId⟩
  hardwareRevisionMin := f.hardwareRevisionMin
  hardwareRevisionMax := f.hardwareRevisionMax
  securityEpoch := f.securityEpoch
  versionMajor := f.versionMajor
  versionMinor := f.versionMinor
  versionPatch := f.versionPatch
  digestAlgorithm := f.digestAlgorithm
  payloadSize := f.payloadSize
  payloadDigest := some ⟨p.obj, p.off + 56⟩
  payloadDigestLen := 32
  signatureAlgorithm := f.signatureAlgorithm
  requiredKeyRole := f.requiredKeyRole
  signatureThreshold := f.signatureThreshold
  signatureCount := f.signatureCount
  keyId := some ⟨p.obj, p.off + 96⟩
  keyIdLen := 8
  trialMaxAttempts := f.trialMaxAttempts
  trialProbationMs := f.trialProbationMs
  rollbackPolicy := f.rollbackPolicy
  requirementCount := f.requirementCount
  dependencyCount := f.dependencyCount
  healthRequiredCount := f.healthRequiredCount

theorem readManifestV1_eq_ok_iff (hp : p.Points s) (hz : s.length ≤ z.max) (v : ManifestView) :
    readManifestV1 z (some p) s.length = .ok v ↔
      ManifestLayout s ∧ (fieldsAt s).Valid ∧
        v = manifestViewAt p (fieldsAt s) (u16At s 112).toNat := by
  unfold readManifestV1
  rw [rejectIf_bind_eq_ok]
  by_cases h : 128 ≤ s.length
  swap
  · simp only [Nat.lt_of_not_le h, not_true_eq_false, false_and, false_iff]
    exact fun hl => h hl.1.header
  have hmax := z.u32_le_max
  have hmagic := bytesMatch_eq (ε := Status) hp (n := 8) (by omega)
    (c := ['R', 'P', 'M', 'F', 'S', 'T', '0', '1']) rfl
  simp (disch := omega) only [Nat.not_lt_of_le h, not_false_eq_true, true_and, hmagic, ok_bind,
    rejectIf_bind_eq_ok, readU32Le_eq hp hz, readU16Le_eq hp hz, hp.address_eq, idLength_iff,
    not_not]
  by_cases hid : 1 ≤ (u16At s 112).toNat ∧ (u16At s 112).toNat ≤ 128
  swap
  · simp only [hid, false_and, and_false, false_iff]
    exact fun hl => hid hl.1.idLength
  -- the two additions stay far below the size range, so only the comparison can reject
  have hpad := padding_lt (128 + (u16At s 112).toNat)
  simp (disch := omega) only [hid, checkedAddSize_eq, sizeSub_eq, ok_bind, sub_four_mod,
    rejectIf_bind_eq_ok]
  by_cases hcan : manifestSize (u16At s 112).toNat = s.length
  swap
  · rw [manifestSize] at hcan
    simp only [ne_eq, hcan, not_false_eq_true, not_true_eq_false, false_and, and_false, false_iff]
    exact fun hl => hcan hl.1.canonical
  have hlen : 128 + (u16At s 112).toNat + padding (128 + (u16At s 112).toNat) = s.length := hcan
  have htail : s.length - (128 + (u16At s 112).toNat) = padding (128 + (u16At s 112).toNat) := by
    omega
  simp (disch := omega) only [hlen, sizeSub_eq, htail, ok_bind, hp.address_eq, allZeroes_eq hp,
    Nat.reduceSub, rejectIf_bind_eq_ok, pure_eq_ok_iff, SizeT.ofU32_eq]
  simp only [ne_eq, Bool.not_eq_true', decide_eq_false_iff_not, not_not, not_or, true_and,
    Bool.not_eq_false, validKeyRole_iff, validRollbackPolicy_iff, gt_iff_lt, UInt32.not_lt]
  constructor
  · rintro ⟨hm, hs, hv, hh, hrev, hd, ha, hrole, ht, hroll, ⟨h₁, h₂, h₃⟩, hres, htr, rfl⟩
    refine ⟨⟨h, hm, hv, hh, hs, hid, hcan, hres, htr⟩,
      ⟨hrev, hd, ha, hrole, ht.1, ht.2, hroll, h₁, h₂, h₃⟩, ?_⟩
    rw [hv]; rfl
  · rintro ⟨hl, hf, rfl⟩
    refine ⟨hl.magic, hl.size, hl.version, hl.headerSize, hf.revisions, hf.digestAlgorithm,
      hf.signatureAlgorithm, hf.role, ⟨hf.threshold, hf.count⟩, hf.rollback,
      ⟨hf.requirements, hf.dependencies, hf.health⟩, hl.reserved, hl.trailing, ?_⟩
    rw [hl.version]; rfl

/-- No read leaves the section, no size wraps, and there is one way to reject. -/
theorem readManifestV1_total (hp : p.Points s) (hz : s.length ≤ z.max) :
    wp (readManifestV1 z (some p) s.length) (fun _ => True) (fun e => e = .manifestFormat) := by
  unfold readManifestV1
  have hmax := z.u32_le_max
  simp only [wp_bind, wp_rejectIf, implies_true, true_and]
  intro h
  have hmagic := bytesMatch_eq (ε := Status) hp (n := 8) (by omega)
    (c := ['R', 'P', 'M', 'F', 'S', 'T', '0', '1']) rfl
  simp (disch := omega) only [hmagic, wp_ok, readU32Le_eq hp hz, readU16Le_eq hp hz,
    hp.address_eq, idLength_iff, not_not, allZeroes_eq hp, Nat.reduceSub, sizeSub_eq]
  intro _ _ _ _ _ _ _ _ _ _ hid
  have hpad := padding_lt (128 + (u16At s 112).toNat)
  simp (disch := omega) only [checkedAddSize_eq, wp_ok, sub_four_mod]
  intro hcan _ _
  simp (disch := omega) only [hp.address_eq, wp_ok, allZeroes_eq hp, sizeSub_eq, wp_pure,
    implies_true]

/-- The parser accepts exactly the manifest sections of the format. -/
theorem parseManifestV1_eq_ok_iff (b : Buffer z) (prior : ManifestView)
    (out : Option ManifestView) :
    call (rampartManifestParseV1 z (some b.start) b.len) (some prior) = .ok (.ok, out) ↔
      ∃ g : Manifest, b.bytes = g.bytes ∧
        out = some (manifestViewAt b.start g.toManifestFields g.artifactId.length) := by
  have hcall : call (rampartManifestParseV1 z (some b.start) b.len) (some prior) =
    published prior (readManifestV1 z (some b.start) b.len) := call_publish _ prior
  have hread := readManifestV1_eq_ok_iff b.points b.fits
  rw [hcall, Manifest.exists_eq_bytes_iff]
  rcases wp_cases (readManifestV1_total b.points b.fits) with ⟨v, hok, -⟩ | ⟨e, herr, rfl⟩
  · obtain ⟨hl, hv, rfl⟩ := (hread v).mp hok
    rw [Buffer.len, hok, published]
    constructor
    · rintro h
      cases h
      exact ⟨hl, hv, by rw [Manifest.ofSection_artifactId_length]; rfl⟩
    · rintro ⟨_, _, rfl⟩
      rw [Manifest.ofSection_artifactId_length]
      rfl
  · rw [Buffer.len, herr, published]
    constructor
    · rintro h
      cases h
    · rintro ⟨hl, hv, rfl⟩
      rw [(hread _).mpr ⟨hl, hv, rfl⟩] at herr
      cases herr

end RampartBoot.Core

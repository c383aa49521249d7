import RampartBoot.Core.Image
import RampartBoot.Core.ManifestParse
import RampartBoot.Format.Image

/-! # What the device image parser accepts

The header pass, the manifest pass and the signature pass each accept exactly their part of
the image layout; together they accept the images whose public key starts as an uncompressed
point does.
-/

namespace RampartBoot.Core
open Foundation Format

variable {p q : Ptr UInt8} {s b : List UInt8} {z : SizeT}

theorem withLocal_rampartManifestParseV1 (p : Ptr UInt8) (len : ℕ) (init : ManifestView) :
    withLocal (rampartManifestParseV1 z (some p) len) init = readManifestV1 z (some p) len := by
  change withLocal (liftM (readManifestV1 z (some p) len) >>= fun v => set (some v)) init = _
  rcases readManifestV1 z (some p) len with (e | f) | v <;> rfl

theorem withLocal_validateSignatureSection (p : Ptr UInt8) (len off size : ℕ) (m : ManifestView)
    (init : SignatureView) :
    withLocal (validateSignatureSection z (some p) len off size (some m)) init =
      readSignatureSection z (some p) len off size m := by
  change withLocal (liftM (readSignatureSection z (some p) len off size m) >>=
    fun v => set (some v)) init = _
  rcases readSignatureSection z (some p) len off size m with (e | f) | v <;> rfl

theorem call_rampartImageParse (p : Ptr UInt8) (len : ℕ) (prior : ImageView) :
    call (rampartImageParse z (some p) len) (some prior) =
      published prior (readImage z (some p) len) :=
  call_publish (readImage z (some p) len) prior

theorem requireU16_eq (hp : p.Points s) (hz : s.length ≤ z.max) {offset : ℕ}
    (h : offset + 2 ≤ s.length) (expected : UInt16) :
    requireU16 z (some p) s.length offset expected =
      rejectIf (u16At s offset ≠ expected) .imageFormat := by
  rw [requireU16, bind_of_eq_ok (readU16Le_eq hp hz h)]

theorem requireU32_eq (hp : p.Points s) (hz : s.length ≤ z.max) {offset : ℕ}
    (h : offset + 4 ≤ s.length) (expected : UInt32) :
    requireU32 z (some p) s.length offset expected =
      rejectIf (u32At s offset ≠ expected) .imageFormat := by
  rw [requireU32, bind_of_eq_ok (readU32Le_eq hp hz h)]

theorem rangesAvailable_eq {ε : Type} (len : ℕ) (ranges : List (ℕ × ℕ)) :
    (rangesAvailable z len ranges : Checked ε Bool) =
      .ok (decide (∀ r ∈ ranges, r.1 + r.2 ≤ len)) := by
  induction ranges with
  | nil => simp [rangesAvailable, pure, Except.pure]
  | cons r rest ih =>
    rw [rangesAvailable, bind_of_eq_ok (rangeAvailable_eq _ _ _), ih]
    by_cases hr : r.1 + r.2 ≤ len <;> simp [hr, pure, Except.pure]

def signatureViewAt (p : Ptr UInt8) : SignatureView where
  keyId := some ⟨p.obj, p.off + 32⟩
  keyIdLen := 8
  signatureAlgorithm := 1
  signature := some ⟨p.obj, p.off + 48⟩
  signatureLen := 64
  publicKey := some ⟨p.obj, p.off + 112⟩
  publicKeyLen := 65

theorem readSignatureSection_eq_ok_iff (hp : p.Points s) (hz : s.length ≤ z.max) {n : ℕ}
    {m : ManifestView} {k : Vector UInt8 8} (hm : m.keyId = some q) (hq : q.Points k.toList)
    (v : SignatureView) :
    readSignatureSection z (some p) s.length 64 n m = .ok v ↔
      SignatureLayout n k s ∧ (vectorAt s 112 65)[0]? = some 0x04 ∧ v = signatureViewAt p := by
  have hfirst : (vectorAt s 112 65)[0]? = some 0x04 ↔ (vectorAt s 112 65)[0] = 0x04 := by simp
  unfold readSignatureSection
  rw [rejectIf_bind_eq_ok, hfirst]
  by_cases h : s.length = 192
  swap
  · simp only [h, ne_eq, not_false_eq_true, not_true_eq_false, false_and, false_iff]
    exact fun hl => h hl.1.length
  have hmagic := bytesMatch_eq (ε := Status) hp (n := 8) (by omega)
    (c := ['R', 'P', 'S', 'I', 'G', 'N', '0', '1']) rfl
  have htag := load_vectorAt (ε := Status) hp (i := 112) (n := 65) (k := 0) (by omega) (by omega)
  have htail : s.length - 177 = 15 := by omega
  simp (disch := omega) only [hmagic, ok_bind, rejectIf_bind_eq_ok, requireU16_eq hp hz,
    requireU32_eq hp hz, hp.address_eq, hm, bytesEqual_keyId_eq hp _ hq, Nat.reduceAdd,
    htag, sizeSub_eq, htail]
  simp (disch := omega) only [allZeroes_eq hp, ok_bind, rejectIf_bind_eq_ok, pure_eq_ok_iff, ne_eq,
    not_not, Bool.not_eq_true', decide_eq_false_iff_not]
  constructor
  · rintro ⟨-, h₁, h₂, h₃, h₄, h₅, h₆, h₇, h₈, h₉, h₁₀, h₁₁, h₁₂, h₁₃, h₁₄, h₁₅, htag, h₁₆, rfl⟩
    exact ⟨⟨h, h₁, h₂, h₃, h₄, h₅, h₆, h₇, h₈, h₉, h₁₀, h₁₁, h₁₂, h₁₃, h₁₄, h₁₅, h₁₆⟩, htag, rfl⟩
  · rintro ⟨⟨-, h₁, h₂, h₃, h₄, h₅, h₆, h₇, h₈, h₉, h₁₀, h₁₁, h₁₂, h₁₃, h₁₄, h₁₅, h₁₆⟩, htag, rfl⟩
    exact ⟨h, h₁, h₂, h₃, h₄, h₅, h₆, h₇, h₈, h₉, h₁₀, h₁₁, h₁₂, h₁₃, h₁₄, h₁₅, htag, h₁₆, rfl⟩

theorem readSignatureSection_total (hp : p.Points s) (hz : s.length ≤ z.max) {n : ℕ}
    {m : ManifestView} {k : Vector UInt8 8} (hm : m.keyId = some q) (hq : q.Points k.toList) :
    wp (readSignatureSection z (some p) s.length 64 n m) (fun _ => True)
      (fun e => e = .imageFormat) := by
  unfold readSignatureSection
  simp only [wp_bind, wp_rejectIf, implies_true, true_and, not_not, ne_eq]
  intro h
  have hmagic := bytesMatch_eq (ε := Status) hp (n := 8) (by omega)
    (c := ['R', 'P', 'S', 'I', 'G', 'N', '0', '1']) rfl
  have htag := load_vectorAt (ε := Status) hp (i := 112) (n := 65) (k := 0) (by omega) (by omega)
  have htail : s.length - 177 = 15 := by omega
  simp (disch := omega) only [hmagic, wp_ok, wp_rejectIf, requireU16_eq hp hz,
    requireU32_eq hp hz, hp.address_eq, hm, bytesEqual_keyId_eq hp _ hq, Nat.reduceAdd,
    htag, sizeSub_eq, htail]
  simp (disch := omega) only [allZeroes_eq hp, wp_ok, wp_pure, implies_true, and_true]

def headerViewAt (p : Ptr UInt8) (b : List UInt8) : ImageView :=
  { ImageView.zero with
    bytes := some p
    len := b.length
    manifestOffset := 64
    manifestSize := (u32At b 20).toNat
    payloadOffset := 64 + (u32At b 20).toNat
    payloadSize := (u32At b 28).toNat
    signatureOffset := 64 + (u32At b 20).toNat + (u32At b 28).toNat
    signatureSize := (u32At b 36).toNat
    signedRegionOffset := 64
    signedRegionSize := (u32At b 20).toNat + (u32At b 28).toNat }

theorem readImageHeader_eq_ok_iff (hp : p.Points b) (hz : b.length ≤ z.max) (v : ImageView) :
    readImageHeader z (some p) b.length = .ok v ↔
      64 + (u32At b 20).toNat + (u32At b 28).toNat + (u32At b 36).toNat = b.length ∧
      64 + (u32At b 20).toNat + (u32At b 28).toNat < 2 ^ 32 ∧
      HeaderRanges (u32At b 20).toNat (u32At b 28).toNat b ∧ v = headerViewAt p b := by
  unfold readImageHeader
  rw [rejectIf_bind_eq_ok]
  by_cases h : 64 ≤ b.length
  swap
  · simp only [Nat.lt_of_not_le h, not_true_eq_false, false_and, false_iff]
    exact fun hl => h (by omega)
  have hmax := z.u32_le_max
  have hmagic := bytesMatch_eq (ε := Status) hp (n := 8) (by omega)
    (c := ['R', 'M', 'P', 'I', 'M', 'G', '0', '1']) rfl
  have h16 := (u32At b 16).toNat_lt
  have h20 := (u32At b 20).toNat_lt
  have h24 := (u32At b 24).toNat_lt
  have h28 := (u32At b 28).toNat_lt
  have h32 := (u32At b 32).toNat_lt
  simp (disch := omega) only [hmagic, ok_bind, rejectIf_bind_eq_ok, readU32Le_eq hp hz,
    readU16Le_eq hp hz, hp.address_eq, Nat.reduceSub, sizeSub_eq, allZeroes_eq hp,
    SizeT.ofU32_eq, checkedAddSize_bind_eq_ok, rangesAvailable_eq, pure_eq_ok_iff]
  simp only [not_lt, ne_eq, not_or, not_not, Bool.not_eq_true', decide_eq_false_iff_not]
  have h44 := (u32At b 44).toNat_lt
  have e64 : ∀ v : UInt32, v = 64 ↔ v.toNat = 64 := fun v => u32_eq_ofNat_iff (n := 64) (by omega)
  constructor
  · rintro ⟨-, hmag, ⟨hv, hk, hh, hf⟩, hres, hmo, -, hpo, -, hso, -, hlen, hro, -, hrs, hr, rfl⟩
    have hfits : 64 + (u32At b 20).toNat + (u32At b 28).toNat < 2 ^ 32 := by omega
    refine ⟨by omega, hfits,
      ⟨hmag, hv, hk, hh, hf, (e64 _).mpr hmo, ?_, ?_, ?_, ?_, (e64 _).mpr (hro.trans hmo), ?_,
        hres⟩, ?_⟩
    · rw [u32_eq_ofNat_iff h20]
    · rw [u32_eq_ofNat_iff (by omega)]; omega
    · rw [u32_eq_ofNat_iff h28]
    · rw [u32_eq_ofNat_iff (by omega)]; omega
    · rw [u32_eq_ofNat_iff (by omega)]; omega
    · rw [headerViewAt, hro, hmo, hso, hpo, hmo, hrs]
  · rintro ⟨hlen, hfits, hl, rfl⟩
    have hmo := (e64 _).mp hl.manifestOffset
    have hpo := (u32_eq_ofNat_iff (by omega)).mp hl.payloadOffset
    have hso := (u32_eq_ofNat_iff (by omega)).mp hl.signatureOffset
    have hro := (e64 _).mp hl.signedRegionOffset
    have hrs := (u32_eq_ofNat_iff (by omega)).mp hl.signedRegionSize
    refine ⟨h, hl.magic, ⟨hl.version, hl.kind, hl.headerSize, hl.flags⟩, hl.reserved, hmo, by omega,
      by omega, by omega, by omega, by omega, by omega, by omega, by omega, hrs, ?_, ?_⟩
    · simp; omega
    · rw [headerViewAt, hro, hmo, hso, hpo, hrs]

theorem readImageHeader_total (hp : p.Points b) (hz : b.length ≤ z.max) :
    wp (readImageHeader z (some p) b.length) (fun _ => True)
      (fun e => e = .imageFormat ∨ e = .overflow) := by
  unfold readImageHeader
  have hmax := z.u32_le_max
  simp only [wp_bind, wp_rejectIf, true_or, implies_true, true_and]
  intro h
  have hmagic := bytesMatch_eq (ε := Status) hp (n := 8) (by omega)
    (c := ['R', 'M', 'P', 'I', 'M', 'G', '0', '1']) rfl
  have h16 := (u32At b 16).toNat_lt
  have h20 := (u32At b 20).toNat_lt
  have h24 := (u32At b 24).toNat_lt
  have h32 := (u32At b 32).toNat_lt
  simp (disch := omega) only [hmagic, wp_ok, readU32Le_eq hp hz, readU16Le_eq hp hz,
    hp.address_eq, Nat.reduceSub, sizeSub_eq, allZeroes_eq hp, SizeT.ofU32_eq, wp_checkedAddSize,
    rangesAvailable_eq, wp_pure, implies_true, or_true, true_and]

def imageViewAt (p : Ptr UInt8) (g : Image) : ImageView where
  bytes := some p
  len := g.signatureOffset + 192
  manifestOffset := 64
  manifestSize := g.manifest.size
  payloadOffset := 64 + g.manifest.size
  payloadSize := g.payload.length
  signatureOffset := g.signatureOffset
  signatureSize := 192
  signedRegionOffset := 64
  signedRegionSize := g.manifest.size + g.payload.length
  manifest := manifestViewAt ⟨p.obj, p.off + 64⟩ g.manifest.toManifestFields
    g.manifest.artifactId.length
  signature := signatureViewAt ⟨p.obj, p.off + g.signatureOffset⟩

theorem points_keyId (hp : p.Points s) (h : 128 ≤ s.length) :
    Ptr.Points ⟨p.obj, p.off + 96⟩ (fieldsAt s).keyId.toList := by
  change Ptr.Points _ (vectorAt s 96 8).toList
  rw [vectorAt_toList (by omega)]
  exact hp.sub (by omega)

section Sections
variable {parsed : ImageView} {m t : List UInt8} (hp : p.Points b) (hz : b.length ≤ z.max)
  (hm : parsed.manifestOffset + parsed.manifestSize ≤ b.length)
  (hs : parsed.signatureOffset + parsed.signatureSize ≤ b.length)
  (hr : parsed.signedRegionOffset = 64)
  (hman : slice b parsed.manifestOffset parsed.manifestSize = m)
  (hsig : slice b parsed.signatureOffset parsed.signatureSize = t)
include hp hz hm hs hr hman hsig

/-- The sections behind a header that passed: what the manifest and the signature pass add. -/
theorem readImageSections_eq_ok_iff (v : ImageView) :
    readImageSections z (some p) parsed = .ok v ↔
      ManifestLayout m ∧ (fieldsAt m).Valid ∧
      (fieldsAt m).payloadSize.toNat = parsed.payloadSize ∧
      SignatureLayout parsed.signedRegionSize (fieldsAt m).keyId t ∧
      (vectorAt t 112 65)[0]? = some 0x04 ∧
      v = { parsed with
        manifest := manifestViewAt ⟨p.obj, p.off + parsed.manifestOffset⟩ (fieldsAt m)
          (u16At m 112).toNat
        signature := signatureViewAt ⟨p.obj, p.off + parsed.signatureOffset⟩ } := by
  have hml : m.length = parsed.manifestSize := hman ▸ slice_length_of_le hm
  have hsl : t.length = parsed.signatureSize := hsig ▸ slice_length_of_le hs
  have hpm : Ptr.Points ⟨p.obj, p.off + parsed.manifestOffset⟩ m := hman ▸ hp.sub hm
  have hps : Ptr.Points ⟨p.obj, p.off + parsed.signatureOffset⟩ t := hsig ▸ hp.sub hs
  have hread := readManifestV1_eq_ok_iff (z := z) hpm (by omega)
  have hcheck := fun h => readSignatureSection_eq_ok_iff (z := z) hps (by omega)
    (n := parsed.signedRegionSize) (q := ⟨p.obj, p.off + parsed.manifestOffset + 96⟩)
    (m := manifestViewAt ⟨p.obj, p.off + parsed.manifestOffset⟩ (fieldsAt m)
      (u16At m 112).toNat) rfl (points_keyId hpm h)
  rw [readImageSections, bind_of_eq_ok (hp.address_eq (by omega)),
    withLocal_rampartManifestParseV1, ← hml, bind_eq_ok_iff]
  simp only [hread, and_assoc, exists_and_left, exists_eq_left]
  refine and_congr_right fun hlay => and_congr_right fun _ => ?_
  rw [rejectIf_bind_eq_ok, bind_of_eq_ok (hp.address_eq (by omega)), hr,
    withLocal_validateSignatureSection, ← hsl, bind_eq_ok_iff]
  simp only [hcheck hlay.header, pure_eq_ok_iff, SizeT.ofU32_eq, ne_eq, not_not, and_assoc,
    exists_and_left, exists_eq_left]
  rfl

theorem readImageSections_total :
    wp (readImageSections z (some p) parsed) (fun _ => True)
      (fun e => e = .imageFormat ∨ e = .manifestFormat) := by
  have hml : m.length = parsed.manifestSize := hman ▸ slice_length_of_le hm
  have hsl : t.length = parsed.signatureSize := hsig ▸ slice_length_of_le hs
  have hpm : Ptr.Points ⟨p.obj, p.off + parsed.manifestOffset⟩ m := hman ▸ hp.sub hm
  have hps : Ptr.Points ⟨p.obj, p.off + parsed.signatureOffset⟩ t := hsig ▸ hp.sub hs
  rw [readImageSections, bind_of_eq_ok (hp.address_eq (by omega)),
    withLocal_rampartManifestParseV1, ← hml, wp_bind]
  rcases wp_cases (readManifestV1_total (z := z) hpm (by omega)) with ⟨v, hok, -⟩ | ⟨e, herr, rfl⟩
  · obtain ⟨hlay, -, rfl⟩ := (readManifestV1_eq_ok_iff hpm (by omega) v).mp hok
    have hcheck := readSignatureSection_total (z := z) hps (by omega)
      (n := parsed.signedRegionSize) (q := ⟨p.obj, p.off + parsed.manifestOffset + 96⟩)
      (m := manifestViewAt ⟨p.obj, p.off + parsed.manifestOffset⟩ (fieldsAt m)
        (u16At m 112).toNat) rfl (points_keyId hpm hlay.header)
    rw [hok, wp_ok, wp_bind, wp_rejectIf, bind_of_eq_ok (hp.address_eq (by omega)), hr,
      withLocal_validateSignatureSection, ← hsl, wp_bind]
    exact ⟨fun _ => .inl rfl, fun _ => wp_mono hcheck (fun _ _ => trivial) (fun _ => .inl)⟩
  · rw [herr]
    exact .inr rfl

end Sections

theorem readImage_eq_ok_iff (hp : p.Points b) (hz : b.length ≤ z.max) (v : ImageView) :
    readImage z (some p) b.length = .ok v ↔
      ∃ g : Image, b = g.bytes ∧ g.publicKey[0]? = some 0x04 ∧ v = imageViewAt p g := by
  have hview (h : ImageLayout b) (hv : (fieldsAt (manifestIn b)).Valid) :
      imageViewAt p (Image.ofBytes b h hv) = { headerViewAt p b with
        manifest := manifestViewAt ⟨p.obj, p.off + 64⟩ (fieldsAt (manifestIn b))
          (u16At (manifestIn b) 112).toNat
        signature := signatureViewAt
          ⟨p.obj, p.off + (64 + (u32At b 20).toNat + (u32At b 28).toNat)⟩ } := by
    have hsize : (Image.ofBytes b h hv).manifest.size = (u32At b 20).toNat := h.ofSection_size hv
    have hpay : (Image.ofBytes b h hv).payload.length = (u32At b 28).toNat := h.payloadIn_length
    have hid : (Image.ofBytes b h hv).manifest.artifactId.length =
        (u16At (manifestIn b) 112).toNat :=
      Manifest.ofSection_artifactId_length h.manifest hv
    rw [imageViewAt, Image.signatureOffset, hsize, hpay, hid, headerViewAt, h.length,
      h.header.signatureSize]
    rfl
  rw [Image.exists_eq_bytes_iff, readImage, bind_eq_ok_iff]
  simp only [readImageHeader_eq_ok_iff hp hz, hview]
  constructor
  · rintro ⟨_, ⟨hlen, hfits, hr, rfl⟩, hrest⟩
    rw [readImageSections_eq_ok_iff hp hz (by simp only [headerViewAt]; omega) hlen.le rfl
      (m := manifestIn b) rfl rfl] at hrest
    obtain ⟨hman, hv, hpay, hsig, htag, rfl⟩ := hrest
    have h192 : (u32At b 36).toNat = 192 := by
      rw [← hsig.length]; exact (slice_length_of_le hlen.le).symm
    simp only [headerViewAt, h192] at hsig htag
    exact ⟨⟨by omega, hfits, ⟨hr, (u32_eq_ofNat_iff (n := 192) (by omega)).mpr h192⟩, hman,
      hpay.symm, hsig⟩, hv, htag, rfl⟩
  · rintro ⟨h, hv, htag, rfl⟩
    have h192 : (u32At b 36).toNat = 192 := by rw [h.header.signatureSize]; rfl
    have hlen := h.length
    refine ⟨_, ⟨by omega, h.fits, h.header.toHeaderRanges, rfl⟩, ?_⟩
    rw [readImageSections_eq_ok_iff hp hz (by simp only [headerViewAt]; omega)
      (by simp only [headerViewAt]; omega) rfl (m := manifestIn b) (t := signatureIn b) rfl
      (by simp only [headerViewAt, h192]; rfl)]
    exact ⟨h.manifest, hv, h.payload.symm, h.signature, htag, rfl⟩

/-- Every other input is answered by one of three statuses, without a fault. -/
theorem readImage_total (hp : p.Points b) (hz : b.length ≤ z.max) :
    wp (readImage z (some p) b.length) (fun _ => True)
      (fun e => e = .imageFormat ∨ e = .manifestFormat ∨ e = .overflow) := by
  rw [readImage, wp_bind]
  rcases wp_cases (readImageHeader_total hp hz) with ⟨v, hok, -⟩ | ⟨e, herr, he⟩
  · obtain ⟨hlen, -, -, rfl⟩ := (readImageHeader_eq_ok_iff hp hz v).mp hok
    rw [hok, wp_ok]
    refine wp_mono (readImageSections_total hp hz (by simp only [headerViewAt]; omega) hlen.le rfl
      rfl rfl) (fun _ _ => trivial) (fun e he => ?_)
    exact he.imp_right .inl
  · rw [herr]
    exact he.imp_right .inr
end RampartBoot.Core

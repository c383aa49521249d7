import RampartBoot.Core.Acceptance

/-! # The status of every input

The image parser answers with one of four statuses. Two of them say where the input went wrong:
in the manifest section behind a sound header, or in a sum of header fields that the size type
does not hold. Only the second depends on the width of sizes.
-/

namespace RampartBoot.Core
open Foundation Format

variable {p : Ptr UInt8} {b : List UInt8} {z : SizeT}

/-- What is checked of a header before any offset is compared with a sum. -/
structure HeaderStart (b : List UInt8) : Prop where
  length : 64 ≤ b.length
  magic : slice b 0 8 = ascii ['R', 'M', 'P', 'I', 'M', 'G', '0', '1']
  version : u16At b 8 = 1
  kind : u16At b 10 = 1
  headerSize : u16At b 12 = 64
  flags : u16At b 14 = 0
  reserved : slice b 48 16 = zeros 16
  manifestOffset : u32At b 16 = 64

/-- A sum of an offset and the size of its section is too large, and the offset is the end of
the section in front. -/
inductive SumTooLarge (z : SizeT) (b : List UInt8) : Prop where
  | manifest (sum : z.max < 64 + (u32At b 20).toNat)
  | payload (offset : (u32At b 24).toNat = 64 + (u32At b 20).toNat)
      (sum : z.max < (u32At b 24).toNat + (u32At b 28).toNat)
  | signature (offset : (u32At b 24).toNat = 64 + (u32At b 20).toNat)
      (offset' : (u32At b 32).toNat = (u32At b 24).toNat + (u32At b 28).toNat)
      (sum : z.max < (u32At b 32).toNat + (u32At b 36).toNat)

/-- A header whose sections fill the input. -/
structure HeaderSound (b : List UInt8) : Prop where
  length : 64 + (u32At b 20).toNat + (u32At b 28).toNat + (u32At b 36).toNat = b.length
  fits : 64 + (u32At b 20).toNat + (u32At b 28).toNat < 2 ^ 32
  ranges : HeaderRanges (u32At b 20).toNat (u32At b 28).toNat b

theorem headerStart_of_ranges {m n : ℕ} (h : HeaderRanges m n b) (hlen : 64 ≤ b.length) :
    HeaderStart b :=
  ⟨hlen, h.magic, h.version, h.kind, h.headerSize, h.flags, h.reserved, h.manifestOffset⟩

theorem checkedAddSize_bind_eq_overflow {β : Type} {left right : ℕ} (h : left ≤ z.max)
    {f : ℕ → Checked Status β} :
    (rampartBinaryCheckedAddSize z left right >>= f) = exit .overflow ↔
      z.max < left + right ∨ left + right ≤ z.max ∧ f (left + right) = exit .overflow := by
  by_cases hsum : left + right ≤ z.max
  · rw [bind_of_eq_ok (checkedAddSize_eq hsum)]
    simp only [hsum, true_and, Nat.not_lt_of_le hsum, false_or]
  · have hover : rampartBinaryCheckedAddSize z left right = exit .overflow := by
      rw [rampartBinaryCheckedAddSize, bind_of_eq_ok (sizeSub_eq h), rejectIf, if_pos (by omega)]
      rfl
    rw [hover]
    exact iff_of_true rfl (.inl (Nat.lt_of_not_le hsum))

theorem readImageHeader_eq_overflow_iff (hp : p.Points b) (hz : b.length ≤ z.max) :
    readImageHeader z (some p) b.length = exit .overflow ↔ HeaderStart b ∧ SumTooLarge z b := by
  unfold readImageHeader
  rw [rejectIf_bind_eq_exit (by decide)]
  by_cases h : 64 ≤ b.length
  swap
  · simp only [Nat.lt_of_not_le h, not_true_eq_false, false_and, false_iff]
    exact fun hl => h hl.1.length
  have hmax := z.u32_le_max
  have hmagic := bytesMatch_eq (ε := Status) hp (n := 8) (by omega)
    (c := ['R', 'M', 'P', 'I', 'M', 'G', '0', '1']) rfl
  have h16 := (u32At b 16).toNat_lt
  have h20 := (u32At b 20).toNat_lt
  have h24 := (u32At b 24).toNat_lt
  have h32 := (u32At b 32).toNat_lt
  have hne : Status.imageFormat ≠ .overflow := by decide
  simp (disch := omega) only [hmagic, ok_bind, rejectIf_bind_eq_exit hne, readU32Le_eq hp hz,
    readU16Le_eq hp hz, hp.address_eq, Nat.reduceSub, sizeSub_eq, allZeroes_eq hp,
    SizeT.ofU32_eq, checkedAddSize_bind_eq_overflow, rangesAvailable_eq, pure_ne_exit]
  simp only [not_lt, ne_eq, not_or, not_not, Bool.not_eq_true', decide_eq_false_iff_not, h,
    true_and, and_false, or_false]
  have e64 : u32At b 16 = 64 ↔ (u32At b 16).toNat = 64 := u32_eq_ofNat_iff (n := 64) (by omega)
  constructor
  · rintro ⟨hmag, ⟨hv, hk, hh, hf⟩, hres, hmo, hsum⟩
    refine ⟨⟨h, hmag, hv, hk, hh, hf, hres, e64.mpr hmo⟩, ?_⟩
    rcases hsum with hsum | ⟨-, hpo, hsum | ⟨-, hso, hsum | ⟨hle, hlen, -, hsum⟩⟩⟩
    · exact .manifest (by omega)
    · exact .payload (by omega) hsum
    · exact .signature (by omega) hso hsum
    · -- the sections do not overlap, so the last sum is below one that fitted
      omega
  · rintro ⟨hl, hsum⟩
    have hmo := e64.mp hl.manifestOffset
    refine ⟨hl.magic, ⟨hl.version, hl.kind, hl.headerSize, hl.flags⟩, hl.reserved, hmo, ?_⟩
    rcases hsum with hsum | ⟨hpo, hsum⟩ | ⟨hpo, hso, hsum⟩
    all_goals omega

theorem readImageSections_eq_manifestFormat_iff {parsed : ImageView} {m t : List UInt8}
    (hp : p.Points b) (hz : b.length ≤ z.max)
    (hm : parsed.manifestOffset + parsed.manifestSize ≤ b.length)
    (hs : parsed.signatureOffset + parsed.signatureSize ≤ b.length)
    (hr : parsed.signedRegionOffset = 64)
    (hman : slice b parsed.manifestOffset parsed.manifestSize = m)
    (hsig : slice b parsed.signatureOffset parsed.signatureSize = t) :
    readImageSections z (some p) parsed = exit .manifestFormat ↔
      ¬ (ManifestLayout m ∧ (fieldsAt m).Valid) := by
  have hml : m.length = parsed.manifestSize := hman ▸ slice_length_of_le hm
  have hsl : t.length = parsed.signatureSize := hsig ▸ slice_length_of_le hs
  have hpm : Ptr.Points ⟨p.obj, p.off + parsed.manifestOffset⟩ m := hman ▸ hp.sub hm
  have hps : Ptr.Points ⟨p.obj, p.off + parsed.signatureOffset⟩ t := hsig ▸ hp.sub hs
  rw [readImageSections, bind_of_eq_ok (hp.address_eq (by omega)),
    withLocal_rampartManifestParseV1, ← hml]
  rcases wp_cases (readManifestV1_total (z := z) hpm (by omega)) with ⟨v, hok, -⟩ | ⟨e, herr, rfl⟩
  · obtain ⟨hlay, hv, rfl⟩ := (readManifestV1_eq_ok_iff hpm (by omega) v).mp hok
    refine iff_of_false ?_ (not_not.mpr ⟨hlay, hv⟩)
    rw [bind_of_eq_ok hok, rejectIf_bind_eq_exit (by decide),
      bind_of_eq_ok (hp.address_eq (by omega)), hr, withLocal_validateSignatureSection, ← hsl,
      bind_eq_exit_iff]
    rintro ⟨-, herr | ⟨_, -, hret⟩⟩
    · have hcheck := readSignatureSection_total (z := z) hps (by omega)
        (n := parsed.signedRegionSize) (q := ⟨p.obj, p.off + parsed.manifestOffset + 96⟩)
        (m := manifestViewAt ⟨p.obj, p.off + parsed.manifestOffset⟩ (fieldsAt m)
          (u16At m 112).toNat) rfl (points_keyId hpm hlay.header)
      rw [herr, wp_exit] at hcheck
      cases hcheck
    · exact pure_ne_exit hret
  · rw [herr]
    refine iff_of_true rfl fun hman => ?_
    rw [(readManifestV1_eq_ok_iff hpm (by omega) _).mpr ⟨hman.1, hman.2, rfl⟩] at herr
    cases herr

/-- The status `st` of the image parser on the input `b`, for sizes in `z`. -/
structure ParseStatus (z : SizeT) (b : List UInt8) (st : Status) : Prop where
  ok_iff : st = .ok ↔ ∃ g : Image, b = g.bytes ∧ g.publicKey[0]? = some 0x04
  manifestFormat_iff : st = .manifestFormat ↔
    HeaderSound b ∧ ¬ ∃ g : Manifest, slice b 64 (u32At b 20).toNat = g.bytes
  overflow_iff : st = .overflow ↔ HeaderStart b ∧ SumTooLarge z b
  otherwise : st ≠ .ok → st ≠ .manifestFormat → st ≠ .overflow → st = .imageFormat

theorem readImage_eq_overflow_iff (hp : p.Points b) (hz : b.length ≤ z.max) :
    readImage z (some p) b.length = exit .overflow ↔ HeaderStart b ∧ SumTooLarge z b := by
  rw [readImage, bind_eq_exit_iff, readImageHeader_eq_overflow_iff hp hz]
  refine or_iff_left ?_
  rintro ⟨v, hok, herr⟩
  obtain ⟨hlen, -, -, rfl⟩ := (readImageHeader_eq_ok_iff hp hz v).mp hok
  have htotal : wp (readImageSections z (some p) (headerViewAt p b)) _ _ :=
    readImageSections_total hp hz (by simp only [headerViewAt]; omega) hlen.le rfl rfl rfl
  rw [herr, wp_exit] at htotal
  rcases htotal with h | h <;> cases h

theorem readImage_eq_manifestFormat_iff (hp : p.Points b) (hz : b.length ≤ z.max) :
    readImage z (some p) b.length = exit .manifestFormat ↔
      HeaderSound b ∧ ¬ ∃ g : Manifest, slice b 64 (u32At b 20).toNat = g.bytes := by
  have hsection := Manifest.exists_eq_bytes_iff (s := slice b 64 (u32At b 20).toNat)
    (R := fun _ => True)
  simp only [and_true, exists_prop] at hsection
  rw [readImage, bind_eq_exit_iff, hsection]
  constructor
  · rintro (herr | ⟨v, hok, herr⟩)
    · have htotal := readImageHeader_total hp hz
      rw [herr, wp_exit] at htotal
      rcases htotal with h | h <;> cases h
    · obtain ⟨hlen, hfits, hr, rfl⟩ := (readImageHeader_eq_ok_iff hp hz v).mp hok
      exact ⟨⟨hlen, hfits, hr⟩, (readImageSections_eq_manifestFormat_iff hp hz
        (by simp only [headerViewAt]; omega) hlen.le rfl rfl rfl).mp herr⟩
  · rintro ⟨h, hno⟩
    have hlen := h.length
    exact .inr ⟨_, (readImageHeader_eq_ok_iff hp hz _).mpr ⟨hlen, h.fits, h.ranges, rfl⟩,
      (readImageSections_eq_manifestFormat_iff hp hz (by simp only [headerViewAt]; omega) hlen.le
        rfl rfl rfl).mpr hno⟩

theorem parseImage_status (b : Buffer z) (prior : ImageView) :
    ∃ st out, parseImage b prior = .ok (st, out) ∧ (st ≠ .ok → out = some prior) ∧
      ParseStatus z b.bytes st := by
  have hok := readImage_eq_ok_iff b.points b.fits
  have hover := readImage_eq_overflow_iff b.points b.fits
  have hman := readImage_eq_manifestFormat_iff b.points b.fits
  rw [parseImage, call_rampartImageParse, Buffer.len]
  rcases wp_cases (readImage_total b.points b.fits) with ⟨v, hread, -⟩ | ⟨e, hread, he⟩
  · rw [hread] at hok hover hman ⊢
    obtain ⟨g, hb, htag, -⟩ := (hok v).mp rfl
    refine ⟨.ok, some v, rfl, fun h => absurd rfl h, iff_of_true rfl ⟨g, hb, htag⟩,
      iff_of_false (by decide) fun h => ?_, iff_of_false (by decide) fun h => ?_,
      fun h => absurd rfl h⟩
    · cases hman.mpr h
    · cases hover.mpr h
  · have hexit {st : Status} : e = st ↔ readImage z (some b.start) b.bytes.length = exit st := by
      rw [hread]
      exact ⟨fun h => h ▸ rfl, fun h => Stop.ret.inj (Except.error.inj h)⟩
    rw [hread]
    refine ⟨e, some prior, rfl, fun _ => rfl, ?_, hexit.trans hman, hexit.trans hover, ?_⟩
    · refine iff_of_false ?_ ?_
      · rcases he with rfl | rfl | rfl <;> decide
      · rintro ⟨g, hb, htag⟩
        have hread' := (hok _).mpr ⟨g, hb, htag, rfl⟩
        rw [hread] at hread'
        cases hread'
    · intro _ hman' hover'
      exact he.resolve_right fun h => h.elim hman' hover'

/-- On every input the parser returns without a fault. The status is OK for the images of the
format, `manifestFormat` exactly if the header is sound and the section behind it no manifest,
`overflow` exactly if a sum of header fields is too large, and `imageFormat` otherwise. Every
failure leaves the output as it was. -/
theorem rampartImageParse_status (b : Buffer z) (prior : ImageView) :
    ∃ st out, call (rampartImageParse z (some b.start) b.len) (some prior) = .ok (st, out) ∧
      (st ≠ .ok → out = some prior) ∧
      (st = .ok ↔ ∃ g : Image, b.bytes = g.bytes ∧ g.publicKey[0]? = some 0x04) ∧
      (st = .manifestFormat ↔ HeaderSound b.bytes ∧
        ¬ ∃ g : Manifest, slice b.bytes 64 (u32At b.bytes 20).toNat = g.bytes) ∧
      (st = .overflow ↔ HeaderStart b.bytes ∧ SumTooLarge z b.bytes) ∧
      (st ≠ .ok → st ≠ .manifestFormat → st ≠ .overflow → st = .imageFormat) := by
  obtain ⟨st, out, hcall, hout, h⟩ := parseImage_status b prior
  exact ⟨st, out, hcall, hout, h.ok_iff, h.manifestFormat_iff, h.overflow_iff, h.otherwise⟩

/-- Three sums of two 32-bit numbers do not leave a size type of more than 32 bits. -/
theorem not_sumTooLarge (hz : 2 ^ 33 ≤ z.max) : ¬ SumTooLarge z b := by
  have h20 := (u32At b 20).toNat_lt
  have h24 := (u32At b 24).toNat_lt
  have h28 := (u32At b 28).toNat_lt
  have h32 := (u32At b 32).toNat_lt
  have h36 := (u32At b 36).toNat_lt
  rintro (hsum | ⟨-, hsum⟩ | ⟨-, -, hsum⟩) <;> omega

theorem ParseStatus.eq_of_ne_overflow {z' : SizeT} {st st' : Status} (h : ParseStatus z b st)
    (h' : ParseStatus z' b st') (hst : st ≠ .overflow) (hst' : st' ≠ .overflow) : st = st' := by
  by_cases hok : st = .ok
  · rw [hok, h'.ok_iff.mpr (h.ok_iff.mp hok)]
  by_cases hman : st = .manifestFormat
  · rw [hman, h'.manifestFormat_iff.mpr (h.manifestFormat_iff.mp hman)]
  have hok' : st' ≠ .ok := fun h₀ => hok (h.ok_iff.mpr (h'.ok_iff.mp h₀))
  have hman' : st' ≠ .manifestFormat :=
    fun h₀ => hman (h.manifestFormat_iff.mpr (h'.manifestFormat_iff.mp h₀))
  rw [h.otherwise hok hman hst, h'.otherwise hok' hman' hst']

theorem ParseStatus.eq_imageFormat {z' : SizeT} {st st' : Status} (h : ParseStatus z b st)
    (h' : ParseStatus z' b st') (hst : st = .overflow) (hst' : st' ≠ .overflow) :
    st' = .imageFormat := by
  refine h'.otherwise (fun hok => ?_) (fun hman => ?_) hst'
  · rw [h.ok_iff.mpr (h'.ok_iff.mp hok)] at hst
    cases hst
  · rw [h.manifestFormat_iff.mpr (h'.manifestFormat_iff.mp hman)] at hst
    cases hst

/-- With sizes of 64 bits no sum overflows. With sizes of 32 bits the status is the same, except
that a sum above the range is an overflow there and a wrong offset here. -/
theorem rampartImageParse_status_width (bytes : List UInt8) (h : bytes.length < 2 ^ 32)
    (prior prior' : ImageView) : ∃ st out st' out',
      call (rampartImageParse .embedded (some ⟨bytes, 0⟩) bytes.length) (some prior) =
        .ok (st, out) ∧
      call (rampartImageParse .host (some ⟨bytes, 0⟩) bytes.length) (some prior') =
        .ok (st', out') ∧
      st' ≠ .overflow ∧ (st ≠ .overflow → st = st') ∧ (st = .overflow → st' = .imageFormat) ∧
      (st = .overflow ↔ HeaderStart bytes ∧ SumTooLarge .embedded bytes) := by
  have hwide : (2 : ℕ) ^ 33 ≤ SizeT.host.max := by decide
  obtain ⟨st, out, hcall, -, hst⟩ :=
    parseImage_status (⟨bytes, Nat.le_sub_one_of_lt h⟩ : Buffer .embedded) prior
  obtain ⟨st', out', hcall', -, hst'⟩ :=
    parseImage_status (⟨bytes, by omega⟩ : Buffer .host) prior'
  have hne : st' ≠ .overflow := fun hover =>
    not_sumTooLarge hwide (hst'.overflow_iff.mp hover).2
  exact ⟨st, out, st', out', hcall, hcall', hne, fun hover => hst.eq_of_ne_overflow hst' hover hne,
    fun hover => hst.eq_imageFormat hst' hover hne, hst.overflow_iff⟩

/-- A header that announces a payload of almost the whole range of sizes. -/
def oversizedHeader : List UInt8 := (headerTable 136 (2 ^ 32 - 1)).bytes

theorem oversizedHeader_layout :
    oversizedHeader.length = 64 ∧ HeaderLayout 136 (2 ^ 32 - 1) oversizedHeader := by
  obtain ⟨hlen, hholds⟩ := (Table.eq_bytes_iff (headerTable_contiguous 136 (2 ^ 32 - 1))).mp rfl
  rw [headerTable_size] at hlen
  exact ⟨hlen, (headerTable_holdsIn_iff hlen.ge).mp hholds⟩

theorem rampartImageParse_status_width_oversized : ∃ out st' out',
    call (rampartImageParse .embedded (some ⟨oversizedHeader, 0⟩) oversizedHeader.length)
      (some .zero) = .ok (.overflow, out) ∧
    call (rampartImageParse .host (some ⟨oversizedHeader, 0⟩) oversizedHeader.length)
      (some .zero) = .ok (st', out') ∧ st' = .imageFormat := by
  obtain ⟨hlen, hlayout⟩ := oversizedHeader_layout
  obtain ⟨st, out, st', out', hcall, hcall', -, -, himage, hover⟩ :=
    rampartImageParse_status_width oversizedHeader (by rw [hlen]; decide) .zero .zero
  have hst : st = .overflow := by
    refine hover.mpr ⟨headerStart_of_ranges hlayout.toHeaderRanges hlen.ge, .payload ?_ ?_⟩
    · rw [hlayout.payloadOffset, hlayout.manifestSize]
      decide
    · rw [hlayout.payloadOffset, hlayout.payloadSize]
      decide
  exact ⟨out, st', out', hst ▸ hcall, hcall', himage hst⟩

end RampartBoot.Core

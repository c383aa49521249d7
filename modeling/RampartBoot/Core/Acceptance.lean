import RampartBoot.Core.ImageParse
import RampartBoot.Format.ImageLaws

/-! # What a caller of the image parser can rely on

The parser accepts exactly the images of the format, shows their contents, answers torn
writes without touching the output and never reads outside the buffer.
-/

namespace RampartBoot.Core
open Foundation Format

variable {z : SizeT}

/-- The view shows the manifest `m`: its values directly, its byte fields through pointers. -/
structure ManifestView.Shows (v : ManifestView) (m : Manifest) : Prop where
  formatVersion : v.formatVersion = 1
  artifactId : entries v.artifactId v.artifactIdLen = some m.artifactId
  target : v.target = ⟨m.vendorId, m.productId, m.hardwareFamily, m.componentId⟩
  hardwareRevisionMin : v.hardwareRevisionMin = m.hardwareRevisionMin
  hardwareRevisionMax : v.hardwareRevisionMax = m.hardwareRevisionMax
  securityEpoch : v.securityEpoch = m.securityEpoch
  versionMajor : v.versionMajor = m.versionMajor
  versionMinor : v.versionMinor = m.versionMinor
  versionPatch : v.versionPatch = m.versionPatch
  digestAlgorithm : v.digestAlgorithm = m.digestAlgorithm
  payloadSize : v.payloadSize = m.payloadSize
  payloadDigest : entries v.payloadDigest v.payloadDigestLen = some m.payloadDigest.toList
  signatureAlgorithm : v.signatureAlgorithm = m.signatureAlgorithm
  requiredKeyRole : v.requiredKeyRole = m.requiredKeyRole
  signatureThreshold : v.signatureThreshold = m.signatureThreshold
  signatureCount : v.signatureCount = m.signatureCount
  keyId : entries v.keyId v.keyIdLen = some m.keyId.toList
  trialMaxAttempts : v.trialMaxAttempts = m.trialMaxAttempts
  trialProbationMs : v.trialProbationMs = m.trialProbationMs
  rollbackPolicy : v.rollbackPolicy = m.rollbackPolicy
  requirementCount : v.requirementCount = m.requirementCount
  dependencyCount : v.dependencyCount = m.dependencyCount
  healthRequiredCount : v.healthRequiredCount = m.healthRequiredCount

structure ImageView.Shows (v : ImageView) (b : List UInt8) (g : Image) : Prop where
  whole : entries v.bytes v.len = some b
  manifestSection : slice b v.manifestOffset v.manifestSize = g.manifest.bytes
  payload : slice b v.payloadOffset v.payloadSize = g.payload
  signatureSection : slice b v.signatureOffset v.signatureSize = g.signatureSection
  signedRegion : slice b v.signedRegionOffset v.signedRegionSize = g.signedRegion
  manifest : v.manifest.Shows g.manifest
  keyId : entries v.signature.keyId v.signature.keyIdLen = some g.manifest.keyId.toList
  signatureAlgorithm : v.signature.signatureAlgorithm = 1
  signature : entries v.signature.signature v.signature.signatureLen = some g.signature.toList
  publicKey : entries v.signature.publicKey v.signature.publicKeyLen = some g.publicKey.toList

theorem manifestViewAt_shows {p : Ptr UInt8} {m : Manifest} (hp : p.Points m.bytes) :
    (manifestViewAt p m.toManifestFields m.artifactId.length).Shows m := by
  obtain ⟨hf, -, ha, -⟩ := m.read_bytes_append []
  rw [List.append_nil] at hf ha
  have hlen := m.bytes_length
  have hid : 128 + m.artifactId.length ≤ m.bytes.length := by
    rw [hlen, Manifest.size, manifestSize]; omega
  have hdigest := hp.sub (i := 56) (n := 32) (by omega)
  rw [← vectorAt_toList (by omega)] at hdigest
  have hkey := points_keyId hp (by omega)
  have hname := hp.sub hid
  rw [ha] at hname
  constructor
  case artifactId => exact hname.entries_eq rfl
  case payloadDigest => rw [← hf]; exact hdigest.entries_eq Vector.length_toList
  case keyId => rw [← hf]; exact hkey.entries_eq Vector.length_toList
  all_goals rfl

theorem imageViewAt_shows {p : Ptr UInt8} {g : Image} (hp : p.Points g.bytes) :
    (imageViewAt p g).Shows g.bytes g := by
  have hlen := g.bytes_length
  have hoff : g.signatureOffset = 64 + g.manifest.size + g.payload.length := rfl
  have hman := hp.sub (i := 64) (n := g.manifest.size) (by omega)
  rw [g.slice_manifest] at hman
  have hsig := hp.sub (i := g.signatureOffset) (n := 192) (by omega)
  rw [g.slice_signatureSection] at hsig
  have hs := g.signatureSection_length
  obtain ⟨hlay, hsigned, hpub⟩ := g.signatureLayout
  have hkeyId := hsig.sub (i := 32) (n := 8) (by omega)
  rw [← vectorAt_toList (by omega), hlay.keyId] at hkeyId
  have hsignature := hsig.sub (i := 48) (n := 64) (by omega)
  rw [← vectorAt_toList (by omega), hsigned] at hsignature
  have hkey := hsig.sub (i := 112) (n := 65) (by omega)
  rw [← vectorAt_toList (by omega), hpub] at hkey
  constructor
  case whole => exact hp.entries_eq hlen
  case manifestSection => exact g.slice_manifest
  case payload => exact g.slice_payload
  case signatureSection => exact g.slice_signatureSection
  case signedRegion => exact g.slice_signedRegion
  case manifest => exact manifestViewAt_shows hman
  case keyId => exact hkeyId.entries_eq Vector.length_toList
  case signatureAlgorithm => rfl
  case signature => exact hsignature.entries_eq Vector.length_toList
  case publicKey => exact hkey.entries_eq Vector.length_toList

/-- `rampart_image_parse` called on a whole buffer, with `prior` in the output. -/
def parseImage (b : Buffer z) (prior : ImageView) : Except Fault (Status × Option ImageView) :=
  call (rampartImageParse z (some b.start) b.len) (some prior)

theorem parseImage_accept (b : Buffer z) (prior : ImageView) {g : Image} (hb : b.bytes = g.bytes)
    (htag : g.publicKey[0]? = some 0x04) :
    parseImage b prior = .ok (.ok, some (imageViewAt b.start g)) := by
  have hread := (readImage_eq_ok_iff b.points b.fits _).mpr ⟨g, hb, htag, rfl⟩
  rw [parseImage, call_rampartImageParse, Buffer.len, hread, published]

theorem parseImage_reject (b : Buffer z) (prior : ImageView)
    (h : ¬ ∃ g : Image, b.bytes = g.bytes ∧ g.publicKey[0]? = some 0x04) :
    ∃ st, (st = .imageFormat ∨ st = .manifestFormat ∨ st = .overflow) ∧
      parseImage b prior = .ok (st, some prior) := by
  rcases wp_cases (readImage_total b.points b.fits) with ⟨v, hok, -⟩ | ⟨e, herr, he⟩
  · obtain ⟨g, hb, htag, -⟩ := (readImage_eq_ok_iff b.points b.fits v).mp hok
    exact absurd ⟨g, hb, htag⟩ h
  · refine ⟨e, he, ?_⟩
    rw [parseImage, call_rampartImageParse, Buffer.len, herr, published]

theorem parseImage_eq_ok_iff (b : Buffer z) (prior : ImageView) (out : Option ImageView) :
    parseImage b prior = .ok (.ok, out) ↔
      ∃ g : Image, b.bytes = g.bytes ∧ g.publicKey[0]? = some 0x04 ∧
        out = some (imageViewAt b.start g) := by
  constructor
  · intro hok
    by_cases h : ∃ g : Image, b.bytes = g.bytes ∧ g.publicKey[0]? = some 0x04
    · obtain ⟨g, hb, htag⟩ := h
      rw [parseImage_accept b prior hb htag] at hok
      simp only [Except.ok.injEq, Prod.mk.injEq, true_and] at hok
      exact ⟨g, hb, htag, hok.symm⟩
    · obtain ⟨st, hst, hcall⟩ := parseImage_reject b prior h
      rw [hcall] at hok
      simp only [Except.ok.injEq, Prod.mk.injEq] at hok
      rcases hst with rfl | rfl | rfl <;> exact absurd hok.1 (by decide)
  · rintro ⟨g, hb, htag, rfl⟩
    exact parseImage_accept b prior hb htag

/-- The parser returns OK exactly for the images of the format, and then publishes the view
that shows the image: field values, offsets and lengths as the image has them. -/
theorem rampartImageParse_ok_iff_image (b : Buffer z) (prior : ImageView)
    (out : Option ImageView) :
    call (rampartImageParse z (some b.start) b.len) (some prior) = .ok (.ok, out) ↔
      ∃ g : Image, b.bytes = g.bytes ∧ g.publicKey[0]? = some 0x04 ∧
        out = some (imageViewAt b.start g) ∧ (imageViewAt b.start g).Shows b.bytes g := by
  rw [← parseImage, parseImage_eq_ok_iff]
  constructor
  · rintro ⟨g, hb, htag, rfl⟩
    have hp : b.start.Points g.bytes := hb ▸ b.points
    exact ⟨g, hb, htag, rfl, hb ▸ imageViewAt_shows hp⟩
  · rintro ⟨g, hb, htag, rfl, -⟩
    exact ⟨g, hb, htag, rfl⟩

def SpanWithin (containerLen offset spanLen : ℕ) : Prop :=
  offset ≤ containerLen ∧ spanLen ≤ containerLen - offset

/-- `region_within` of the image fuzzer, for the part of `b` of `baseLen` bytes from `base`. -/
def RegionWithin (b : List UInt8) (base baseLen : ℕ) (region : Option (Ptr UInt8))
    (regionLen : ℕ) : Prop :=
  ∃ q, region = some q ∧ q.obj = b ∧ base ≤ q.off ∧ SpanWithin baseLen (q.off - base) regionLen

/-- `image_view_is_bounded` of the image fuzzer -/
structure ImageView.Bounded (v : ImageView) (b : List UInt8) : Prop where
  bytes : v.bytes = some ⟨b, 0⟩
  len : v.len = b.length
  manifest : SpanWithin b.length v.manifestOffset v.manifestSize
  payload : SpanWithin b.length v.payloadOffset v.payloadSize
  signature : SpanWithin b.length v.signatureOffset v.signatureSize
  signedRegion : SpanWithin b.length v.signedRegionOffset v.signedRegionSize
  artifactId : RegionWithin b v.manifestOffset v.manifestSize
    v.manifest.artifactId v.manifest.artifactIdLen
  payloadDigest : RegionWithin b v.manifestOffset v.manifestSize
    v.manifest.payloadDigest v.manifest.payloadDigestLen
  manifestKeyId : RegionWithin b v.manifestOffset v.manifestSize
    v.manifest.keyId v.manifest.keyIdLen
  keyId : RegionWithin b v.signatureOffset v.signatureSize
    v.signature.keyId v.signature.keyIdLen
  signatureBytes : RegionWithin b v.signatureOffset v.signatureSize
    v.signature.signature v.signature.signatureLen
  publicKey : RegionWithin b v.signatureOffset v.signatureSize
    v.signature.publicKey v.signature.publicKeyLen

theorem regionWithin_of_le {b : List UInt8} {base baseLen off n : ℕ} (h : off + n ≤ baseLen) :
    RegionWithin b base baseLen (some ⟨b, 0 + base + off⟩) n :=
  ⟨_, rfl, rfl, by dsimp only; omega, by unfold SpanWithin; dsimp only; omega⟩

theorem imageViewAt_bounded (b : Buffer z) {g : Image} (hb : b.bytes = g.bytes) :
    (imageViewAt b.start g).Bounded b.bytes := by
  have hlen : b.bytes.length = 64 + g.manifest.size + g.payload.length + 192 := by
    rw [hb, g.bytes_length, Image.signatureOffset]
  have hid : 128 + g.manifest.artifactId.length ≤ g.manifest.size := by
    rw [Manifest.size, manifestSize]; omega
  have hsize := g.manifest.size_ge
  constructor
  case bytes => rfl
  case len => rw [hb, g.bytes_length]; rfl
  case manifest => exact ⟨by dsimp only [imageViewAt]; omega, by dsimp only [imageViewAt]; omega⟩
  case payload => exact ⟨by dsimp only [imageViewAt]; omega, by dsimp only [imageViewAt]; omega⟩
  case signature => exact ⟨by dsimp only [imageViewAt, Image.signatureOffset]; omega,
      by dsimp only [imageViewAt, Image.signatureOffset]; omega⟩
  case signedRegion =>
    exact ⟨by dsimp only [imageViewAt]; omega, by dsimp only [imageViewAt]; omega⟩
  case artifactId => exact regionWithin_of_le hid
  case payloadDigest => exact regionWithin_of_le (show 56 + 32 ≤ g.manifest.size by omega)
  case manifestKeyId => exact regionWithin_of_le (show 96 + 8 ≤ g.manifest.size by omega)
  case keyId => exact regionWithin_of_le (show 32 + 8 ≤ 192 by decide)
  case signatureBytes => exact regionWithin_of_le (show 48 + 64 ≤ 192 by decide)
  case publicKey => exact regionWithin_of_le (show 112 + 65 ≤ 192 by decide)

/-- Every run on a buffer ends with a status: no load outside the buffer, no null access, no
size below zero or above the size range. The status is never `bounds`, and an accepted view
keeps all its ranges and pointers inside their sections. -/
theorem rampartImageParse_stays_in_bounds (b : Buffer z) (prior : ImageView) :
    ∃ st out, call (rampartImageParse z (some b.start) b.len) (some prior) = .ok (st, out) ∧
      st ≠ .bounds ∧ (st = .ok → ∃ v, out = some v ∧ v.Bounded b.bytes) := by
  rw [← parseImage]
  by_cases h : ∃ g : Image, b.bytes = g.bytes ∧ g.publicKey[0]? = some 0x04
  · obtain ⟨g, hb, htag⟩ := h
    exact ⟨_, _, parseImage_accept b prior hb htag, by decide,
      fun _ => ⟨_, rfl, imageViewAt_bounded b hb⟩⟩
  · obtain ⟨st, hst, hcall⟩ := parseImage_reject b prior h
    refine ⟨st, _, hcall, ?_, ?_⟩
    · rcases hst with rfl | rfl | rfl <;> decide
    · rcases hst with rfl | rfl | rfl <;> exact fun hok => absurd hok (by decide)

/-- The arithmetic of a size type on the way to the view `v` is that of the natural numbers: both
casts keep the value, and no sum of offsets and sizes wraps. -/
structure ImageView.Exact (z : SizeT) (v : ImageView) : Prop where
  widened : ∀ x : UInt32, z.ofU32 x = x.toNat
  signedRegionOffset : (UInt32.ofNat v.signedRegionOffset).toNat = v.signedRegionOffset
  signedRegionSize : (UInt32.ofNat v.signedRegionSize).toNat = v.signedRegionSize
  manifestEnd : v.manifestOffset + v.manifestSize ≤ z.max
  payloadEnd : v.payloadOffset + v.payloadSize ≤ z.max
  signatureEnd : v.signatureOffset + v.signatureSize ≤ z.max
  signedRegionSum : v.manifestSize + v.payloadSize ≤ z.max
  artifactIdEnd : 128 + v.manifest.artifactIdLen + 3 ≤ z.max

theorem imageViewAt_exact (p : Ptr UInt8) {g : Image} (h : g.bytes.length ≤ z.max) :
    (imageViewAt p g).Exact z := by
  have hfits := g.fits
  have hmax := z.u32_le_max
  have hid := g.manifest.artifactId_le
  rw [g.bytes_length, Image.signatureOffset] at h
  constructor
  case widened => exact z.ofU32_eq
  case signedRegionOffset => rfl
  case signedRegionSize =>
    rw [UInt32.toNat_ofNat', Nat.mod_eq_of_lt]
    dsimp only [imageViewAt]
    omega
  case manifestEnd | payloadEnd | signatureEnd | signedRegionSum =>
    dsimp only [imageViewAt, Image.signatureOffset]
    omega
  case artifactIdEnd =>
    dsimp only [imageViewAt, manifestViewAt]
    omega

theorem parseImage_total (b : Buffer z) (prior : ImageView) :
    ∃ st out, parseImage b prior = .ok (st, out) := by
  by_cases h : ∃ g : Image, b.bytes = g.bytes ∧ g.publicKey[0]? = some 0x04
  · obtain ⟨g, hb, htag⟩ := h
    exact ⟨_, _, parseImage_accept b prior hb htag⟩
  · obtain ⟨st, -, hcall⟩ := parseImage_reject b prior h
    exact ⟨st, _, hcall⟩

/-- With sizes of 32 and of 64 bits the parser accepts the same byte strings, publishes the same
view and computes without wrapping; no run of either reaches a wrapping addition. -/
theorem rampartImageParse_width (bytes : List UInt8) (h : bytes.length < 2 ^ 32)
    (prior prior' : ImageView) :
    ((∃ v, call (rampartImageParse .embedded (some ⟨bytes, 0⟩) bytes.length) (some prior) =
        .ok (.ok, some v)) ↔
      ∃ w, call (rampartImageParse .host (some ⟨bytes, 0⟩) bytes.length) (some prior') =
        .ok (.ok, some w)) ∧
    (∀ v w, call (rampartImageParse .embedded (some ⟨bytes, 0⟩) bytes.length) (some prior) =
        .ok (.ok, some v) →
      call (rampartImageParse .host (some ⟨bytes, 0⟩) bytes.length) (some prior') =
        .ok (.ok, some w) →
      v = w ∧ v.Exact .embedded ∧ w.Exact .host) ∧
    (∃ st out, call (rampartImageParse .embedded (some ⟨bytes, 0⟩) bytes.length) (some prior) =
      .ok (st, out)) ∧
    ∃ st out, call (rampartImageParse .host (some ⟨bytes, 0⟩) bytes.length) (some prior') =
      .ok (st, out) := by
  have hwide : (2 : ℕ) ^ 32 ≤ SizeT.host.max := by decide
  let b : Buffer .embedded := ⟨bytes, Nat.le_sub_one_of_lt h⟩
  let c : Buffer .host := ⟨bytes, by omega⟩
  have hb := fun v => parseImage_eq_ok_iff b prior (some v)
  have hc := fun w => parseImage_eq_ok_iff c prior' (some w)
  simp only [Option.some.injEq] at hb hc
  refine ⟨⟨?_, ?_⟩, fun v w hv hw => ?_, parseImage_total b prior, parseImage_total c prior'⟩
  · rintro ⟨v, hv⟩
    exact ⟨v, (hc v).mpr ((hb v).mp hv)⟩
  · rintro ⟨w, hw⟩
    exact ⟨w, (hb w).mpr ((hc w).mp hw)⟩
  · obtain ⟨g, hg, -, rfl⟩ := (hb v).mp hv
    obtain ⟨g', hg', -, rfl⟩ := (hc w).mp hw
    obtain rfl := Image.bytes_inj (hg.symm.trans hg')
    have hbytes : bytes = g.bytes := hg
    have hlen : g.bytes.length < 2 ^ 32 := hbytes ▸ h
    exact ⟨rfl, imageViewAt_exact _ (Nat.le_sub_one_of_lt hlen), imageViewAt_exact _ (by omega)⟩

def Rejects (b : Buffer z) (prior : ImageView) : Prop :=
  ∃ st, st ≠ .ok ∧
    call (rampartImageParse z (some b.start) b.len) (some prior) = .ok (st, some prior)

theorem rejects_iff (b : Buffer z) (prior : ImageView) :
    Rejects b prior ↔ ¬ ∃ g : Image, b.bytes = g.bytes ∧ g.publicKey[0]? = some 0x04 := by
  constructor
  · rintro ⟨st, hst, hcall⟩ ⟨g, hb, htag⟩
    rw [← parseImage, parseImage_accept b prior hb htag] at hcall
    simp only [Except.ok.injEq, Prod.mk.injEq] at hcall
    exact hst hcall.1.symm
  · intro h
    obtain ⟨st, hst, hcall⟩ := parseImage_reject b prior h
    refine ⟨st, ?_, hcall⟩
    rcases hst with rfl | rfl | rfl <;> decide

/-- No proper prefix of an accepted image is accepted, no prefix filled up to the old length
with a non-zero byte, and no proper extension. -/
theorem rampartImageParse_rejects_torn (b : Buffer z) (before : ImageView)
    (out : Option ImageView)
    (haccept : call (rampartImageParse z (some b.start) b.len) (some before) = .ok (.ok, out))
    (c : Buffer z) (prior : ImageView) :
    (∀ k < b.bytes.length, c.bytes = b.bytes.take k → Rejects c prior) ∧
    (∀ k < b.bytes.length, ∀ x : UInt8, x ≠ 0 →
      c.bytes = b.bytes.take k ++ List.replicate (b.bytes.length - k) x → Rejects c prior) ∧
    ∀ t, t ≠ [] → c.bytes = b.bytes ++ t → Rejects c prior := by
  obtain ⟨g, hb, -, -⟩ := (parseImage_eq_ok_iff b before out).mp haccept
  simp only [rejects_iff, hb]
  refine ⟨fun k hk hc => ?_, fun k hk x hx hc => ?_, fun t ht hc => ?_⟩
  · rintro ⟨h, hh, -⟩
    exact Image.take_ne_bytes hk (hc ▸ hh)
  · rintro ⟨h, hh, -⟩
    exact Image.torn_ne_bytes hk hx (hc ▸ hh)
  · rintro ⟨h, hh, -⟩
    exact Image.append_ne_bytes ht (hc ▸ hh)

theorem goldenImage_length : goldenImage.bytes.length = 448 := by
  rw [Image.bytes_length]; rfl

def goldenBuffer : Buffer .host := ⟨goldenImage.bytes, by rw [goldenImage_length]; decide⟩

theorem goldenBuffer_length : goldenBuffer.bytes.length = 448 := goldenImage_length

theorem rampartImageParse_width_golden :
    ((∃ v, call (rampartImageParse .embedded (some ⟨goldenImage.bytes, 0⟩)
        goldenImage.bytes.length) (some .zero) = .ok (.ok, some v)) ↔
      ∃ w, call (rampartImageParse .host (some ⟨goldenImage.bytes, 0⟩)
        goldenImage.bytes.length) (some .zero) = .ok (.ok, some w)) :=
  (rampartImageParse_width goldenImage.bytes (by rw [goldenImage_length]; decide) .zero .zero).1

/-- The golden image after a write that stopped at byte 100 of erased flash. -/
def goldenTorn : Buffer .host where
  bytes := goldenBuffer.bytes.take 100 ++ List.replicate (goldenBuffer.bytes.length - 100) 0xFF
  fits := by
    rw [List.length_append, List.length_take, List.length_replicate, goldenBuffer_length]
    decide

theorem parseImage_golden (prior : ImageView) : parseImage goldenBuffer prior =
    .ok (.ok, some (imageViewAt goldenBuffer.start goldenImage)) :=
  parseImage_accept goldenBuffer prior rfl rfl

theorem rampartImageParse_rejects_torn_golden : Rejects goldenTorn .zero := by
  have hlen : 100 < goldenBuffer.bytes.length := by rw [goldenBuffer_length]; decide
  exact (rampartImageParse_rejects_torn goldenBuffer .zero _ (parseImage_golden .zero)
    goldenTorn .zero).2.1 100 hlen 0xFF (by decide) rfl

end RampartBoot.Core

import RampartBoot.Core.Acceptance

/-! # What the signed region binds

Only the manifest and the payload are signed, yet two accepted images with one signed region
differ at most in the signature and in the public key behind its first byte.
-/

namespace RampartBoot.Core
open Foundation Format

variable {z : SizeT}

/-- Both views place every section at the same offset, with the same size. -/
structure ImageView.SameSplit (v w : ImageView) : Prop where
  manifestOffset : v.manifestOffset = w.manifestOffset
  manifestSize : v.manifestSize = w.manifestSize
  payloadOffset : v.payloadOffset = w.payloadOffset
  payloadSize : v.payloadSize = w.payloadSize
  signatureOffset : v.signatureOffset = w.signatureOffset
  signatureSize : v.signatureSize = w.signatureSize
  signedRegionOffset : v.signedRegionOffset = w.signedRegionOffset
  signedRegionSize : v.signedRegionSize = w.signedRegionSize

/-- What two accepted images with one signed region have in common. -/
structure Bound (a b : List UInt8) (v w : ImageView) : Prop where
  length : a.length = b.length
  split : v.SameSplit w
  manifest : ∃ m : Manifest, v.manifest.Shows m ∧ w.manifest.Shows m
  payload : slice a v.payloadOffset v.payloadSize = slice b w.payloadOffset w.payloadSize
  bytes : ∀ i, ¬ Image.OpenByte v.signatureOffset i → a[i]? = b[i]?
  decision : ∀ target minimumSecurityEpoch,
    rampartManifestValidateBasic (some v.manifest) target minimumSecurityEpoch =
      rampartManifestValidateBasic (some w.manifest) target minimumSecurityEpoch

/-- The basic validation looks at the values and at whether there is a digest, not at where
the manifest stands. -/
theorem validateBasic_manifestViewAt (p q : Ptr UInt8) (f : ManifestFields) (m n : ℕ)
    (target : Option TargetId) (minimumSecurityEpoch : UInt32) :
    rampartManifestValidateBasic (some (manifestViewAt p f m)) target minimumSecurityEpoch =
      rampartManifestValidateBasic (some (manifestViewAt q f n)) target minimumSecurityEpoch := by
  cases target <;> rfl

theorem bound_of_eq {a b : Buffer z} {g h : Image} (ha : a.bytes = g.bytes)
    (hb : b.bytes = h.bytes) (hm : g.manifest = h.manifest) (hp : g.payload = h.payload)
    (htag : g.publicKey[0]? = h.publicKey[0]?) :
    Bound a.bytes b.bytes (imageViewAt a.start g) (imageViewAt b.start h) := by
  have hoff : g.signatureOffset = h.signatureOffset := by
    rw [Image.signatureOffset, Image.signatureOffset, hm, hp]
  have hga : a.start.Points g.bytes := ha ▸ a.points
  have hhb : b.start.Points h.bytes := hb ▸ b.points
  have hsa := imageViewAt_shows hga
  have hsb := imageViewAt_shows hhb
  constructor
  case length => rw [ha, hb, g.bytes_length, h.bytes_length, hoff]
  case split => constructor <;> simp only [imageViewAt, hm, hp, hoff]
  case manifest => exact ⟨g.manifest, hsa.manifest, hm ▸ hsb.manifest⟩
  case payload => rw [ha, hb, hsa.payload, hsb.payload, hp]
  case bytes =>
    rw [ha, hb]
    exact fun i hi => Image.getElem?_eq_of_not_openByte hm hp htag hi
  case decision =>
    intro target minimumSecurityEpoch
    change rampartManifestValidateBasic (some (manifestViewAt _ _ _)) _ _ =
      rampartManifestValidateBasic (some (manifestViewAt _ h.manifest.toManifestFields _)) _ _
    rw [hm]
    exact validateBasic_manifestViewAt _ _ _ _ _ _ _

/-- The signed bytes of an accepted image fix everything but the signature and the public key
behind its first byte. So a change of the image that stays outside the signed region and
outside these bytes is never accepted. -/
theorem rampartImageParse_signedRegion_binds (a : Buffer z) (before v : ImageView)
    (haccept : call (rampartImageParse z (some a.start) a.len) (some before) =
      .ok (.ok, some v)) :
    (∀ (b : Buffer z) (prior w : ImageView),
      call (rampartImageParse z (some b.start) b.len) (some prior) = .ok (.ok, some w) →
      slice a.bytes v.signedRegionOffset v.signedRegionSize =
        slice b.bytes w.signedRegionOffset w.signedRegionSize →
      Bound a.bytes b.bytes v w) ∧
    ∀ (c : Buffer z) (prior : ImageView), c.bytes.length = a.bytes.length → c.bytes ≠ a.bytes →
      (∀ i, c.bytes[i]? ≠ a.bytes[i]? →
        i < 64 ∨ v.signatureOffset ≤ i ∧ ¬ Image.OpenByte v.signatureOffset i) →
      Rejects c prior := by
  obtain ⟨g, hg, hgtag, hv⟩ := (parseImage_eq_ok_iff a before _).mp haccept
  obtain rfl := Option.some.inj hv
  have hga : a.start.Points g.bytes := hg ▸ a.points
  constructor
  · intro b prior w hb hregion
    obtain ⟨h, hh, hhtag, hw⟩ := (parseImage_eq_ok_iff b prior _).mp hb
    obtain rfl := Option.some.inj hw
    have hhb : b.start.Points h.bytes := hh ▸ b.points
    rw [hg, hh, (imageViewAt_shows hga).signedRegion, (imageViewAt_shows hhb).signedRegion]
      at hregion
    obtain ⟨hm, hp⟩ := Image.eq_of_signedRegion hregion
    exact bound_of_eq hg hh hm hp (hgtag.trans hhtag.symm)
  · intro c prior hlen hne hconfined
    rw [rejects_iff]
    rintro ⟨h, hh, hhtag⟩
    have hoff : (imageViewAt a.start g).signatureOffset = g.signatureOffset := rfl
    have hglen : a.bytes.length = g.signatureOffset + 192 := by rw [hg, g.bytes_length]
    rw [hoff] at hconfined
    -- the positions of the signed region keep their bytes, so they fix manifest and payload
    obtain ⟨hm, hp⟩ : g.manifest = h.manifest ∧ g.payload = h.payload := by
      refine Image.eq_of_signed_bytes (fun i hlow hhigh => ?_) (by rw [← hh]; omega)
      by_contra hdiff
      rw [← hg, ← hh] at hdiff
      rcases hconfined i (Ne.symm hdiff) with hi | ⟨hi, -⟩ <;> omega
    apply hne
    apply List.ext_getElem?
    intro i
    by_contra hdiff
    have hopen : Image.OpenByte g.signatureOffset i := by
      by_contra hopen
      have hsame := Image.getElem?_eq_of_not_openByte hm hp (hgtag.trans hhtag.symm) hopen
      rw [← hg, ← hh] at hsame
      exact hdiff hsame.symm
    rcases hconfined i hdiff with hi | ⟨-, hi⟩
    · have h64 : 64 ≤ g.signatureOffset := by rw [Image.signatureOffset]; omega
      unfold Image.OpenByte at hopen
      omega
    · exact hi hopen

def goldenResigned : Image := { goldenImage with signature := Vector.replicate 64 0 }

def goldenResignedBuffer : Buffer .host :=
  ⟨goldenResigned.bytes, by rw [Image.bytes_length]; decide⟩

theorem rampartImageParse_signedRegion_binds_golden :
    Bound goldenBuffer.bytes goldenResignedBuffer.bytes
      (imageViewAt goldenBuffer.start goldenImage)
      (imageViewAt goldenResignedBuffer.start goldenResigned) := by
  have hshows := imageViewAt_shows (g := goldenResigned) goldenResignedBuffer.points
  have hregion := (imageViewAt_shows goldenBuffer.points).signedRegion
  exact (rampartImageParse_signedRegion_binds goldenBuffer .zero _ (parseImage_golden .zero)).1
    goldenResignedBuffer .zero _ (parseImage_accept goldenResignedBuffer .zero rfl rfl)
    (hregion.trans hshows.signedRegion.symm)

end RampartBoot.Core

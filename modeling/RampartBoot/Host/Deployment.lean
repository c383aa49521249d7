import RampartBoot.Host.Lifecycle
import RampartBoot.Host.Prediction
import RampartBoot.Host.Provisioning
import RampartBoot.Platform.OpensslProvider

/-! # From the host to the device

The tool checks an image with the crates, the device over a provider. Where the crates and the
library behind the provider compute the same functions, both come to the same verdict, and what
the tool has signed passes every check of the device.
-/

namespace RampartBoot.Host
open Foundation Format RampartBoot.Core RampartBoot.Platform

structure Crates.Implements (c : Crates) (E : Ecdsa) : Prop where
  sha256 : ∀ m, c.sha256 m = E.sha256 m
  verify : ∀ (key : Vector UInt8 65) (signature : Vector UInt8 64) point s m,
    c.fromSec1Bytes key.toList = some point → c.signatureFromSlice signature.toList = some s →
    (c.verify point m s = true ↔ E.Accepts key.toList m signature.toList)

section Openssl
variable {κ : Type} {lib : Libcrypto κ} {E : Ecdsa} {view : κ → LibraryView E.Point} {cap : ℕ}

theorem Crates.Implements.signs_iff {c : Crates} (hi : c.Implements E) {g : Image}
    {point : c.VerifyingKey} {s : c.Signature}
    (hpoint : c.fromSec1Bytes g.publicKey.toList = some point)
    (hs : c.signatureFromSlice g.signature.toList = some s) :
    E.Signs g.publicKey.toList g.signedRegion g.signature.toList ↔
      c.verify point g.signedRegion s = true := by
  rw [hi.verify _ _ _ _ _ hpoint hs]
  exact ⟨fun h => h.2.2, fun h => ⟨Vector.length_toList, Vector.length_toList, h⟩⟩

/-- The policy of the device passes the view for what the document admits, and both requests to
the provider are answered as for an untouched image. -/
structure PassesOnDevice (provider : CryptoProvider κ) (document : ManifestDocument)
    (v : ImageView) (s : κ) : Prop where
  policy : ∀ (target : DeviceTarget) epoch,
    rampartManifestValidateBasic (some v.manifest) (some target.onDevice) epoch = .ok ↔
      document.Admits ⟨some target, epoch⟩
  digest : ∀ before, ∃ t d, call (hashPayload provider v) (s, some before) = .ok (.ok, t, some d) ∧
    entries v.manifest.payloadDigest v.manifest.payloadDigestLen = some d.toList
  signature : ∃ t, call (Core.verifySignature provider v) s = .ok (.ok, t)

section Artifact
variable {P ρ : Type} [DecidableEq P] {c : KeyCrates ρ} {hc : c.SigningLawful} {shell : Shell P}
  {args : ImageSignArgs P} {s t : Machine P ρ} {document : ManifestDocument} {key : c.SigningKey}
  {image : Image} {m : RampartManifest}

omit [DecidableEq P] in
theorem Admits.iff_fields {size : UInt32} {digest : Vector UInt8 32} {keyId : Vector UInt8 8}
    (hm : document.intoManifest size digest keyId = .ok m) (hg : m.Shows image.manifest)
    (target : DeviceTarget) (epoch : UInt32) : document.Admits ⟨some target, epoch⟩ ↔
      (image.manifest.vendorId = target.vendorId ∧ image.manifest.productId = target.productId ∧
        image.manifest.hardwareFamily = target.hardwareFamily ∧
        image.manifest.componentId = target.componentId) ∧
      epoch ≤ image.manifest.securityEpoch := by
  obtain ⟨hdescribes, -⟩ := describes_of_intoManifest hm
  simp only [ManifestDocument.Admits, Option.some.injEq, forall_eq', ← hg.fields,
    RampartManifest.fields, hdescribes.vendorId, hdescribes.productId, hdescribes.hardwareFamily,
    hdescribes.componentId, hdescribes.securityEpoch]

theorem SignedArtifact.policy (h : SignedArtifact c hc shell args s t document key image m)
    (p : Ptr UInt8) (target : DeviceTarget) (epoch : UInt32) :
    rampartManifestValidateBasic (some (imageViewAt p image).manifest) (some target.onDevice)
      epoch = .ok ↔ document.Admits ⟨some target, epoch⟩ := by
  have hv := image.manifest.valid
  have hsize : image.manifest.payloadSize ≠ 0 := by
    have hpos := List.length_pos_iff.mpr h.sources.nonempty
    rw [image.payload_length] at hpos
    rintro hzero
    rw [hzero] at hpos
    exact absurd hpos (by decide)
  rw [Admits.iff_fields h.manifest h.shown]
  refine (validateBasic_eq_ok_iff _ _ _ _ _).trans ?_
  exact ⟨fun ⟨_, _, htarget, hepoch, _⟩ => ⟨htarget, hepoch⟩,
    fun ⟨htarget, hepoch⟩ => ⟨hv.digestAlgorithm, hv.signatureAlgorithm, htarget, hepoch, hsize⟩⟩

theorem SignedArtifact.point (h : SignedArtifact c hc shell args s t document key image m) :
    c.fromSec1Bytes image.publicKey.toList = some (c.verifyingKey key) := by
  rw [h.publicKey, hc.publicKey_toList, hc.point_decode]

theorem SignedArtifact.signs (h : SignedArtifact c hc shell args s t document key image m)
    (hi : c.Implements E) :
    E.Signs image.publicKey.toList image.signedRegion image.signature.toList := by
  have hs : c.signatureFromSlice image.signature.toList =
      some (c.sign key image.signedRegion) := by
    rw [h.signature, hc.signature_decode]
  exact (hi.signs_iff h.point hs).mpr (hc.verify_sign _ _)

theorem SignedArtifact.passes (h : SignedArtifact c hc shell args s t document key image m)
    (hi : c.Implements E) (hl : lib.Lawful E view cap) {context : Option HostOpensslContext}
    (hr : lib.Reliable E view (context.bind HostOpensslContext.libraryContext)) {p : Ptr UInt8}
    (hp : p.Points image.bytes) (x : κ) :
    PassesOnDevice (rampartHostOpensslProvider lib context) document (imageViewAt p image) x where
  policy := h.policy p
  digest before := by
    obtain ⟨st, y, after, hcall, hreply, -⟩ := hashPayload_openssl hl context hp before x
    obtain rfl := hreply.complete hr rfl rfl rfl
    obtain ⟨-, -, -, rfl⟩ := hreply.ok rfl
    obtain ⟨-, hcompleted, -⟩ := describes_of_intoManifest h.manifest
    refine ⟨y, _, hcall, ?_⟩
    rw [(imageViewAt_shows hp).manifest.payloadDigest, ← h.shown.payloadDigest,
      hcompleted.payloadDigest, hi.sha256]
  signature := by
    obtain ⟨st, y, hcall, hreply, -⟩ := verifySignature_openssl hl context hp x
    obtain rfl := (hreply.complete hr).mpr ⟨rfl, h.signs hi⟩
    exact ⟨y, hcall⟩

end Artifact

/-- A store with one provisioned record answers the request of its image by its grant. -/
theorem authorize_provisioned {c : Crates} (hc : c.Sec1Lawful) {provider : CryptoProvider κ}
    (hp : provider.Computes fun m => some (c.sha256 m)) (p : Provision c) (prior : TrustResult)
    (x : κ) :
    ∃ st y out, call (rampartTrustAuthorize (some (provisionStore [p])) (some provider)
        (some (productionRequest p.image.manifest))) (x, some prior) = .ok (st, y, some out) ∧
      (st = .ok ↔ p.status = 1 ∧ p.roles &&& trustRole p.image.manifest.signatureRole ≠ 0 ∧
        p.image.manifest.signatureRole ≠ 6) := by
  have hvalid : (provisionStore [p]).Valid fun m => some (c.sha256 m) :=
    (provisionStore_valid_iff hc (by simp)).mpr ⟨by simp, by simp⟩
  obtain ⟨v, y, hcall, hv⟩ := call_validate (provisionStore [p]) hp x
  obtain rfl := hv.mpr hvalid
  obtain ⟨st, y, out, hauth, hd⟩ :=
    call_authorize hp (productionRequest p.image.manifest) hcall prior
  have hr : (provisionStore [p]).entries[0]? = some p.record := by
    rw [provisionStore_entries]
    rfl
  obtain ⟨-, hst, -⟩ := hd.known _ (productionRequest_wellFormed p) rfl 0 p.record hr rfl
  exact ⟨st, y, out, hauth, by rw [hst, keyDecision_production]⟩

end Openssl

/-- SHA-256 and P-256 as far as the sample is concerned: its key is the only one that decodes,
and every message has one signature. -/
def sampleEcdsa : Ecdsa where
  Point := Unit
  decode key := if key = sampleImage.publicKey.toList then some () else none
  order := goldenEcdsa.order
  order_lt := goldenEcdsa.order_lt
  sha256 := sampleCrates.sha256
  Verifies _ m r s := r = beValue ((sampleSignature m).toList.take 32) ∧
    s = beValue ((sampleSignature m).toList.drop 32)

instance (point : sampleEcdsa.Point) (m : List UInt8) (r s : ℕ) :
    Decidable (sampleEcdsa.Verifies point m r s) :=
  inferInstanceAs (Decidable (_ ∧ _))

instance : Nonempty sampleEcdsa.Point := ⟨()⟩

theorem sampleSignature_inRange (m : List UInt8) :
    sampleEcdsa.InRange (sampleSignature m).toList := by
  unfold sampleSignature
  split_ifs
  · exact ⟨by decide, by decide, by decide, by decide⟩
  · exact ⟨by decide, by decide, by decide, by decide⟩

theorem sampleCrates_implements : sampleCrates.Implements sampleEcdsa where
  sha256 _ := rfl
  verify key signature point s m hpoint hs := by
    change (if key.toList = sampleImage.publicKey.toList then some () else none) = some point
      at hpoint
    split_ifs at hpoint with hkey
    obtain rfl : signature = s := by
      have hvector : sampleCrates.signatureFromSlice signature.toList = some signature :=
        sampleCrates_signature_decode signature
      exact Option.some.inj (hvector.symm.trans hs)
    change (signature == sampleSignature m) = true ↔ _
    rw [beq_iff_eq, hkey]
    constructor
    · rintro rfl
      refine ⟨by decide, sampleSignature_inRange m, (), ?_, rfl, rfl⟩
      change (if sampleImage.publicKey.toList = sampleImage.publicKey.toList then some ()
        else none) = _
      exact if_pos rfl
    · rintro ⟨-, -, -, -, hr, hs⟩
      have hfront := beValue_inj (by simp) hr
      have hback := beValue_inj (by simp) hs
      refine Vector.toList_inj.mp ?_
      rw [← List.take_append_drop 32 signature.toList, hfront, hback, List.take_append_drop]

end RampartBoot.Host

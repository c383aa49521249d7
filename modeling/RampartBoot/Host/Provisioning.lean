import RampartBoot.Core.Independence
import RampartBoot.Host.RoundTrip

/-! # Trust stores made of host images

The host checks a key ID on the decoded point, the device on the bytes of the record. A store
whose records are taken from images that the host accepts passes the device's checks as they
are: only their number and a repeated key ID can make it invalid.
-/

namespace RampartBoot.Host
open Foundation Format RampartBoot.Core

variable {κ : Type} {c : Crates} {provider : CryptoProvider κ}

structure Grant where
  roles : UInt32
  status : UInt16
  keyEpoch : UInt32
  roles_ne : roles ≠ 0
  roles_known : roles &&& ~~~trustRolesAll = 0
  status_known : status = 1 ∨ status = 2 ∨ status = 3 ∨ status = 4

/-- An image that the host accepts, with the authority given to its key. -/
structure Provision (c : Crates) extends Grant where
  bytes : List UInt8
  image : ParsedImage
  accepted : parseImage c bytes = .ok image

/-- `provision_fixture_record`, with the fields as the host parser shows them. -/
def Provision.record (p : Provision c) : TrustRecord where
  roles := p.roles
  keyEpoch := p.keyEpoch
  algorithm := 1
  status := p.status
  keyId := p.image.manifest.keyId
  publicKey := p.image.signature.publicKey

def provisionStore (ps : List (Provision c)) : TrustStore where
  records := some ⟨ps.map Provision.record, 0⟩
  count := ps.length
  complete := by
    intro p hp _
    obtain rfl := Option.some.inj hp
    rw [Nat.zero_add, List.length_map]

def productionRequest (m : RampartManifest) : TrustRequest where
  keyId := some ⟨m.keyId.toList, 0⟩
  keyIdLen := 8
  requiredRole := m.signatureRole
  manifestRole := m.signatureRole
  lifecycle := 2
  readable := by
    intro p hp _
    obtain rfl := Option.some.inj hp
    rw [Nat.zero_add, Vector.length_toList]

theorem provisionStore_entries (ps : List (Provision c)) :
    (provisionStore ps).entries = ps.map Provision.record := by
  change slice (ps.map Provision.record) 0 ps.length = _
  rw [slice_zero, List.take_of_length_le (List.length_map _).le]

/-- The device derives the key ID from the encoded point, which is what the host derives it
from after decoding. -/
theorem Provision.record_sound (hc : c.Sec1Lawful) (p : Provision c) :
    p.record.Sound fun m => some (c.sha256 m) := by
  obtain ⟨g, -, hi, point, hpoint, hid⟩ := (parseImage_eq_ok_iff p.image).mp p.accepted
  have hkey : p.record.publicKey = g.publicKey := hi.signature.publicKey
  have hkeyId : p.record.keyId = g.manifest.keyId := hi.manifest.keyId
  have htag : p.record.publicKey[0] = 0x04 := by
    have htag := hc.tag _ _ hpoint
    rw [hkey]
    simpa using htag
  constructor
  · have hstatus : p.record.status = 1 ∨ p.record.status = 2 ∨ p.record.status = 3 ∨
        p.record.status = 4 := p.status_known
    simp only [validRecordShape, htag, Bool.and_eq_true, Bool.or_eq_true, beq_iff_eq, bne_iff_ne]
    exact ⟨⟨⟨⟨rfl, trivial⟩, p.roles_ne⟩, p.roles_known⟩, by rwa [or_assoc, or_assoc]⟩
  · refine ⟨_, rfl, ?_⟩
    rw [hkeyId, ← hid, hc.encode_decode _ _ hpoint, hkey]
    rfl

theorem provisionStore_valid_iff (hc : c.Sec1Lawful) {ps : List (Provision c)} (hne : ps ≠ []) :
    (provisionStore ps).Valid (fun m => some (c.sha256 m)) ↔
      ps.length ≤ 16 ∧ (ps.map fun p => p.image.manifest.keyId).Nodup := by
  have hsound : ∀ r ∈ (provisionStore ps).entries, r.Sound fun m => some (c.sha256 m) := by
    rw [provisionStore_entries]
    intro r hr
    obtain ⟨p, -, rfl⟩ := List.mem_map.mp hr
    exact p.record_sound hc
  have hcount : (provisionStore ps).count ≠ 0 := fun h => hne (List.length_eq_zero_iff.mp h)
  have hids : (provisionStore ps).entries.map TrustRecord.keyId =
      ps.map fun p => p.image.manifest.keyId := by
    rw [provisionStore_entries, List.map_map]
    rfl
  rw [valid_iff, hids]
  constructor
  · rintro ⟨-, -, hle, -, hnodup⟩
    exact ⟨hle, hnodup⟩
  · rintro ⟨hle, hnodup⟩
    exact ⟨⟨_, rfl⟩, hcount, hle, hsound, hnodup⟩

theorem productionRequest_wellFormed (p : Provision c) :
    (productionRequest p.image.manifest).WellFormed p.image.manifest.keyId := by
  obtain ⟨g, -, hi, -⟩ := (parseImage_eq_ok_iff p.image).mp p.accepted
  have hrole := g.manifest.valid.role
  rw [← hi.manifest.fields] at hrole
  refine ⟨?_, hrole, hrole, .inr rfl⟩
  change some (vectorAt p.image.manifest.keyId.toList 0 8) = _
  rw [vectorAt_toList_self]

/-- In production a record is authorized for its own role exactly if it is trusted, has the role
and the role is not the development role. -/
theorem keyDecision_production (p : Provision c) :
    keyDecision (productionRequest p.image.manifest) p.record = .ok ↔
      p.status = 1 ∧ p.roles &&& trustRole p.image.manifest.signatureRole ≠ 0 ∧
        p.image.manifest.signatureRole ≠ 6 := by
  have hstatus := p.status_known
  unfold keyDecision
  change (if p.status = 2 then _ else if p.status = 3 then _ else
    if (2 : UInt16) = 2 ∧ (p.status = 4 ∨ p.image.manifest.signatureRole = 6) then _ else
    if p.image.manifest.signatureRole ≠ p.image.manifest.signatureRole ∨
      p.roles &&& trustRole p.image.manifest.signatureRole = 0 then _ else _) = _ ↔ _
  rcases hstatus with h | h | h | h
  · by_cases hdev : p.image.manifest.signatureRole = 6
    · simp [h, hdev]
    · by_cases hbit : p.roles &&& trustRole p.image.manifest.signatureRole = 0
      · simp [h, hdev, hbit]
      · simp [h, hdev, hbit]
  all_goals simp [h]

/-- A store provisioned from images that the host accepts validates on the device exactly if it
is not too large and no key ID occurs twice. Then each image's own production request is
answered by its own record. -/
theorem provisionStore_authorizes (c : Crates) (hc : c.Sec1Lawful) (provider : CryptoProvider κ)
    (hp : provider.Computes fun m => some (c.sha256 m)) (ps : List (Provision c)) (hne : ps ≠ [])
    (ctx : κ) (prior : TrustResult) :
    ∃ v ctx₁, call (rampartTrustStoreValidate (some (provisionStore ps)) (some provider)) ctx =
        .ok (v, ctx₁) ∧
      (v = .ok ↔ ps.length ≤ 16 ∧ (ps.map fun p => p.image.manifest.keyId).Nodup) ∧
      (v = .ok → ∀ (i : ℕ) p, ps[i]? = some p → ∃ st ctx₂ out,
        call (rampartTrustAuthorize (some (provisionStore ps)) (some provider)
          (some (productionRequest p.image.manifest))) (ctx, some prior) =
            .ok (st, ctx₂, some out) ∧
        (st = .ok ↔ p.status = 1 ∧ p.roles &&& trustRole p.image.manifest.signatureRole ≠ 0 ∧
          p.image.manifest.signatureRole ≠ 6) ∧
        (st = .ok → out.record = (provisionStore ps).recordAt i)) := by
  obtain ⟨v, ctx₁, hcall, hv⟩ := call_validate (provisionStore ps) hp ctx
  refine ⟨v, ctx₁, hcall, hv.trans (provisionStore_valid_iff hc hne), ?_⟩
  rintro rfl i p hi
  obtain ⟨st, ctx₂, out, hauth, hd⟩ :=
    call_authorize hp (productionRequest p.image.manifest) hcall prior
  have hr : (provisionStore ps).entries[i]? = some p.record := by
    rw [provisionStore_entries, List.getElem?_map, hi]
    rfl
  obtain ⟨-, hst, hout⟩ := hd.known _ (productionRequest_wellFormed p) rfl i p.record hr rfl
  exact ⟨st, ctx₂, out, hauth, by rw [hst, keyDecision_production], hout⟩

/-- The crates on two images, that of the unit test and the golden one. A point is shown by its
encoding, and only the two public keys are points. -/
def pairCrates : Crates where
  SigningKey := Unit
  VerifyingKey := Vector UInt8 65
  Signature := Vector UInt8 64
  sha256 m := (goldenHash m).getD (sampleCrates.sha256 m)
  fromPkcs8Pem := sampleCrates.fromPkcs8Pem
  verifyingKey _ := sampleImage.publicKey
  sign _ message := sampleSignature message
  signatureToBytes s := s
  signatureFromSlice := sampleCrates.signatureFromSlice
  fromSec1Bytes k :=
    if k = sampleImage.publicKey.toList then some sampleImage.publicKey
    else if k = goldenImage.publicKey.toList then some goldenImage.publicKey
    else none
  toEncodedPoint point := point.toList
  verify _ message s := s == sampleSignature message

theorem pairCrates_decode {k v : Vector UInt8 65} (h : pairCrates.fromSec1Bytes k.toList = some v) :
    v = k ∧ (k = sampleImage.publicKey ∨ k = goldenImage.publicKey) := by
  change (if k.toList = sampleImage.publicKey.toList then some sampleImage.publicKey
    else if k.toList = goldenImage.publicKey.toList then some goldenImage.publicKey
    else none) = some v at h
  split_ifs at h with hsample hgolden
  · obtain rfl := Vector.toList_inj.mp hsample
    exact ⟨(Option.some.inj h).symm, .inl rfl⟩
  · obtain rfl := Vector.toList_inj.mp hgolden
    exact ⟨(Option.some.inj h).symm, .inr rfl⟩

theorem pairCrates_sec1Lawful : pairCrates.Sec1Lawful where
  tag k v h := by
    obtain ⟨-, rfl | rfl⟩ := pairCrates_decode h
    · decide
    · decide
  encode_decode k v h := congrArg Vector.toList (pairCrates_decode h).1

theorem pairCrates_sample : pairCrates.KeyIdMatches sampleImage.publicKey sampleManifest.keyId := by
  refine ⟨sampleImage.publicKey, ?_, by decide⟩
  simp only [pairCrates, if_true]

theorem pairCrates_golden : pairCrates.KeyIdMatches goldenImage.publicKey goldenManifest.keyId := by
  refine ⟨goldenImage.publicKey, ?_, by decide⟩
  simp only [pairCrates, if_true]
  rw [if_neg (by decide)]

def goldenHostManifest : RampartManifest :=
  manifestAt goldenManifest.toManifestFields "industrial-controller-main-2.4.0"

theorem goldenHostManifest_shows : goldenHostManifest.Shows goldenManifest where
  fields := fields_manifestAt goldenManifest.valid _
  artifactId := by decide

def sampleProvision : Provision pairCrates where
  roles := trustRole 1
  status := 1
  keyEpoch := 0
  roles_ne := by decide
  roles_known := by decide
  status_known := .inl rfl
  bytes := sampleImage.bytes
  image := parsedImageOf sampleImage sampleHostManifest
  accepted := parseImage_bytes (g := sampleImage) sampleHostManifest_shows pairCrates_sample

def revokedProvision : Provision pairCrates where
  roles := trustRole 1
  status := 2
  keyEpoch := 0
  roles_ne := by decide
  roles_known := by decide
  status_known := .inr (.inl rfl)
  bytes := goldenImage.bytes
  image := parsedImageOf goldenImage goldenHostManifest
  accepted := parseImage_bytes (g := goldenImage) goldenHostManifest_shows pairCrates_golden

/-- The store of both records validates. It authorizes the first image, and not the second. -/
theorem provisionStore_authorizes_sample : ∃ ctx₁ ctx₂ out st ctx₃ out',
    call (rampartTrustStoreValidate (some (provisionStore [sampleProvision, revokedProvision]))
      (some (hashProvider fun m => some (pairCrates.sha256 m)))) () = .ok (.ok, ctx₁) ∧
    call (rampartTrustAuthorize (some (provisionStore [sampleProvision, revokedProvision]))
      (some (hashProvider fun m => some (pairCrates.sha256 m)))
      (some (productionRequest sampleProvision.image.manifest))) ((), some ⟨none⟩) =
        .ok (.ok, ctx₂, some out) ∧
    out.record = (provisionStore [sampleProvision, revokedProvision]).recordAt 0 ∧
    call (rampartTrustAuthorize (some (provisionStore [sampleProvision, revokedProvision]))
      (some (hashProvider fun m => some (pairCrates.sha256 m)))
      (some (productionRequest revokedProvision.image.manifest))) ((), some ⟨none⟩) =
        .ok (st, ctx₃, some out') ∧ st ≠ .ok := by
  obtain ⟨v, ctx₁, hcall, hv, hauthorizes⟩ := provisionStore_authorizes pairCrates
    pairCrates_sec1Lawful (hashProvider fun m => some (pairCrates.sha256 m))
    (hashProvider_computes _) [sampleProvision, revokedProvision] (by simp) () ⟨none⟩
  obtain rfl := hv.mpr ⟨by decide, by decide⟩
  obtain ⟨st, ctx₂, out, hfirst, hok, hout⟩ := hauthorizes rfl 0 sampleProvision rfl
  obtain rfl := hok.mpr ⟨rfl, by decide, by decide⟩
  obtain ⟨st, ctx₃, out', hsecond, hok', -⟩ := hauthorizes rfl 1 revokedProvision rfl
  refine ⟨ctx₁, ctx₂, out, st, ctx₃, out', hcall, hfirst, hout rfl, hsecond, fun h => ?_⟩
  exact absurd (hok'.mp h).1 (by decide)

end RampartBoot.Host

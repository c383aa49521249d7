import RampartBoot.Format.Image
import RampartBoot.Host.Version

/-! # Manifests that the tool can produce

A manifest document passes the checks of `into_manifest`, a manifest section those of
`parse_manifest`. Every section that is accepted is what some document becomes, except where the
artifact ID has a NUL byte: only `into_manifest` looks for one.
-/

namespace RampartBoot.Host
open Foundation Format

variable {b : List UInt8} {m : RampartManifest} {g : Manifest}

/-- The bytes are a manifest section whose artifact ID is text with a NUL byte. -/
def NulNamed (b : List UInt8) : Prop :=
  ∃ g : Manifest, b = g.bytes ∧ (⟨g.artifactId.toArray⟩ : ByteArray).IsValidUTF8 ∧
    0 ∈ g.artifactId

def RampartManifest.document (m : RampartManifest) : ManifestDocument where
  artifactId := m.artifactId
  vendorId := m.vendorId
  productId := m.productId
  hardwareFamily := m.hardwareFamily
  hardwareRevisionMin := m.hardwareRevisionMin
  hardwareRevisionMax := m.hardwareRevisionMax
  componentId := m.componentId
  version := m.versionString
  securityEpoch := m.securityEpoch
  signatureRole := some (roleName m.signatureRole)
  rollbackPolicy := some (rollbackPolicyName m.rollbackPolicy)
  keyId := none
  trial := some ⟨m.trialMaxAttempts, m.trialProbationMs⟩

theorem parseRole_roleName {r : UInt16} (h : 1 ≤ r ∧ r ≤ 6) : parseRole (roleName r) = .ok r := by
  have hall : ∀ n < 7, 1 ≤ n → parseRole (roleName (UInt16.ofNat n)) = .ok (UInt16.ofNat n) := by
    decide
  have hlo : 1 ≤ r.toNat := UInt16.le_iff_toNat_le.mp h.1
  have hhi : r.toNat ≤ 6 := UInt16.le_iff_toNat_le.mp h.2
  have hr := hall r.toNat (by omega) hlo
  rwa [UInt16.ofNat_toNat] at hr

theorem parseRollbackPolicy_name {p : UInt16} (h : p = 0 ∨ p = 1) :
    parseRollbackPolicy (rollbackPolicyName p) = .ok p := by
  rcases h with rfl | rfl <;> rfl

/-- No document becomes a manifest with a NUL byte in its artifact ID. -/
theorem not_mem_zero_of_intoManifest {document : ManifestDocument} {size : UInt32}
    {digest : Vector UInt8 32} {keyId : Vector UInt8 8}
    (h : document.intoManifest size digest keyId = .ok m) : 0 ∉ asBytes m.artifactId := by
  obtain ⟨hdescribes, -⟩ := describes_of_intoManifest h
  unfold ManifestDocument.intoManifest at h
  simp only [bind_eq_ok_iff, rejectIf_eq_ok_iff] at h
  obtain ⟨_, -, _, -, _, hnul, -⟩ := h
  rw [hdescribes.artifactId]
  simpa using hnul

/-- The document of a manifest of the format becomes that manifest. -/
theorem intoManifest_document (h : m.Shows g) (hnul : 0 ∉ g.artifactId) :
    m.document.intoManifest m.payloadSize m.payloadDigest m.keyId = .ok m := by
  have hpos := g.artifactId_pos
  have hle := g.artifactId_le
  have hvalid : m.fields.Valid := h.fields ▸ g.valid
  rw [← h.artifactId] at hpos hle hnul
  have hne : ¬ (asBytes m.artifactId).isEmpty = true := by
    rw [List.isEmpty_iff]
    exact List.ne_nil_of_length_pos hpos
  unfold ManifestDocument.intoManifest
  simp only [bind_eq_ok_iff, rejectIf_eq_ok_iff, pure_eq_ok_iff, exists_const]
  refine ⟨hne, Nat.not_lt.mpr hle, by simpa [RampartManifest.document] using hnul,
    UInt32.not_lt.mpr hvalid.revisions, _, parseSemverCore_printed _ _ _, _,
    parseRole_roleName hvalid.role, _, parseRollbackPolicy_name hvalid.rollback, ?_⟩
  have hthreshold : m.signatureThreshold = 1 := hvalid.threshold
  have hcount : m.signatureCount = 1 := hvalid.count
  have hrequirements : m.requirementCount = 0 := hvalid.requirements
  have hdependencies : m.dependencyCount = 0 := hvalid.dependencies
  have hhealth : m.healthRequiredCount = 0 := hvalid.health
  cases m
  cases hthreshold
  cases hcount
  cases hrequirements
  cases hdependencies
  cases hhealth
  rfl

/-- What the parser lets through on `b` is what some document becomes. -/
def Producible (b : List UInt8) : Prop :=
  ∀ m, parseManifest b = .ok m → ∃ (document : ManifestDocument) (size : UInt32)
    (digest : Vector UInt8 32) (keyId : Vector UInt8 8),
    document.intoManifest size digest keyId = .ok m ∧ encodeManifest m = .ok b

theorem not_producible_of_nulNamed (h : NulNamed b) : ¬ Producible b := by
  obtain ⟨g, rfl, htext, hnul⟩ := h
  obtain ⟨m, hm⟩ := exists_manifest_shows htext
  intro hproducible
  obtain ⟨_, _, _, _, hinto, -⟩ := hproducible m (parseManifest_eq_ok_iff.mpr ⟨g, rfl, hm⟩)
  have hno := not_mem_zero_of_intoManifest hinto
  rw [hm.artifactId] at hno
  exact hno hnul

/-- The parser accepts what the tool can produce, and beyond that only artifact IDs with NUL
bytes. -/
theorem producible_iff (b : List UInt8) : Producible b ↔ ¬ NulNamed b := by
  refine ⟨fun h hnul => not_producible_of_nulNamed hnul h, fun hnul m hparse => ?_⟩
  obtain ⟨g, rfl, hm⟩ := parseManifest_eq_ok_iff.mp hparse
  have htext : (⟨g.artifactId.toArray⟩ : ByteArray).IsValidUTF8 := by
    rw [← hm.artifactId]
    exact m.artifactId.isValidUTF8
  refine ⟨m.document, m.payloadSize, m.payloadDigest, m.keyId,
    intoManifest_document hm fun hzero => hnul ⟨g, rfl, htext, hzero⟩, encodeManifest_of_shows hm⟩

def nulManifest : Manifest where
  toManifestFields := goldenManifest.toManifestFields
  artifactId := [0]
  valid := goldenManifest.valid
  artifactId_pos := by decide
  artifactId_le := by decide

theorem not_producible_nulManifest : ¬ Producible nulManifest.bytes :=
  not_producible_of_nulNamed
    ⟨nulManifest, rfl, (String.singleton (Char.ofNat 0)).isValidUTF8, List.mem_singleton_self 0⟩

end RampartBoot.Host

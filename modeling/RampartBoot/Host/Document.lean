import RampartBoot.Host.ManifestCodec
import RampartBoot.Host.Text

/-! # Manifest documents -/

namespace RampartBoot.Host
open Foundation Format

structure TrialDocument where
  maxAttempts : UInt16
  probationPeriodMs : UInt32
  deriving DecidableEq, Repr

structure ManifestDocument where
  artifactId : String
  vendorId : UInt32
  productId : UInt32
  hardwareFamily : UInt32
  hardwareRevisionMin : UInt32
  hardwareRevisionMax : UInt32
  componentId : UInt32
  version : String
  securityEpoch : UInt32
  signatureRole : Option String
  rollbackPolicy : Option String
  keyId : Option String
  trial : Option TrialDocument
  deriving DecidableEq, Repr

def parseSemverPart (part : Option (List Char)) (label : String) : Res UInt16 := do
  let value ← okOr part ("version is missing " ++ label ++ " component")
  rejectIf value.isEmpty ("version " ++ label ++ " component is empty")
  okOr (parseU16 value) ("version " ++ label ++ " component must fit in u16")

def parseSemverCore (version : String) : Res (UInt16 × UInt16 × UInt16) := do
  let parts := version.toList.splitOn '.'
  let major ← parseSemverPart parts[0]? "major"
  let minor ← parseSemverPart parts[1]? "minor"
  let patch ← parseSemverPart parts[2]? "patch"
  rejectIf parts[3]?.isSome "version must use major.minor.patch form"
  pure (major, minor, patch)

def parseRole (role : String) : Res UInt16 :=
  match role with
  | "RELEASE" => pure 1
  | "SECURITY" => pure 2
  | "BOOT_MANAGER" => pure 3
  | "RECOVERY" => pure 4
  | "FACTORY" => pure 5
  | "DEVELOPMENT" => pure 6
  | _ => exit ("unknown signature role " ++ role)

def roleName (role : UInt16) : String :=
  match role with
  | 1 => "RELEASE"
  | 2 => "SECURITY"
  | 3 => "BOOT_MANAGER"
  | 4 => "RECOVERY"
  | 5 => "FACTORY"
  | 6 => "DEVELOPMENT"
  | _ => "UNKNOWN"

def parseRollbackPolicy (policy : String) : Res UInt16 :=
  match policy with
  | "none" => pure 0
  | "fallback" => pure 1
  | _ => exit ("unknown rollback policy " ++ policy)

def rollbackPolicyName (policy : UInt16) : String :=
  match policy with
  | 0 => "none"
  | 1 => "fallback"
  | _ => "unknown"

def ManifestDocument.intoManifest (document : ManifestDocument) (payloadSize : UInt32)
    (payloadDigest : Vector UInt8 32) (keyId : Vector UInt8 8) : Res RampartManifest := do
  rejectIf (asBytes document.artifactId).isEmpty "artifact_id must not be empty"
  rejectIf ((asBytes document.artifactId).length > 128) "artifact_id must be at most 128 bytes"
  rejectIf ((asBytes document.artifactId).contains 0) "artifact_id must not contain NUL bytes"
  rejectIf (document.hardwareRevisionMin > document.hardwareRevisionMax)
    "hardware_revision_min must be <= hardware_revision_max"
  let (versionMajor, versionMinor, versionPatch) ← parseSemverCore document.version
  let signatureRole ← parseRole (document.signatureRole.getD "RELEASE")
  let rollbackPolicy ← parseRollbackPolicy (document.rollbackPolicy.getD "fallback")
  let trial := document.trial.getD ⟨0, 0⟩
  pure {
    artifactId := document.artifactId
    vendorId := document.vendorId
    productId := document.productId
    hardwareFamily := document.hardwareFamily
    hardwareRevisionMin := document.hardwareRevisionMin
    hardwareRevisionMax := document.hardwareRevisionMax
    componentId := document.componentId
    securityEpoch := document.securityEpoch
    versionMajor := versionMajor
    versionMinor := versionMinor
    versionPatch := versionPatch
    payloadSize := payloadSize
    payloadDigest := payloadDigest
    signatureRole := signatureRole
    signatureThreshold := 1
    signatureCount := 1
    keyId := keyId
    trialMaxAttempts := trial.maxAttempts
    trialProbationMs := trial.probationPeriodMs
    rollbackPolicy := rollbackPolicy
    requirementCount := 0
    dependencyCount := 0
    healthRequiredCount := 0 }

def parseKeyIdHex (encoded : String) : Res (Vector UInt8 8) := do
  let value := ((stripLeading ['0', 'x'] encoded.toList).or
    (stripLeading ['0', 'X'] encoded.toList)).getD encoded.toList
  rejectIf (byteLen value ≠ 8 * 2) "key ID must contain 16 hexadecimal characters"
  forFrom (fun index keyId => do
    let start := index * 2
    let stop := start + 2
    let byte ← okOr (u8FromStrRadix (← strSlice value start stop) 16)
      "key ID contains non-hexadecimal characters"
    pure (keyId.setIfInBounds index byte)) 0 8 (.replicate 8 0)

variable {document : ManifestDocument} {m : RampartManifest} {size : UInt32}
  {digest : Vector UInt8 32} {keyId : Vector UInt8 8}

/-- The manifest has the values of the document, and the defaults where the document is silent. -/
structure ManifestDocument.Describes (document : ManifestDocument) (m : RampartManifest) :
    Prop where
  artifactId : m.artifactId = document.artifactId
  vendorId : m.vendorId = document.vendorId
  productId : m.productId = document.productId
  hardwareFamily : m.hardwareFamily = document.hardwareFamily
  hardwareRevisionMin : m.hardwareRevisionMin = document.hardwareRevisionMin
  hardwareRevisionMax : m.hardwareRevisionMax = document.hardwareRevisionMax
  componentId : m.componentId = document.componentId
  version : ∃ major minor patch, document.version.toList.splitOn '.' = [major, minor, patch] ∧
    parseU16 major = some m.versionMajor ∧ parseU16 minor = some m.versionMinor ∧
    parseU16 patch = some m.versionPatch
  securityEpoch : m.securityEpoch = document.securityEpoch
  signatureRole : roleName m.signatureRole = document.signatureRole.getD "RELEASE"
  rollbackPolicy : rollbackPolicyName m.rollbackPolicy = document.rollbackPolicy.getD "fallback"
  trialMaxAttempts : m.trialMaxAttempts = (document.trial.map (·.maxAttempts)).getD 0
  trialProbationMs : m.trialProbationMs = (document.trial.map (·.probationPeriodMs)).getD 0

structure RampartManifest.Completed (m : RampartManifest) (size : UInt32)
    (digest : Vector UInt8 32) (keyId : Vector UInt8 8) : Prop where
  payloadSize : m.payloadSize = size
  payloadDigest : m.payloadDigest = digest
  keyId : m.keyId = keyId
  signatureThreshold : m.signatureThreshold = 1
  signatureCount : m.signatureCount = 1
  requirementCount : m.requirementCount = 0
  dependencyCount : m.dependencyCount = 0
  healthRequiredCount : m.healthRequiredCount = 0

theorem okOr_eq_ok_iff {α : Type} {x : Option α} {e : String} {a : α} :
    okOr x e = .ok a ↔ x = some a := by
  cases x with
  | none => simp [okOr, exit]
  | some b => simp [okOr_some]

theorem parseSemverPart_eq_ok_iff {part : Option (List Char)} {label : String} {v : UInt16} :
    parseSemverPart part label = .ok v ↔ ∃ value, part = some value ∧ parseU16 value = some v := by
  unfold parseSemverPart
  simp only [okOr_bind_eq_ok, rejectIf_bind_eq_ok, okOr_eq_ok_iff]
  refine exists_congr fun value => and_congr_right fun _ => and_iff_right_of_imp fun hv => ?_
  rintro hempty
  obtain rfl := List.isEmpty_iff.mp hempty
  cases hv

private theorem three_parts_iff {α : Type} {parts : List α} {a b c : α} :
    (parts[0]? = some a ∧ parts[1]? = some b ∧ parts[2]? = some c ∧ parts[3]? = none) ↔
      parts = [a, b, c] := by
  constructor
  · rintro ⟨h₀, h₁, h₂, h₃⟩
    match parts with
    | [] => simp at h₀
    | [_] => simp at h₁
    | [_, _] => simp at h₂
    | [_, _, _] => simp_all
    | _ :: _ :: _ :: _ :: _ => simp at h₃
  · rintro rfl
    exact ⟨rfl, rfl, rfl, rfl⟩

theorem parseSemverCore_eq_ok_iff {version : String} {a b c : UInt16} :
    parseSemverCore version = .ok (a, b, c) ↔ ∃ major minor patch,
      version.toList.splitOn '.' = [major, minor, patch] ∧
      parseU16 major = some a ∧ parseU16 minor = some b ∧ parseU16 patch = some c := by
  unfold parseSemverCore
  dsimp only
  simp only [bind_eq_ok_iff, parseSemverPart_eq_ok_iff, rejectIf_eq_ok_iff, pure_eq_ok_iff,
    Prod.mk.injEq, Bool.not_eq_true, Option.isSome_eq_false_iff, Option.isNone_iff_eq_none,
    exists_const]
  constructor
  · rintro ⟨_, ⟨major, h₀, ha⟩, _, ⟨minor, h₁, hb⟩, _, ⟨patch, h₂, hc⟩, h₃, rfl, rfl, rfl⟩
    exact ⟨major, minor, patch, three_parts_iff.mp ⟨h₀, h₁, h₂, h₃⟩, ha, hb, hc⟩
  · rintro ⟨major, minor, patch, hparts, ha, hb, hc⟩
    obtain ⟨h₀, h₁, h₂, h₃⟩ := three_parts_iff.mpr hparts
    exact ⟨a, ⟨major, h₀, ha⟩, b, ⟨minor, h₁, hb⟩, c, ⟨patch, h₂, hc⟩, h₃, rfl, rfl, rfl⟩

theorem parseRole_eq_ok {role : String} {r : UInt16} (h : parseRole role = .ok r) :
    roleName r = role ∧ 1 ≤ r ∧ r ≤ 6 := by
  unfold parseRole at h
  split at h <;> cases h
  all_goals exact ⟨rfl, by decide, by decide⟩

theorem parseRollbackPolicy_eq_ok {policy : String} {p : UInt16}
    (h : parseRollbackPolicy policy = .ok p) :
    rollbackPolicyName p = policy ∧ (p = 0 ∨ p = 1) := by
  unfold parseRollbackPolicy at h
  split at h <;> cases h
  all_goals exact ⟨rfl, by decide⟩

theorem describes_of_intoManifest (h : document.intoManifest size digest keyId = .ok m) :
    document.Describes m ∧ m.Completed size digest keyId ∧
      1 ≤ (asBytes m.artifactId).length ∧ (asBytes m.artifactId).length ≤ 128 ∧ m.fields.Valid := by
  unfold ManifestDocument.intoManifest at h
  simp only [bind_eq_ok_iff, rejectIf_eq_ok_iff, pure_eq_ok_iff, Prod.exists, List.isEmpty_iff,
    gt_iff_lt, not_lt, UInt32.not_lt, exists_const] at h
  obtain ⟨hne, hle, -, hrev, a, b, c, hversion, r, hrole, p, hpolicy, rfl⟩ := h
  obtain ⟨hname, hknown⟩ := parseRole_eq_ok hrole
  obtain ⟨hpname, hpknown⟩ := parseRollbackPolicy_eq_ok hpolicy
  refine ⟨?_, by constructor <;> rfl, List.length_pos_iff.mpr hne, hle,
    ⟨hrev, rfl, rfl, hknown, rfl, rfl, hpknown, rfl, rfl, rfl⟩⟩
  constructor
  case version => exact parseSemverCore_eq_ok_iff.mp hversion
  case signatureRole => exact hname
  case rollbackPolicy => exact hpname
  case trialMaxAttempts | trialProbationMs => cases document.trial <;> rfl
  all_goals rfl

/-- Whether a document is accepted does not depend on payload and key. -/
theorem intoManifest_of_eq_ok (h : document.intoManifest size digest keyId = .ok m)
    (size' : UInt32) (digest' : Vector UInt8 32) (keyId' : Vector UInt8 8) :
    document.intoManifest size' digest' keyId' =
      .ok { m with payloadSize := size', payloadDigest := digest', keyId := keyId' } := by
  unfold ManifestDocument.intoManifest at h ⊢
  simp only [bind_eq_ok_iff, rejectIf_eq_ok_iff, pure_eq_ok_iff, exists_const] at h ⊢
  obtain ⟨hne, hle, hnul, hrev, version, hversion, r, hrole, p, hpolicy, rfl⟩ := h
  exact ⟨hne, hle, hnul, hrev, version, hversion, r, hrole, p, hpolicy, rfl⟩

/-- The values of an accepted document are those of a manifest of the format. -/
theorem exists_shows_of_intoManifest (h : document.intoManifest size digest keyId = .ok m) :
    ∃ g : Manifest, m.Shows g := by
  obtain ⟨-, -, hpos, hle, hv⟩ := describes_of_intoManifest h
  exact ⟨⟨m.fields, asBytes m.artifactId, hv, hpos, hle⟩, rfl, rfl⟩

/-- Encoding a manifest made of a document and parsing it gives the manifest back, and encoding
a parsed manifest gives the bytes back. So no two byte strings parse to one manifest. -/
theorem manifestCodec_bijective :
    (∀ (document : ManifestDocument) (size : UInt32) (digest : Vector UInt8 32)
      (keyId : Vector UInt8 8) (m : RampartManifest),
      document.intoManifest size digest keyId = .ok m → ∃ b, encodeManifest m = .ok b ∧
        IsLeast {n | 4 ∣ n ∧ 128 + (asBytes m.artifactId).length ≤ n} b.length ∧
        parseManifest b = .ok m) ∧
    (∀ b m, parseManifest b = .ok m → encodeManifest m = .ok b) ∧
    ∀ b c m, parseManifest b = .ok m → parseManifest c = .ok m → b = c := by
  have hencode : ∀ b m, parseManifest b = .ok m → encodeManifest m = .ok b := by
    intro b m hb
    obtain ⟨g, rfl, hg⟩ := parseManifest_eq_ok_iff.mp hb
    exact encodeManifest_of_shows hg
  refine ⟨fun document size digest keyId m hm => ?_, hencode, fun b c m hb hc => ?_⟩
  · obtain ⟨g, hg⟩ := exists_shows_of_intoManifest hm
    refine ⟨g.bytes, encodeManifest_of_shows hg, ?_, parseManifest_eq_ok_iff.mpr ⟨g, rfl, hg⟩⟩
    rw [hg.artifactId, g.bytes_length]
    exact g.isLeast_size
  · exact Except.ok.inj ((hencode b m hb).symm.trans (hencode c m hc))

def sampleDocument : ManifestDocument where
  artifactId := "industrial-controller-main-2.4.0"
  vendorId := 1380011344
  productId := 1
  hardwareFamily := 1413
  hardwareRevisionMin := 1
  hardwareRevisionMax := 3
  componentId := 16
  version := "2.4.0"
  securityEpoch := 12
  signatureRole := some "RELEASE"
  rollbackPolicy := some "fallback"
  keyId := none
  trial := some ⟨3, 30000⟩

theorem manifestCodec_bijective_sample : ∃ m,
    sampleDocument.intoManifest 22 (.replicate 32 0xA5) (.replicate 8 0x5A) = .ok m ∧
    ∃ b, encodeManifest m = .ok b ∧
      IsLeast {n | 4 ∣ n ∧ 128 + (asBytes m.artifactId).length ≤ n} b.length ∧
      parseManifest b = .ok m :=
  ⟨_, rfl, manifestCodec_bijective.1 sampleDocument 22 _ _ _ rfl⟩

end RampartBoot.Host

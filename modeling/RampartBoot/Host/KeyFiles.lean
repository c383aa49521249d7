import RampartBoot.Foundation.Footprint
import RampartBoot.Host.KeyIdText
import RampartBoot.Host.Sign

/-! # Key files

The `key` commands generate a private key, show it and export its public half. Private keys come
from a source of entropy, and both halves are stored as PEM texts at paths where no file was.
-/

namespace RampartBoot.Host
open Foundation

/-- The functions of `p256` and `rand_core` that only the `key` commands call; the source of
entropy is of type `ρ`. -/
structure KeyCrates (ρ : Type) extends Crates where
  /-- `SigningKey::random(&mut OsRng)` -/
  random : ρ → SigningKey × ρ
  /-- `SigningKey::to_pkcs8_pem(LineEnding::LF)` -/
  toPkcs8Pem : SigningKey → Except String String
  /-- `VerifyingKey::to_public_key_pem(LineEnding::LF)` -/
  toPublicKeyPem : VerifyingKey → Except String String

/-- What a process of the tool has besides the files: entropy and its two streams of text. -/
structure Process (ρ : Type) where
  entropy : ρ
  stdout : String
  stderr : String

variable {P ρ : Type}

abbrev Machine (P ρ : Type) := FileSystem P × Process ρ

def generatePrivateKey [DecidableEq P] (c : KeyCrates ρ) (os : Os P) (path : P) :
    Prog (Machine P ρ) String String := do
  let s ← get
  rejectIf (s.1 path).isSome ("refusing to overwrite existing key " ++ os.display path)
  let (signingKey, entropy) := c.random s.2.entropy
  set (s.1, { s.2 with entropy := entropy })
  let keyId ← deriveKeyId (ε := String) c.toCrates (c.verifyingKey signingKey)
  let pem ← mapErr (c.toPkcs8Pem signingKey) fun error => "failed to encode PKCS#8 key: " ++ error
  onFst (writeFile os "failed to write key " path (asBytes pem))
  pure (keyIdHex keyId)

def inspectPrivateKey (c : Crates) (os : Os P) (fs : FileSystem P) (path : P) : Res String := do
  let signingKey ← readSigningKey c os fs path
  let keyId ← deriveKeyId c (c.verifyingKey signingKey)
  pure ("Rampart Key\n\nAlgorithm\n  ECDSA_P256_SHA256\n\nKey ID\n  0x" ++ keyIdHex keyId ++ "\n")

def exportPublicKey [DecidableEq P] (c : KeyCrates ρ) (os : Os P) (privateKeyPath outputPath : P) :
    Prog (FileSystem P) String String := do
  let fs ← get
  rejectIf (fs outputPath).isSome
    ("refusing to overwrite existing public key " ++ os.display outputPath)
  let signingKey ← readSigningKey c.toCrates os fs privateKeyPath
  let verifyingKey := c.verifyingKey signingKey
  let keyId ← deriveKeyId (ε := String) c.toCrates verifyingKey
  let pem ← mapErr (c.toPublicKeyPem verifyingKey) fun error =>
    "failed to encode public key: " ++ error
  writeFile os "failed to write public key " outputPath (asBytes pem)
  pure (keyIdHex keyId)

def keyReport (keyId : Vector UInt8 8) : String :=
  "Rampart Key\n\nAlgorithm\n  ECDSA_P256_SHA256\n\nKey ID\n  0x" ++ keyIdHex keyId ++ "\n"

theorem wp_mapErr {α : Type} {x : Except String α} {f : String → String} {Q : α → Prop}
    {E : String → Prop} : wp (mapErr x f) Q E ↔ (∀ a, x = .ok a → Q a) ∧
      ∀ e, x = .error e → E (f e) := by
  cases x with
  | error e => simp [mapErr]
  | ok a => simp [mapErr]

theorem faultless_readSigningKey {c : Crates} {os : Os P} {fs : FileSystem P} {path : P} :
    Faultless (readSigningKey c os fs path) := by
  unfold readSigningKey Faultless
  simp only [wp_bind, wp_mapErr, implies_true, and_self]

theorem wp_inspectPrivateKey {c : Crates} {os : Os P} {fs : FileSystem P} {path : P} :
    wp (inspectPrivateKey c os fs path)
    (fun report => ∃ key, readSigningKey c os fs path = .ok key ∧
      report = keyReport (c.signingKeyId key))
    (fun _ => ∀ key, readSigningKey c os fs path ≠ .ok key) := by
  unfold inspectPrivateKey
  have hread : Faultless (readSigningKey c os fs path) := faultless_readSigningKey
  rcases wp_cases hread with ⟨key, hkey, -⟩ | ⟨e, he, -⟩
  · rw [bind_of_eq_ok hkey, bind_of_eq_ok (deriveKeyId_eq _), wp_pure]
    exact ⟨key, hkey, rfl⟩
  · rw [he]
    exact fun key hkey => by cases hkey

section Files
variable [DecidableEq P] {c : KeyCrates ρ} {os : Os P} {fs : FileSystem P} {path output : P}

theorem wps_writeFile {label : String} {bytes : List UInt8} {Q : Unit → FileSystem P → Prop}
    {E : String → FileSystem P → Prop} : wps (writeFile os label path bytes) Q E fs ↔
      (os.writeError fs path = none → Q () (Function.update fs path (some bytes))) ∧
      ∀ error, os.writeError fs path = some error →
        E (label ++ os.display path ++ ": " ++ error) (os.torn fs path bytes) := by
  unfold writeFile
  rw [wps_bind, wps_get]
  cases os.writeError fs path with
  | none => simp
  | some error => simp

/-- Where no file was, a write creates at most one, whether it fails or not. -/
theorem extends_torn (habsent : fs path = none) (bytes : List UInt8) :
    Extends [path] fs (os.torn fs path bytes) := by
  unfold Os.torn
  cases os.writeTorn fs path bytes with
  | none => exact .refl _ _
  | some n => exact .update habsent _

/-- `generate_private_key` comes to write the PEM text of a new key. -/
structure GeneratesPem (c : KeyCrates ρ) (path : P) (s : Machine P ρ) (pem : String) : Prop where
  absent : s.1 path = none
  encoded : c.toPkcs8Pem (c.random s.2.entropy).1 = .ok pem

/-- `export_public_key` comes to write the PEM text of the public half of a key. -/
structure ExportsPem (c : KeyCrates ρ) (os : Os P) (path output : P) (fs : FileSystem P)
    (key : c.SigningKey) (pem : String) : Prop where
  absent : fs output = none
  keyFile : readSigningKey c.toCrates os fs path = .ok key
  encoded : c.toPublicKeyPem (c.verifyingKey key) = .ok pem

/-- A generated key: its PEM text is at a path where no file was. -/
structure Generated (c : KeyCrates ρ) (path : P) (s t : Machine P ρ) (key : c.SigningKey) :
    Prop where
  drawn : c.random s.2.entropy = (key, t.2.entropy)
  stored : ∃ pem, GeneratesPem c path s pem ∧ c.toPkcs8Pem key = .ok pem ∧
    t.1 = Function.update s.1 path (some (asBytes pem))
  streams : t.2.stdout = s.2.stdout ∧ t.2.stderr = s.2.stderr

/-- What a failure leaves of the files, where a command may come to write one of `files`. -/
structure LeavesTorn (os : Os P) (path : P) (files : List UInt8 → Prop) (fs fs' : FileSystem P) :
    Prop where
  extended : Extends [path] fs fs'
  same : fs' = fs ↔ ¬ ∃ bytes, files bytes ∧ os.Tears fs path bytes

omit [DecidableEq P] in
theorem LeavesTorn.refl {files : List UInt8 → Prop} (h : ∀ bytes, ¬ files bytes) :
    LeavesTorn os path files fs fs :=
  ⟨.refl _ _, iff_of_true rfl fun ⟨bytes, hbytes, _⟩ => h bytes hbytes⟩

theorem LeavesTorn.of_write {files : List UInt8 → Prop} {bytes : List UInt8} {error : String}
    (habsent : fs path = none) (hfile : ∀ other, files other ↔ other = bytes)
    (hwrite : os.writeError fs path = some error) :
    LeavesTorn os path files fs (os.torn fs path bytes) := by
  refine ⟨extends_torn habsent bytes, (torn_eq_self_iff habsent hwrite).trans (not_congr ?_)⟩
  simp only [hfile, exists_eq_left]

/-- Entropy may be used up in vain, but without a key no other file changes. -/
theorem wps_generatePrivateKey (s : Machine P ρ) :
    wps (generatePrivateKey c os path)
      (fun id t => ∃ key, Generated c path s t key ∧ id = keyIdHex (c.signingKeyId key))
      (fun _ t => LeavesTorn os path (fun bytes => ∃ pem, GeneratesPem c path s pem ∧
        bytes = asBytes pem) s.1 t.1 ∧ t.2.stdout = s.2.stdout ∧ t.2.stderr = s.2.stderr) s := by
  unfold generatePrivateKey
  rw [wps_bind, wps_get, wps_bind, wps_lift, wp_rejectIf]
  refine ⟨fun hpresent => ⟨.refl ?_, rfl, rfl⟩, fun habsent => ?_⟩
  · rintro bytes ⟨pem, hpem, -⟩
    simp [hpem.absent] at hpresent
  have hnone : s.1 path = none := by simpa using habsent
  simp only [wps_bind, wps_set, wps_lift, deriveKeyId_eq, wp_ok, wp_mapErr, wps_onFst,
    wps_writeFile, wps_pure, and_true]
  refine ⟨fun pem hpem => ⟨fun _ => ?_, fun error hwrite => .of_write hnone ?_ hwrite⟩,
    fun e he => .refl ?_⟩
  · exact ⟨_, ⟨rfl, ⟨pem, ⟨hnone, hpem⟩, hpem, rfl⟩, rfl, rfl⟩, rfl⟩
  · intro other
    constructor
    · rintro ⟨pem', hpem', rfl⟩
      rw [Except.ok.inj (hpem.symm.trans hpem'.encoded)]
    · rintro rfl
      exact ⟨pem, ⟨hnone, hpem⟩, rfl⟩
  · rintro bytes ⟨pem, hpem, -⟩
    rw [hpem.encoded] at he
    cases he

theorem wps_exportPublicKey : wps (exportPublicKey c os path output)
    (fun id t => ∃ key pem, ExportsPem c os path output fs key pem ∧
      t = Function.update fs output (some (asBytes pem)) ∧
      id = keyIdHex (c.signingKeyId key))
    (fun _ t => LeavesTorn os output (fun bytes => ∃ key pem,
      ExportsPem c os path output fs key pem ∧ bytes = asBytes pem) fs t) fs := by
  unfold exportPublicKey
  rw [wps_bind, wps_get, wps_bind, wps_lift, wp_rejectIf]
  refine ⟨fun hpresent => .refl ?_, fun habsent => ?_⟩
  · rintro bytes ⟨key, pem, hpem, -⟩
    simp [hpem.absent] at hpresent
  have hnone : fs output = none := by simpa using habsent
  rw [wps_bind, wps_lift]
  have hread : Faultless (readSigningKey c.toCrates os fs path) := faultless_readSigningKey
  rcases wp_cases hread with ⟨key, hkey, -⟩ | ⟨e, he, -⟩
  · rw [hkey, wp_ok]
    simp only [wps_bind, wps_lift, deriveKeyId_eq, wp_ok, wp_mapErr, wps_writeFile, wps_pure]
    have hexports : ∀ key' pem', ExportsPem c os path output fs key' pem' →
        c.toPublicKeyPem (c.verifyingKey key) = .ok pem' := fun key' pem' h => by
      rw [Except.ok.inj (hkey.symm.trans h.keyFile)]
      exact h.encoded
    refine ⟨fun pem hpem => ⟨fun _ => ⟨key, pem, ⟨hnone, hkey, hpem⟩, rfl, rfl⟩,
      fun error hwrite => .of_write hnone (fun other => ?_) hwrite⟩, fun e he => .refl ?_⟩
    · constructor
      · rintro ⟨key', pem', h, rfl⟩
        rw [Except.ok.inj (hpem.symm.trans (hexports key' pem' h))]
      · rintro rfl
        exact ⟨key, pem, ⟨hnone, hkey, hpem⟩, rfl⟩
    · rintro bytes ⟨key', pem', h, -⟩
      rw [hexports key' pem' h] at he
      cases he
  · rw [he]
    refine .refl ?_
    rintro bytes ⟨key, pem, hpem, -⟩
    cases he.symm.trans hpem.keyFile

end Files

def samplePublicPem : String :=
  "-----BEGIN PUBLIC KEY-----\n" ++
  "MFkwEwYHKoZIzj0CAQYIKoZIzj0DAQcDQgAEDb7aea+aTIMh5MwmzUPofw5j/FQ3\n" ++
  "i63Yu4vnD4ahFgC4RjC7DZLOlfij6cqKD8YRgZjmj2M3ai1BuPaxrPbBxA==\n" ++
  "-----END PUBLIC KEY-----\n"

def sampleKeyCrates : KeyCrates Unit where
  toCrates := sampleCrates
  random _ := ((), ())
  toPkcs8Pem _ := .ok samplePem
  toPublicKeyPem _ := .ok samplePublicPem

end RampartBoot.Host

import RampartBoot.Host.Verify
import RampartBoot.Host.Document
import Mathlib.Logic.Function.Basic

/-! # Signing

`sign_image` reads three files, assembles an image and writes it where no file was before. What
the operating system and the TOML reader do besides is a parameter.
-/

namespace RampartBoot.Host
open Foundation Format

abbrev FileSystem (P : Type) := P → Option (List UInt8)

/-- The surroundings of a run: the texts for paths and failures, the accesses that fail, and the
TOML reader. -/
structure Os (P : Type) where
  /-- `Path::display` -/
  display : P → String
  notFound : String
  invalidUtf8 : String
  /-- Why a read fails although the file may exist, if it does. -/
  readError : FileSystem P → P → Option String
  /-- Why a write fails, if it does. -/
  writeError : FileSystem P → P → Option String
  /-- How much of the bytes a write that fails has stored, if it has created the file at all. -/
  writeTorn : FileSystem P → P → List UInt8 → Option ℕ
  /-- `toml::from_str` -/
  fromToml : String → Except String ManifestDocument

variable {P : Type}

def Os.read (os : Os P) (fs : FileSystem P) (path : P) : Except String (List UInt8) :=
  match os.readError fs path, fs path with
  | some error, _ => .error error
  | none, none => .error os.notFound
  | none, some bytes => .ok bytes

def Os.readToString (os : Os P) (fs : FileSystem P) (path : P) : Except String String := do
  let bytes ← os.read fs path
  match fromUtf8 bytes with
  | some text => pure text
  | none => .error os.invalidUtf8

def mapErr {α : Type} (x : Except String α) (f : String → String) : Res α :=
  match x with
  | .ok a => pure a
  | .error error => exit (f error)

def readSigningKey (c : Crates) (os : Os P) (fs : FileSystem P) (path : P) : Res c.SigningKey := do
  let pem ← mapErr (os.readToString fs path) fun error =>
    "failed to read key " ++ os.display path ++ ": " ++ error
  mapErr (c.fromPkcs8Pem pem) fun error =>
    "failed to decode P-256 PKCS#8 key " ++ os.display path ++ ": " ++ error

def readManifestDocument (os : Os P) (fs : FileSystem P) (path : P) : Res ManifestDocument := do
  let text ← mapErr (os.readToString fs path) fun error =>
    "failed to read manifest " ++ os.display path ++ ": " ++ error
  mapErr (os.fromToml text) fun error =>
    "failed to parse manifest " ++ os.display path ++ ": " ++ error

def signRegion (c : Crates) (signingKey : c.SigningKey) (verifyingKey : c.VerifyingKey)
    (keyId : Vector UInt8 8) (signedRegion : List UInt8) : Res SignatureRecord := do
  let signatureBytes := c.signatureToBytes (c.sign signingKey signedRegion)
  let publicKeyBytes := c.toEncodedPoint verifyingKey
  rejectIf (publicKeyBytes.length ≠ 65) "P-256 public key must use uncompressed SEC1 encoding"
  let publicKey ← copyFromSlice 65 publicKeyBytes
  let encodedSignature ← copyFromSlice 64 signatureBytes.toList
  pure { keyId := keyId, signature := encodedSignature, publicKey := publicKey }

def chooseKeyId (keyIdOverride : Option String) (derivedKeyId : Vector UInt8 8) :
    Res (Vector UInt8 8) :=
  match keyIdOverride with
  | some value => parseKeyIdHex value
  | none => pure derivedKeyId

def checkDeclaredKeyId (declared : Option String) (keyId : Vector UInt8 8) : Res Unit :=
  match declared with
  | some manifestKeyId => do
    let declared ← parseKeyIdHex manifestKeyId
    rejectIf (declared ≠ keyId) "manifest key_id does not match signing key ID"
  | none => pure ()

/-- `sign_image` up to the write, on the files of `fs`. -/
def assembleImage (c : Crates) (os : Os P) (fs : FileSystem P)
    (payloadPath manifestPath keyPath outputPath : P) (keyIdOverride : Option String) :
    Res (List UInt8) := do
  rejectIf (fs outputPath).isSome
    ("refusing to overwrite existing artifact " ++ os.display outputPath)
  let payload ← mapErr (os.read fs payloadPath) fun error =>
    "failed to read payload " ++ os.display payloadPath ++ ": " ++ error
  let payloadSize ← okOr (u32TryFrom payload.length) "payload size exceeds Rampart image v1 limit"
  rejectIf payload.isEmpty "payload must not be empty"
  let signingKey ← readSigningKey c os fs keyPath
  let verifyingKey := c.verifyingKey signingKey
  let derivedKeyId ← deriveKeyId c verifyingKey
  let keyId ← chooseKeyId keyIdOverride derivedKeyId
  let manifestDocument ← readManifestDocument os fs manifestPath
  checkDeclaredKeyId manifestDocument.keyId keyId
  let payloadDigest ← digestPayload c payload
  let manifest ← manifestDocument.intoManifest payloadSize payloadDigest keyId
  let manifestBytes ← encodeManifest manifest
  -- the capacity that the signed region is allocated with
  let _ ← SizeT.host.add manifestBytes.length payload.length
  let signedRegion := manifestBytes ++ payload
  let signatureRecord ← signRegion c signingKey verifyingKey keyId signedRegion
  let signatureBytes ← encodeSignatureSection signatureRecord signedRegion
  encodeImage manifestBytes payload signatureBytes

/-- What a write that fails leaves: a file with the first of the bytes, or the files as before. -/
def Os.torn [DecidableEq P] (os : Os P) (fs : FileSystem P) (path : P) (bytes : List UInt8) :
    FileSystem P :=
  match os.writeTorn fs path bytes with
  | some n => Function.update fs path (some (bytes.take n))
  | none => fs

def Os.Tears (os : Os P) (fs : FileSystem P) (path : P) (bytes : List UInt8) : Prop :=
  (∃ error, os.writeError fs path = some error) ∧ os.writeTorn fs path bytes ≠ none

/-- Every write stores all of its bytes or changes nothing. -/
def Os.WritesWhole (os : Os P) : Prop := ∀ fs path bytes, os.writeTorn fs path bytes = none

/-- `fs::write`, which creates the file before it writes; its errors are reported behind `label`. -/
def writeFile [DecidableEq P] (os : Os P) (label : String) (path : P) (bytes : List UInt8) :
    Prog (FileSystem P) String Unit := do
  let fs ← get
  match os.writeError fs path with
  | some error => do
    set (os.torn fs path bytes)
    exit (label ++ os.display path ++ ": " ++ error)
  | none => set (Function.update fs path (some bytes))

def signImage [DecidableEq P] (c : Crates) (os : Os P)
    (payloadPath manifestPath keyPath outputPath : P) (keyIdOverride : Option String) :
    Prog (FileSystem P) String ParsedImage := do
  let fs ← get
  let imageBytes ← assembleImage c os fs payloadPath manifestPath keyPath outputPath keyIdOverride
  writeFile os "failed to write artifact " outputPath imageBytes
  parseImage c imageBytes

/-- What the tool relies on when it signs: verification accepts what the key has signed, and
signatures and uncompressed points are decoded as they were encoded. -/
structure Crates.SigningLawful (c : Crates) : Prop where
  verify_sign : ∀ key message, c.verify (c.verifyingKey key) message (c.sign key message) = true
  signature_decode : ∀ s, c.signatureFromSlice (c.signatureToBytes s).toList = some s
  point_length : ∀ v, (c.toEncodedPoint v).length = 65
  point_decode : ∀ v, c.fromSec1Bytes (c.toEncodedPoint v) = some v

def Crates.signingKeyId (c : Crates) (key : c.SigningKey) : Vector UInt8 8 :=
  c.keyIdOf (c.toEncodedPoint (c.verifyingKey key))

/-- The inputs of a run: a payload, an accepted document and a key, at readable paths, and an
output path without a file. -/
structure SigningInputs (c : Crates) (os : Os P) (fs : FileSystem P)
    (payloadPath manifestPath keyPath outputPath : P) (payload : List UInt8)
    (document : ManifestDocument) (key : c.SigningKey) : Prop where
  payloadFile : os.read fs payloadPath = .ok payload
  nonempty : payload ≠ []
  keyFile : ∃ pem, os.readToString fs keyPath = .ok pem ∧ c.fromPkcs8Pem pem = .ok key
  manifestFile : ∃ text, os.readToString fs manifestPath = .ok text ∧
    os.fromToml text = .ok document
  accepted : ∃ size digest keyId m, document.intoManifest size digest keyId = .ok m
  declared : ∀ s, document.keyId = some s → parseKeyIdHex s = .ok (c.signingKeyId key)
  absent : fs outputPath = none
  writable : os.writeError fs outputPath = none

/-- What a run assembles an image from, under any choice of the key ID: the files as they read,
and the key ID that the override and the document agree on. -/
structure SigningSources (c : Crates) (os : Os P) (fs : FileSystem P)
    (payloadPath manifestPath keyPath outputPath : P) (keyIdOverride : Option String)
    (payload : List UInt8) (document : ManifestDocument) (key : c.SigningKey)
    (keyId : Vector UInt8 8) : Prop where
  absent : fs outputPath = none
  payloadFile : os.read fs payloadPath = .ok payload
  nonempty : payload ≠ []
  keyFile : ∃ pem, os.readToString fs keyPath = .ok pem ∧ c.fromPkcs8Pem pem = .ok key
  chosen : chooseKeyId keyIdOverride (c.signingKeyId key) = .ok keyId
  manifestFile : ∃ text, os.readToString fs manifestPath = .ok text ∧
    os.fromToml text = .ok document
  declared : ∀ s, document.keyId = some s → parseKeyIdHex s = .ok keyId
  accepted : ∃ size digest keyId m, document.intoManifest size digest keyId = .ok m

section Signing
variable {c : Crates} {os : Os P} {fs : FileSystem P}
  {payloadPath manifestPath keyPath outputPath : P} {keyIdOverride : Option String}
  {payload : List UInt8} {document : ManifestDocument} {key : c.SigningKey} {keyId : Vector UInt8 8}

theorem SigningInputs.sources (hin : SigningInputs c os fs payloadPath manifestPath keyPath
      outputPath payload document key) :
    SigningSources c os fs payloadPath manifestPath keyPath outputPath none payload document key
      (c.signingKeyId key) :=
  ⟨hin.absent, hin.payloadFile, hin.nonempty, hin.keyFile, rfl, hin.manifestFile, hin.declared,
    hin.accepted⟩

theorem read_of_file {path : P} {bytes : List UInt8} (herror : os.readError fs path = none)
    (h : fs path = some bytes) : os.read fs path = .ok bytes := by
  rw [Os.read, herror, h]

theorem readToString_of_file {path : P} {text : String} (herror : os.readError fs path = none)
    (h : fs path = some (asBytes text)) : os.readToString fs path = .ok text := by
  rw [Os.readToString, read_of_file herror h]
  change (match fromUtf8 (asBytes text) with
    | some text => pure text
    | none => .error os.invalidUtf8 : Except String String) = _
  rw [fromUtf8_eq_some_iff.mpr rfl]
  rfl

theorem mapErr_eq_ok_iff {α : Type} {x : Except String α} {f : String → String} {a : α} :
    mapErr x f = .ok a ↔ x = .ok a := by
  cases x with
  | error e => simp [mapErr, exit]
  | ok b => simp [mapErr, pure, Except.pure]

theorem readSigningKey_eq_ok_iff {path : P} {key : c.SigningKey} :
    readSigningKey c os fs path = .ok key ↔
      ∃ pem, os.readToString fs path = .ok pem ∧ c.fromPkcs8Pem pem = .ok key := by
  simp only [readSigningKey, bind_eq_ok_iff, mapErr_eq_ok_iff]

theorem readManifestDocument_eq_ok_iff {path : P} {document : ManifestDocument} :
    readManifestDocument os fs path = .ok document ↔
      ∃ text, os.readToString fs path = .ok text ∧ os.fromToml text = .ok document := by
  simp only [readManifestDocument, bind_eq_ok_iff, mapErr_eq_ok_iff]

theorem checkDeclaredKeyId_eq_ok_iff {declared : Option String} {keyId : Vector UInt8 8} :
    checkDeclaredKeyId declared keyId = .ok () ↔
      ∀ s, declared = some s → parseKeyIdHex s = .ok keyId := by
  cases declared with
  | none => simp [checkDeclaredKeyId, pure, Except.pure]
  | some s =>
    simp only [checkDeclaredKeyId, bind_eq_ok_iff, rejectIf_eq_ok_iff, not_not, Option.some.injEq]
    constructor
    · rintro ⟨k, hk, rfl⟩ _ rfl
      exact hk
    · exact fun h => ⟨keyId, h s rfl, rfl⟩

def Crates.SigningLawful.publicKey (h : c.SigningLawful) (key : c.SigningKey) : Vector UInt8 65 :=
  ⟨(c.toEncodedPoint (c.verifyingKey key)).toArray, h.point_length _⟩

theorem Crates.SigningLawful.publicKey_toList (h : c.SigningLawful) (key : c.SigningKey) :
    (h.publicKey key).toList = c.toEncodedPoint (c.verifyingKey key) := rfl

theorem signRegion_eq (h : c.SigningLawful) (keyId : Vector UInt8 8) (region : List UInt8) :
    signRegion c key (c.verifyingKey key) keyId region =
      .ok ⟨keyId, c.signatureToBytes (c.sign key region), h.publicKey key⟩ := by
  unfold signRegion
  dsimp only
  rw [rejectIf_bind_eq_ok]
  refine ⟨not_not.mpr (h.point_length _), ?_⟩
  rw [← h.publicKey_toList, bind_of_eq_ok copyFromSlice_toList,
    bind_of_eq_ok copyFromSlice_toList]
  rfl

theorem SigningSources.exists_manifest (hin : SigningSources c os fs payloadPath manifestPath
      keyPath outputPath keyIdOverride payload document key keyId) :
    ∃ (m : RampartManifest) (g : Manifest), document.intoManifest (UInt32.ofNat payload.length)
        (c.sha256 payload) keyId = .ok m ∧ m.Shows g ∧ g.keyId = keyId ∧
      g.size = manifestSize (asBytes document.artifactId).length := by
  obtain ⟨_, _, _, _, haccepted⟩ := hin.accepted
  have hm := intoManifest_of_eq_ok haccepted (UInt32.ofNat payload.length) (c.sha256 payload) keyId
  obtain ⟨hdescribes, hcompleted, -⟩ := describes_of_intoManifest hm
  obtain ⟨g, hg⟩ := exists_shows_of_intoManifest hm
  refine ⟨_, g, hm, hg, hg.keyId.symm.trans hcompleted.keyId, ?_⟩
  rw [Manifest.size, ← hg.artifactId, hdescribes.artifactId]

/-- The steps of `sign_image` that no payload length can stop. -/
theorem assembleImage_eq (hin : SigningSources c os fs payloadPath manifestPath keyPath outputPath
      keyIdOverride payload document key keyId) (hc : c.SigningLawful)
    (hlen : payload.length < 2 ^ 32) {m : RampartManifest} {g : Manifest}
    (hm : document.intoManifest (UInt32.ofNat payload.length) (c.sha256 payload) keyId = .ok m)
    (hg : m.Shows g) :
    assembleImage c os fs payloadPath manifestPath keyPath outputPath keyIdOverride =
      (encodeSignatureSection ⟨keyId,
          c.signatureToBytes (c.sign key (g.bytes ++ payload)), hc.publicKey key⟩
          (g.bytes ++ payload) >>= fun signature => encodeImage g.bytes payload signature) := by
  have hkey := readSigningKey_eq_ok_iff.mpr hin.keyFile
  have hdocument := readManifestDocument_eq_ok_iff.mpr hin.manifestFile
  have hdeclared := checkDeclaredKeyId_eq_ok_iff.mpr hin.declared
  have hderive : (deriveKeyId c (c.verifyingKey key) : Res (Vector UInt8 8)) =
      .ok (c.signingKeyId key) := deriveKeyId_eq _
  have hsize := g.size_le
  have hbytes := g.bytes_length
  unfold assembleImage
  rw [rejectIf_bind_of_not (by simp [hin.absent]),
    bind_of_eq_ok (mapErr_eq_ok_iff.mpr hin.payloadFile), okOr_u32TryFrom_bind hlen,
    rejectIf_bind_of_not (by simp [hin.nonempty]), bind_of_eq_ok hkey]
  dsimp only
  rw [bind_of_eq_ok hderive, bind_of_eq_ok hin.chosen, bind_of_eq_ok hdocument,
    bind_of_eq_ok hdeclared, bind_of_eq_ok (digestPayload_eq _),
    bind_of_eq_ok hm, bind_of_eq_ok (encodeManifest_of_shows hg),
    bind_of_eq_ok (hostAdd_eq (by omega)), bind_of_eq_ok (signRegion_eq hc _ _)]

/-- A payload that leaves room in the header is assembled into an image of the format. -/
theorem exists_assembled (hin : SigningSources c os fs payloadPath manifestPath keyPath outputPath
      keyIdOverride payload document key keyId) (hc : c.SigningLawful)
    {m : RampartManifest} {g : Manifest} (hm : document.intoManifest (UInt32.ofNat payload.length)
      (c.sha256 payload) keyId = .ok m) (hg : m.Shows g)
    (hfits : 64 + g.size + payload.length < 2 ^ 32) :
    ∃ image : Image, image.manifest = g ∧ image.payload = payload ∧
      image.publicKey = hc.publicKey key ∧
      image.signature = c.signatureToBytes (c.sign key image.signedRegion) ∧
      assembleImage c os fs payloadPath manifestPath keyPath outputPath keyIdOverride =
        .ok image.bytes := by
  obtain ⟨-, hcompleted, -⟩ := describes_of_intoManifest hm
  have hsize : g.payloadSize = UInt32.ofNat payload.length :=
    hg.payloadSize.symm.trans hcompleted.payloadSize
  have hkeyId : g.keyId = keyId := hg.keyId.symm.trans hcompleted.keyId
  have hlength : payload.length = g.payloadSize.toNat := by
    rw [hsize, UInt32.toNat_ofNat', Nat.mod_eq_of_lt (by omega)]
  obtain ⟨image, rfl, rfl, hpub, hsig⟩ : ∃ image : Image, image.manifest = g ∧
      image.payload = payload ∧ image.publicKey = hc.publicKey key ∧
      image.signature = c.signatureToBytes (c.sign key (g.bytes ++ payload)) :=
    ⟨⟨g, payload, _, _, hlength, hfits⟩, rfl, rfl, rfl, rfl⟩
  refine ⟨image, rfl, rfl, hpub, hsig, ?_⟩
  rw [assembleImage_eq hin hc (by omega) hm hg,
    bind_of_eq_ok (encodeSignatureSection_of_shows ⟨hkeyId.symm, hsig.symm, hpub.symm⟩),
    encodeImage_sections]

/-- Otherwise one of the checked conversions fails. -/
theorem assembleImage_large (hin : SigningSources c os fs payloadPath manifestPath keyPath
      outputPath keyIdOverride payload document key keyId) (hc : c.SigningLawful)
    {m : RampartManifest} {g : Manifest} (hm : document.intoManifest (UInt32.ofNat payload.length)
      (c.sha256 payload) keyId = .ok m) (hg : m.Shows g)
    (hlarge : ¬ 64 + g.size + payload.length < 2 ^ 32) :
    ∃ e, assembleImage c os fs payloadPath manifestPath keyPath outputPath keyIdOverride =
      .error (.ret e) := by
  have hsize := g.size_le
  have hbytes := g.bytes_length
  by_cases hlen : payload.length < 2 ^ 32
  · rw [assembleImage_eq hin hc hlen hm hg]
    by_cases hregion : (g.bytes ++ payload).length < 2 ^ 32
    · have hsection := encodeSignatureSection_eq ⟨keyId,
        c.signatureToBytes (c.sign key (g.bytes ++ payload)), hc.publicKey key⟩ hregion
      rw [bind_of_eq_ok hsection, encodeImage_large (by omega) hlen _ (by omega)]
      · exact ⟨_, rfl⟩
      · rw [Table.bytes_length (signatureTable_contiguous _ _ _ _), signatureTable_size]
        decide
    · rw [encodeSignatureSection_large _ hregion]
      exact ⟨_, rfl⟩
  · unfold assembleImage
    rw [rejectIf_bind_of_not (by simp [hin.absent]),
      bind_of_eq_ok (mapErr_eq_ok_iff.mpr hin.payloadFile), okOr_u32TryFrom_large hlen]
    exact ⟨_, rfl⟩

/-- Every verification of a signed image ends with a report, and the signature is valid. -/
theorem exists_report_of_signed (hc : c.SigningLawful) {image : Image} {m : RampartManifest}
    (hg : m.Shows image.manifest) (hpub : image.publicKey = hc.publicKey key)
    (hsig : image.signature = c.signatureToBytes (c.sign key image.signedRegion))
    (hid : image.manifest.keyId = c.signingKeyId key) (options : VerificationOptions) :
    ∃ report, verifyImage c image.bytes options = .ok report ∧
      report.image = parsedImageOf image m ∧
      Reports c options image (c.verifyingKey key) (c.sign key image.signedRegion) report := by
  obtain ⟨report, himage, hreport⟩ := exists_reports options hg (c.verifyingKey key)
    (c.sign key image.signedRegion)
  refine ⟨report, (verifyImage_eq_ok_iff report).mpr ⟨image, _, _, rfl, ?_, hid.symm, ?_, hreport⟩,
    himage, hreport⟩
  · rw [hpub, hc.publicKey_toList, hc.point_decode]
  · rw [hsig, hc.signature_decode]

/-- The report of a valid signature over the payload and the values of `document`, with the
target and the epoch judged by these values. -/
structure VerificationReport.Attests (report : VerificationReport) (document : ManifestDocument)
    (options : VerificationOptions) : Prop where
  payloadDigestValid : report.payloadDigestValid = true
  signatureValid : report.signatureValid = true
  manifest : document.Describes report.image.manifest
  targetValid : report.targetValid = true ↔ ∀ t, options.deviceTarget = some t →
    document.vendorId = t.vendorId ∧ document.productId = t.productId ∧
      document.hardwareFamily = t.hardwareFamily ∧ document.componentId = t.componentId
  securityEpochValid : report.securityEpochValid = true ↔
    options.minimumSecurityEpoch ≤ document.securityEpoch

/-- What a report says about the fields of the manifest, it says about the document. -/
theorem Reports.attests {image : Image} {m : RampartManifest} {size : UInt32}
    {digest : Vector UInt8 32} {keyId : Vector UInt8 8} {options : VerificationOptions}
    {point : c.VerifyingKey} {s : c.Signature} {report : VerificationReport}
    (hr : Reports c options image point s report) (himage : report.image = parsedImageOf image m)
    (hm : document.intoManifest size digest keyId = .ok m) (hg : m.Shows image.manifest)
    (hdigest : digest = c.sha256 image.payload)
    (hverify : c.verify point image.signedRegion s = true) :
    report.Attests document options := by
  obtain ⟨hdescribes, hcompleted, -⟩ := describes_of_intoManifest hm
  have hfields := hg.fields
  have hpayloadDigest : image.manifest.payloadDigest = c.sha256 image.payload := by
    rw [← hfields, ← hdigest]
    exact hcompleted.payloadDigest
  refine ⟨hr.payloadDigest.mpr hpayloadDigest.symm, by rw [hr.signature, hverify], ?_,
    hr.target.trans ?_, hr.epoch.trans ?_⟩
  · rw [himage]
    exact hdescribes
  · simp only [TargetBound, ← hfields, RampartManifest.fields, hdescribes.vendorId,
      hdescribes.productId, hdescribes.hardwareFamily, hdescribes.componentId]
  · simp only [← hfields, RampartManifest.fields, hdescribes.securityEpoch]

section Run
variable [DecidableEq P]

theorem writeFile_of_writable {label : String} {path : P} (file : List UInt8)
    (h : os.writeError fs path = none) :
    writeFile os label path file fs = .ok () (Function.update fs path (some file)) := by
  change (match os.writeError fs path with
    | some error => set (os.torn fs path file) >>= fun _ => liftM (exit (ε := String) _)
    | none => set (Function.update fs path (some file)) : Prog (FileSystem P) String Unit) fs = _
  rw [h]
  rfl

theorem writeFile_of_unwritable {label : String} {path : P} {error : String} (file : List UInt8)
    (h : os.writeError fs path = some error) :
    writeFile os label path file fs =
      .error (.ret (label ++ os.display path ++ ": " ++ error)) (os.torn fs path file) := by
  change (match os.writeError fs path with
    | some error => set (os.torn fs path file) >>= fun _ => liftM (exit (ε := String) _)
    | none => set (Function.update fs path (some file)) : Prog (FileSystem P) String Unit) fs = _
  rw [h]
  rfl

/-- Where no file was, a write that fails leaves the files as they were or creates one. -/
theorem torn_eq_self_iff {path : P} {error : String} {bytes : List UInt8}
    (habsent : fs path = none) (hwrite : os.writeError fs path = some error) :
    os.torn fs path bytes = fs ↔ ¬ os.Tears fs path bytes := by
  unfold Os.torn Os.Tears
  cases os.writeTorn fs path bytes with
  | none => exact iff_of_true rfl fun h => h.2 rfl
  | some n =>
    refine iff_of_false (fun h => ?_) (not_not.mpr ⟨⟨error, hwrite⟩, by simp⟩)
    have hfile : Function.update fs path (some (bytes.take n)) path = fs path := congrFun h path
    rw [Function.update_self, habsent] at hfile
    cases hfile

variable (c os fs payloadPath manifestPath keyPath outputPath keyIdOverride) in
/-- A run reads the files as they are before it writes. -/
theorem signImage_eq :
    signImage c os payloadPath manifestPath keyPath outputPath keyIdOverride fs =
      (liftM (assembleImage c os fs payloadPath manifestPath keyPath outputPath keyIdOverride)
        >>= fun file => writeFile os "failed to write artifact " outputPath file >>= fun _ =>
          liftM (parseImage c file) : Prog (FileSystem P) String ParsedImage) fs := rfl

theorem signImage_of_written {file : List UInt8}
    (h : assembleImage c os fs payloadPath manifestPath keyPath outputPath keyIdOverride = .ok file)
    (hwrite : os.writeError fs outputPath = none) :
    signImage c os payloadPath manifestPath keyPath outputPath keyIdOverride fs =
      (liftM (parseImage c file) : Prog (FileSystem P) String ParsedImage)
        (Function.update fs outputPath (some file)) := by
  rw [signImage_eq, h]
  change (EStateM.bind (writeFile os _ outputPath file) fun _ => liftM (parseImage c file)) fs = _
  rw [EStateM.bind, writeFile_of_writable file hwrite]

theorem signImage_of_unwritable {file : List UInt8} {error : String}
    (h : assembleImage c os fs payloadPath manifestPath keyPath outputPath keyIdOverride = .ok file)
    (hwrite : os.writeError fs outputPath = some error) : ∃ e,
    signImage c os payloadPath manifestPath keyPath outputPath keyIdOverride fs =
      .error (.ret e) (os.torn fs outputPath file) := by
  rw [signImage_eq, h]
  change ∃ e, (EStateM.bind (writeFile os _ outputPath file)
    fun _ => liftM (parseImage c file)) fs = .error (.ret e) (os.torn fs outputPath file)
  rw [EStateM.bind, writeFile_of_unwritable file hwrite]
  exact ⟨_, rfl⟩

theorem signImage_of_assembled {file : List UInt8} {i : ParsedImage}
    (h : assembleImage c os fs payloadPath manifestPath keyPath outputPath keyIdOverride = .ok file)
    (hwrite : os.writeError fs outputPath = none) (hparse : parseImage c file = .ok i) :
    signImage c os payloadPath manifestPath keyPath outputPath keyIdOverride fs =
      .ok i (Function.update fs outputPath (some file)) := by
  rw [signImage_of_written h hwrite, hparse]
  rfl

theorem signImage_of_failed {e : Stop String}
    (h : assembleImage c os fs payloadPath manifestPath keyPath outputPath keyIdOverride =
      .error e) :
    signImage c os payloadPath manifestPath keyPath outputPath keyIdOverride fs =
      .error e fs := by
  rw [signImage_eq, h]
  rfl

/-- A signed payload verifies with the values of its document, and a payload that leaves no room
in the header is refused before anything is written. -/
theorem signImage_then_verify (c : Crates) (os : Os P) (fs : FileSystem P)
    (payloadPath manifestPath keyPath outputPath : P) (payload : List UInt8)
    (document : ManifestDocument) (key : c.SigningKey) (hc : c.SigningLawful)
    (hin : SigningInputs c os fs payloadPath manifestPath keyPath outputPath payload document
      key) :
    ∃ m manifest, document.intoManifest (UInt32.ofNat payload.length) (c.sha256 payload)
        (c.signingKeyId key) = .ok m ∧ encodeManifest m = .ok manifest ∧
      (64 + manifest.length + payload.length ≤ 2 ^ 32 - 1 → ∃ file i,
        signImage c os payloadPath manifestPath keyPath outputPath none fs =
          .ok i (Function.update fs outputPath (some file)) ∧
        ∀ options, ∃ report, verifyImage c file options = .ok report ∧
          report.Attests document options) ∧
      (2 ^ 32 - 1 < 64 + manifest.length + payload.length → ∃ e,
        signImage c os payloadPath manifestPath keyPath outputPath none fs =
          .error (.ret e) fs) := by
  obtain ⟨m, g, hm, hg, hid, -⟩ := hin.sources.exists_manifest
  refine ⟨m, g.bytes, hm, encodeManifest_of_shows hg, fun hfits => ?_, fun hlarge => ?_⟩
  · rw [g.bytes_length] at hfits
    obtain ⟨image, rfl, rfl, hpub, hsig, hassembled⟩ :=
      exists_assembled hin.sources hc hm hg (by omega)
    have hkey : c.KeyIdMatches image.publicKey image.manifest.keyId :=
      ⟨c.verifyingKey key, by rw [hpub, hc.publicKey_toList, hc.point_decode], hid.symm⟩
    refine ⟨image.bytes, parsedImageOf image m,
      signImage_of_assembled hassembled hin.writable (parseImage_bytes hg hkey), fun options => ?_⟩
    obtain ⟨report, hreport, himage, hr⟩ := exists_report_of_signed hc hg hpub hsig hid options
    exact ⟨report, hreport, hr.attests himage hm hg rfl (hc.verify_sign _ _)⟩
  · rw [g.bytes_length] at hlarge
    obtain ⟨e, he⟩ := assembleImage_large hin.sources hc hm hg (by omega)
    exact ⟨e, signImage_of_failed he⟩

end Run

end Signing

def sampleToml : String :=
  "artifact_id = \"industrial-controller-main-2.4.0\"\n" ++
  "vendor_id = 1380011344\n" ++
  "product_id = 1\n" ++
  "hardware_family = 1413\n" ++
  "hardware_revision_min = 1\n" ++
  "hardware_revision_max = 3\n" ++
  "component_id = 16\n" ++
  "version = \"2.4.0\"\n" ++
  "security_epoch = 12\n" ++
  "signature_role = \"RELEASE\"\n" ++
  "rollback_policy = \"fallback\"\n\n" ++
  "[trial]\n" ++
  "max_attempts = 3\n" ++
  "probation_period_ms = 30000\n"

def sampleOs : Os String where
  display path := path
  notFound := "No such file or directory (os error 2)"
  invalidUtf8 := "stream did not contain valid UTF-8"
  readError _ _ := none
  writeError _ _ := none
  writeTorn _ _ _ := none
  fromToml text := if text = sampleToml then .ok sampleDocument else .error "TOML parse error"

def sampleFiles : FileSystem String := fun path =>
  if path = "payload.bin" then some sampleImage.payload
  else if path = "manifest.toml" then some (asBytes sampleToml)
  else if path = "release-test-key.pem" then some (asBytes samplePem)
  else none

theorem sampleCrates_signingLawful : sampleCrates.SigningLawful where
  verify_sign _ message := beq_self_eq_true (sampleSignature message)
  signature_decode := sampleCrates_signature_decode
  point_length _ := Vector.length_toList
  point_decode v := by
    simp [sampleCrates]
    rfl

theorem sampleInputs : SigningInputs sampleCrates sampleOs sampleFiles "payload.bin"
    "manifest.toml" "release-test-key.pem" "firmware.rampart" sampleImage.payload sampleDocument
    () where
  payloadFile := read_of_file rfl (by simp [sampleFiles])
  nonempty := by decide
  keyFile := ⟨samplePem, readToString_of_file rfl (by simp [sampleFiles]), by simp [sampleCrates]⟩
  manifestFile := ⟨sampleToml, readToString_of_file rfl (by simp [sampleFiles]), by simp [sampleOs]⟩
  accepted := ⟨22, sampleManifest.payloadDigest, sampleManifest.keyId, sampleHostManifest, rfl⟩
  declared _ h := by cases h
  absent := by simp [sampleFiles]
  writable := rfl

theorem signImage_then_verify_sample :
    ∃ m manifest, sampleDocument.intoManifest (UInt32.ofNat sampleImage.payload.length)
        (sampleCrates.sha256 sampleImage.payload) (sampleCrates.signingKeyId ()) = .ok m ∧
      encodeManifest m = .ok manifest ∧
      (64 + manifest.length + sampleImage.payload.length ≤ 2 ^ 32 - 1 → ∃ file i,
        signImage sampleCrates sampleOs "payload.bin" "manifest.toml" "release-test-key.pem"
            "firmware.rampart" none sampleFiles =
          .ok i (Function.update sampleFiles "firmware.rampart" (some file)) ∧
        ∀ options, ∃ report, verifyImage sampleCrates file options = .ok report ∧
          report.Attests sampleDocument options) ∧
      (2 ^ 32 - 1 < 64 + manifest.length + sampleImage.payload.length → ∃ e,
        signImage sampleCrates sampleOs "payload.bin" "manifest.toml" "release-test-key.pem"
          "firmware.rampart" none sampleFiles = .error (.ret e) sampleFiles) :=
  signImage_then_verify sampleCrates sampleOs sampleFiles _ _ _ _ _ _ _
    sampleCrates_signingLawful sampleInputs

end RampartBoot.Host

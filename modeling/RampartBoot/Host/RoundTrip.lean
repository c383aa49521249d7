import RampartBoot.Host.ImageCodec

/-! # Host images there and back

What the parser shows is enough to write the file again, and what the encoders write is shown
again by the parser.
-/

namespace RampartBoot.Host
open Foundation Format

variable {c : Crates} {g : Image} {m : RampartManifest} {r : SignatureRecord}

theorem encodeSignatureSection_of_shows (hr : r.Shows g) :
    encodeSignatureSection r (g.manifest.bytes ++ g.payload) = .ok g.signatureSection := by
  have hfits := g.fits
  have hlen : (g.manifest.bytes ++ g.payload).length = g.manifest.size + g.payload.length := by
    rw [List.length_append, Manifest.bytes_length]
  rw [encodeSignatureSection_eq r (by omega), hlen, hr.keyId, hr.signature, hr.publicKey,
    Image.signatureSection]

theorem encodeImage_sections (g : Image) :
    encodeImage g.manifest.bytes g.payload g.signatureSection = .ok g.bytes := by
  have hfits := g.fits
  have hm := g.manifest.bytes_length
  rw [encodeImage_eq (by omega) g.signatureSection_length, hm, Image.bytes, Image.header]

def parsedImageOf (g : Image) (m : RampartManifest) : ParsedImage where
  manifest := m
  manifestRange := ⟨64, 64 + g.manifest.size⟩
  payloadRange := ⟨64 + g.manifest.size, 64 + g.manifest.size + g.payload.length⟩
  signatureRange := ⟨g.signatureOffset, g.signatureOffset + 192⟩
  signedRegionRange := ⟨64, 64 + (g.manifest.size + g.payload.length)⟩
  signature := ⟨g.manifest.keyId, g.signature, g.publicKey⟩

theorem parsedImageOf_shows (hm : m.Shows g.manifest) : (parsedImageOf g m).Shows g :=
  ⟨hm, rfl, rfl, rfl, rfl, rfl, rfl, rfl⟩

theorem parseImage_bytes (hm : m.Shows g.manifest)
    (hkey : c.KeyIdMatches g.publicKey g.manifest.keyId) :
    parseImage c g.bytes = .ok (parsedImageOf g m) :=
  (parseImage_eq_ok_iff _).mpr ⟨g, rfl, parsedImageOf_shows hm, hkey⟩

theorem sliceRange_manifest {i : ParsedImage} (hi : i.Shows g) :
    (sliceRange g.bytes i.manifestRange : Res (List UInt8)) = .ok g.manifest.bytes := by
  have hlen := g.bytes_length
  rw [Image.signatureOffset] at hlen
  rw [hi.manifestRange, sliceRange_eq (by omega) (by omega), Nat.add_sub_cancel_left,
    g.slice_manifest]

theorem sliceRange_payload {i : ParsedImage} (hi : i.Shows g) :
    (sliceRange g.bytes i.payloadRange : Res (List UInt8)) = .ok g.payload := by
  have hlen := g.bytes_length
  rw [Image.signatureOffset] at hlen
  rw [hi.payloadRange, sliceRange_eq (by omega) (by omega), Nat.add_sub_cancel_left,
    g.slice_payload]

theorem sliceRange_signedRegion {i : ParsedImage} (hi : i.Shows g) :
    (sliceRange g.bytes i.signedRegionRange : Res (List UInt8)) = .ok g.signedRegion := by
  have hlen := g.bytes_length
  rw [Image.signatureOffset] at hlen
  rw [hi.signedRegionRange, sliceRange_eq (by omega) (by omega), Nat.add_sub_cancel_left,
    g.slice_signedRegion]

/-- Encoders and parser are inverse to each other, on the manifests, payloads and records that
fit together and on the files that the parser accepts. -/
theorem imageCodec_bijective (c : Crates) :
    (∀ (m : RampartManifest) (payload : List UInt8) (r : SignatureRecord),
      (∃ s, parseManifest s = .ok m) → payload.length = m.payloadSize.toNat →
      r.keyId = m.keyId → c.KeyIdMatches r.publicKey r.keyId →
      ∃ manifest, encodeManifest m = .ok manifest ∧
        (64 + manifest.length + payload.length < 2 ^ 32 →
          ∃ signature file i, encodeSignatureSection r (manifest ++ payload) = .ok signature ∧
            encodeImage manifest payload signature = .ok file ∧ parseImage c file = .ok i ∧
            i.manifest = m ∧ i.signature = r ∧
            (sliceRange file i.manifestRange : Res (List UInt8)) = .ok manifest ∧
            (sliceRange file i.payloadRange : Res (List UInt8)) = .ok payload)) ∧
    ∀ (b : List UInt8) (i : ParsedImage), parseImage c b = .ok i →
      ∃ manifest payload signature, encodeManifest i.manifest = .ok manifest ∧
        (sliceRange b i.payloadRange : Res (List UInt8)) = .ok payload ∧
        encodeSignatureSection i.signature (manifest ++ payload) = .ok signature ∧
        encodeImage manifest payload signature = .ok b := by
  constructor
  · rintro m payload r ⟨s, hs⟩ hlen hid hkey
    obtain ⟨n, -, hm⟩ := parseManifest_eq_ok_iff.mp hs
    refine ⟨n.bytes, encodeManifest_of_shows hm, fun hfits => ?_⟩
    rw [n.bytes_length] at hfits
    have hsize : n.payloadSize = m.payloadSize := hm.payloadSize.symm
    have hkeyId : n.keyId = m.keyId := hm.keyId.symm
    obtain ⟨g, rfl, rfl, hsig, hpub⟩ : ∃ g : Image, g.manifest = n ∧ g.payload = payload ∧
        g.signature = r.signature ∧ g.publicKey = r.publicKey :=
      ⟨⟨n, payload, r.signature, r.publicKey, by rw [hlen, hsize], hfits⟩, rfl, rfl, rfl, rfl⟩
    have hr : r.Shows g := ⟨by rw [hid, ← hkeyId], hsig.symm, hpub.symm⟩
    have hi := parsedImageOf_shows hm
    have hrecord : (parsedImageOf g m).signature = r := by
      rw [parsedImageOf, ← hr.keyId, ← hr.signature, ← hr.publicKey]
    exact ⟨_, _, _, encodeSignatureSection_of_shows hr, encodeImage_sections g,
      parseImage_bytes hm (by rwa [hpub, ← hr.keyId]), rfl, hrecord, sliceRange_manifest hi,
      sliceRange_payload hi⟩
  · intro b i hb
    obtain ⟨g, rfl, hi, -⟩ := (parseImage_eq_ok_iff i).mp hb
    exact ⟨g.manifest.bytes, g.payload, g.signatureSection, encodeManifest_of_shows hi.manifest,
      sliceRange_payload hi, encodeSignatureSection_of_shows hi.signature, encodeImage_sections g⟩

def sampleHostManifest : RampartManifest :=
  manifestAt sampleManifest.toManifestFields "industrial-controller-main-2.4.0"

def sampleRecord : SignatureRecord :=
  ⟨sampleManifest.keyId, sampleImage.signature, sampleImage.publicKey⟩

theorem sampleHostManifest_shows : sampleHostManifest.Shows sampleManifest where
  fields := fields_manifestAt sampleManifest.valid _
  artifactId := by decide

theorem imageCodec_bijective_sample :
    (∃ manifest, encodeManifest sampleHostManifest = .ok manifest ∧
      (64 + manifest.length + sampleImage.payload.length < 2 ^ 32 →
        ∃ signature file i,
          encodeSignatureSection sampleRecord (manifest ++ sampleImage.payload) = .ok signature ∧
          encodeImage manifest sampleImage.payload signature = .ok file ∧
          parseImage sampleCrates file = .ok i ∧
          i.manifest = sampleHostManifest ∧ i.signature = sampleRecord ∧
          (sliceRange file i.manifestRange : Res (List UInt8)) = .ok manifest ∧
          (sliceRange file i.payloadRange : Res (List UInt8)) = .ok sampleImage.payload)) ∧
    ∃ manifest payload signature, encodeManifest sampleHostManifest = .ok manifest ∧
      (sliceRange sampleImage.bytes (parsedImageOf sampleImage sampleHostManifest).payloadRange :
        Res (List UInt8)) = .ok payload ∧
      encodeSignatureSection sampleRecord (manifest ++ payload) = .ok signature ∧
      encodeImage manifest payload signature = .ok sampleImage.bytes :=
  ⟨(imageCodec_bijective sampleCrates).1 sampleHostManifest sampleImage.payload sampleRecord
      ⟨_, parseManifest_eq_ok_iff.mpr ⟨_, rfl, sampleHostManifest_shows⟩⟩ (by decide) rfl
      sampleCrates_keyIdMatches,
    (imageCodec_bijective sampleCrates).2 sampleImage.bytes
      (parsedImageOf sampleImage sampleHostManifest)
      (parseImage_bytes (g := sampleImage) sampleHostManifest_shows sampleCrates_keyIdMatches)⟩

end RampartBoot.Host

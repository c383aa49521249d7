import RampartBoot.Core.Acceptance
import RampartBoot.Core.Crypto

/-! # From the image parser to the crypto wrappers

`check_image_crypto` of the tests passes the fields of a parsed view to the two wrappers. On a
view that the parser has published, each wrapper reaches its callback, with the bytes that the
format names as arguments.
-/

namespace RampartBoot.Core
open Foundation Format

variable {κ : Type} {z : SizeT}

/-- The call of `rampart_crypto_hash` in `check_image_crypto`. -/
def hashPayload (provider : CryptoProvider κ) (image : ImageView) :
    Prog (κ × Option (Vector UInt8 32)) Status Unit := do
  let message ← address (ε := Status) image.bytes image.payloadOffset
  rampartCryptoHash (some provider) image.manifest.digestAlgorithm message image.payloadSize 32

/-- The call of `rampart_crypto_verify_signature` in `check_image_crypto`. -/
def verifySignature (provider : CryptoProvider κ) (image : ImageView) : Prog κ Status Unit := do
  let message ← address (ε := Status) image.bytes image.signedRegionOffset
  rampartCryptoVerifySignature (some provider) image.signature.signatureAlgorithm message
    image.signedRegionSize image.signature.publicKey image.signature.publicKeyLen
    image.signature.signature image.signature.signatureLen

theorem messageBytes_of_points {p : Ptr UInt8} {s : List UInt8} (hp : p.Points s) {n : ℕ}
    (hn : s.length = n) : messageBytes (some p) n = some s := by
  unfold messageBytes
  split_ifs with h
  · rw [List.length_eq_zero_iff.mp (hn.trans h)]
  · exact hp.entries_eq hn

theorem call_rampartCryptoHash {provider : CryptoProvider κ} {sha256 : Sha256Fn κ}
    (hsha : provider.sha256 = some sha256) (message : Ptr UInt8) (len : ℕ)
    (digest : Vector UInt8 32) (ctx : κ) :
    call (rampartCryptoHash (some provider) 1 (some message) len 32) (ctx, some digest) =
      let answer := sha256 (some message) len ctx
      if answer.1.1 = .ok then .ok (.ok, answer.2, some answer.1.2)
      else .ok (.cryptoProvider, answer.2, some digest) := by
  by_cases hok : (sha256 (some message) len ctx).1.1 = .ok
  · simp only [hok, if_true]
    apply call_eq_of_wps
    rw [wps_rampartCryptoHash, hsha]
    simp [hok]
  · simp only [hok, if_false]
    apply call_eq_of_wps
    rw [wps_rampartCryptoHash, hsha]
    simp [hok]

def narrow (answer : Status) : Status :=
  if answer = .ok ∨ answer = .signature then answer else .cryptoProvider

theorem call_rampartCryptoVerifySignature {provider : CryptoProvider κ}
    {verify : EcdsaP256Sha256VerifyFn κ} (hverify : provider.verifyEcdsaP256Sha256 = some verify)
    (message key signature : Ptr UInt8) (len : ℕ) (ctx : κ) :
    call (rampartCryptoVerifySignature (some provider) 1 (some message) len (some key) 65
        (some signature) 64) ctx =
      let answer := verify (some message) len (some key) (some signature) ctx
      .ok (narrow answer.1, answer.2) := by
  apply call_eq_of_wps
  unfold rampartCryptoVerifySignature
  simp only [hverify]
  rcases hanswer : verify (some message) len (some key) (some signature) ctx with ⟨st, t⟩
  by_cases hok : st = .ok
  · simp [hanswer, hok, narrow]
  · by_cases hsig : st = .signature
    · simp [hanswer, hsig, narrow]
    · by_cases hprov : st = .cryptoProvider
      · simp [hanswer, hprov, narrow]
      · simp [hanswer, hok, hsig, hprov, narrow]

/-- What a caller sees of one hash call on the view `v` of `b`: the arguments and the answer of
the callback, the status and the digest buffer. -/
structure HashesPayload (b : List UInt8) (v : ImageView) (before : Vector UInt8 32)
    (message : Option (Ptr UInt8)) (answer : Status) (written : Vector UInt8 32) (st : Status)
    (after : Vector UInt8 32) : Prop where
  message : messageBytes message v.payloadSize = some (slice b v.payloadOffset v.payloadSize)
  ok_iff : st = .ok ↔ answer = .ok
  filled : st = .ok → after = written
  failed : st ≠ .ok → st = .cryptoProvider ∧ after = before

/-- What a caller sees of one signature check on the view `v` of `b`. The message is not hashed
before. -/
structure VerifiesSignedRegion (b : List UInt8) (v : ImageView)
    (message publicKey signature : Option (Ptr UInt8)) (answer st : Status) : Prop where
  message : messageBytes message v.signedRegionSize = some
    (slice b v.manifestOffset v.manifestSize ++ slice b v.payloadOffset v.payloadSize)
  publicKey : entries publicKey 65 = some (slice b (v.signatureOffset + 112) 65)
  signature : entries signature 64 = some (slice b (v.signatureOffset + 48) 64)
  ok_iff : st = .ok ↔ answer = .ok
  signature_iff : st = .signature ↔ answer = .signature
  otherwise : answer ≠ .ok → answer ≠ .signature → st = .cryptoProvider

section Calls
variable {provider : CryptoProvider κ} {p : Ptr UInt8} {g : Image}

theorem hashPayload_imageViewAt (hp : p.Points g.bytes) :
    hashPayload provider (imageViewAt p g) = rampartCryptoHash (some provider) 1
      (some ⟨p.obj, p.off + (64 + g.manifest.size)⟩) g.payload.length 32 := by
  have hlen := g.bytes_length
  unfold Image.signatureOffset at hlen
  have haddress := hp.address_eq (ε := Status) (i := 64 + g.manifest.size) (by omega)
  have hdigest : (imageViewAt p g).manifest.digestAlgorithm = 1 := g.manifest.valid.digestAlgorithm
  unfold hashPayload
  rw [hdigest]
  change liftM (address (some p) (64 + g.manifest.size)) >>= _ = _
  rw [haddress]
  rfl

theorem verifySignature_imageViewAt (hp : p.Points g.bytes) :
    verifySignature provider (imageViewAt p g) = rampartCryptoVerifySignature (some provider) 1
      (some ⟨p.obj, p.off + 64⟩) (g.manifest.size + g.payload.length)
      (some ⟨p.obj, p.off + g.signatureOffset + 112⟩) 65
      (some ⟨p.obj, p.off + g.signatureOffset + 48⟩) 64 := by
  have hge := g.length_ge
  have haddress := hp.address_eq (ε := Status) (i := 64) (by omega)
  unfold verifySignature
  change liftM (address (some p) 64) >>= _ = _
  rw [haddress]
  rfl

theorem entries_record (hp : p.Points g.bytes) {i n : ℕ} (hi : i + n ≤ 192) :
    entries (some ⟨p.obj, p.off + g.signatureOffset + i⟩) n =
      some (slice g.bytes (g.signatureOffset + i) n) := by
  have hlen := g.bytes_length
  have hsub := hp.sub (i := g.signatureOffset + i) (n := n) (by omega)
  rw [Nat.add_assoc]
  exact hsub.entries_eq (slice_length_of_le (by omega))

theorem narrow_eq_ok_iff {answer : Status} : narrow answer = .ok ↔ answer = .ok := by
  unfold narrow
  split_ifs with h
  · rfl
  · simp only [not_or] at h
    simp [h.1]

theorem narrow_eq_signature_iff {answer : Status} :
    narrow answer = .signature ↔ answer = .signature := by
  unfold narrow
  split_ifs with h
  · rfl
  · simp only [not_or] at h
    simp [h.2]

theorem hashPayload_shown (hp : p.Points g.bytes) {sha256 : Sha256Fn κ}
    (hsha : provider.sha256 = some sha256) (ctx : κ) (before : Vector UInt8 32) :
    ∃ message answer written st ctx' after,
      call (hashPayload provider (imageViewAt p g)) (ctx, some before) =
        .ok (st, ctx', some after) ∧
      call (hashPayload provider.logged (imageViewAt p g)) ((ctx, []), some before) =
        .ok (st, (ctx', [.sha256 message g.payload.length answer written]), some after) ∧
      HashesPayload g.bytes (imageViewAt p g) before message answer written st after := by
  have hlen := g.bytes_length
  unfold Image.signatureOffset at hlen
  have hmessage := hp.sub (i := 64 + g.manifest.size) (n := g.payload.length) (by omega)
  have hbytes := messageBytes_of_points hmessage (slice_length_of_le (by omega))
  have hplain := call_rampartCryptoHash hsha ⟨p.obj, p.off + (64 + g.manifest.size)⟩
    g.payload.length before ctx
  have hlogged := call_rampartCryptoHash (CryptoProvider.logged_sha256 hsha)
    ⟨p.obj, p.off + (64 + g.manifest.size)⟩ g.payload.length before (ctx, [])
  rw [← hashPayload_imageViewAt hp] at hplain hlogged
  dsimp only at hplain hlogged
  split_ifs at hplain hlogged with hok
  · exact ⟨_, _, _, _, _, _, hplain, hlogged, hbytes, by simp [hok], fun _ => rfl,
      fun h => absurd rfl h⟩
  · exact ⟨_, _, _, _, _, _, hplain, hlogged, hbytes, by simp [hok],
      fun h => absurd h (by decide), fun _ => ⟨rfl, rfl⟩⟩

theorem verifySignature_shown (hp : p.Points g.bytes) {verify : EcdsaP256Sha256VerifyFn κ}
    (hverify : provider.verifyEcdsaP256Sha256 = some verify) (ctx : κ) :
    ∃ message key signature answer st ctx',
      call (verifySignature provider (imageViewAt p g)) ctx = .ok (st, ctx') ∧
      call (verifySignature provider.logged (imageViewAt p g)) (ctx, []) =
        .ok (st, ctx', [.verifyEcdsaP256Sha256 message (g.manifest.size + g.payload.length) key
          signature answer]) ∧
      VerifiesSignedRegion g.bytes (imageViewAt p g) message key signature answer st := by
  have hlen := g.bytes_length
  have hmessage := hp.sub (i := 64) (n := g.manifest.size + g.payload.length)
    (by unfold Image.signatureOffset at hlen; omega)
  rw [← slice_append_slice] at hmessage
  have hbytes := messageBytes_of_points hmessage (n := g.manifest.size + g.payload.length)
    (by rw [slice_append_slice, g.slice_signedRegion, g.signedRegion_length])
  have hplain := call_rampartCryptoVerifySignature hverify ⟨p.obj, p.off + 64⟩
    ⟨p.obj, p.off + g.signatureOffset + 112⟩ ⟨p.obj, p.off + g.signatureOffset + 48⟩
    (g.manifest.size + g.payload.length) ctx
  have hlogged := call_rampartCryptoVerifySignature (CryptoProvider.logged_verify hverify)
    ⟨p.obj, p.off + 64⟩ ⟨p.obj, p.off + g.signatureOffset + 112⟩
    ⟨p.obj, p.off + g.signatureOffset + 48⟩ (g.manifest.size + g.payload.length) (ctx, [])
  rw [← verifySignature_imageViewAt hp] at hplain hlogged
  refine ⟨_, _, _, _, _, _, hplain, hlogged, hbytes, entries_record hp (by decide),
    entries_record hp (by decide), narrow_eq_ok_iff, narrow_eq_signature_iff, ?_⟩
  intro hok hsig
  simp [narrow, hok, hsig]

end Calls

/-- Every accepted view passes the argument checks of both wrappers, whatever the provider
does: each callback is invoked once, on the bytes that the format names, and only its OK is
taken for one. -/
theorem rampartImageParse_handOff (b : Buffer z) (prior v : ImageView)
    (haccept : call (rampartImageParse z (some b.start) b.len) (some prior) =
      .ok (.ok, some v))
    (provider : CryptoProvider κ) (sha256 : Sha256Fn κ) (hsha : provider.sha256 = some sha256)
    (verify : EcdsaP256Sha256VerifyFn κ) (hverify : provider.verifyEcdsaP256Sha256 = some verify)
    (ctx : κ) (before : Vector UInt8 32) :
    (∃ message answer written st ctx' after,
      call (hashPayload provider v) (ctx, some before) = .ok (st, ctx', some after) ∧
      call (hashPayload provider.logged v) ((ctx, []), some before) =
        .ok (st, (ctx', [.sha256 message v.payloadSize answer written]), some after) ∧
      HashesPayload b.bytes v before message answer written st after) ∧
    ∃ message key signature answer st ctx',
      call (verifySignature provider v) ctx = .ok (st, ctx') ∧
      call (verifySignature provider.logged v) (ctx, []) =
        .ok (st, ctx', [.verifyEcdsaP256Sha256 message v.signedRegionSize key signature answer]) ∧
      VerifiesSignedRegion b.bytes v message key signature answer st := by
  obtain ⟨g, hb, -, hv⟩ := (parseImage_eq_ok_iff b prior (some v)).mp haccept
  obtain rfl := Option.some.inj hv
  have hp : b.start.Points g.bytes := hb ▸ b.points
  rw [hb]
  exact ⟨hashPayload_shown hp hsha ctx before, verifySignature_shown hp hverify ctx⟩

def obligingProvider : CryptoProvider Unit where
  sha256 := some fun _ _ ctx => ((.ok, Vector.replicate 32 0), ctx)
  verifyEcdsaP256Sha256 := some fun _ _ _ _ ctx => (.ok, ctx)

theorem rampartImageParse_handOff_golden :
    (∃ message answer written st ctx' after,
      call (hashPayload obligingProvider (imageViewAt goldenBuffer.start goldenImage))
        ((), some (Vector.replicate 32 1)) = .ok (st, ctx', some after) ∧
      call (hashPayload obligingProvider.logged (imageViewAt goldenBuffer.start goldenImage))
        (((), []), some (Vector.replicate 32 1)) =
        .ok (st, (ctx', [.sha256 message (imageViewAt goldenBuffer.start goldenImage).payloadSize
          answer written]), some after) ∧
      HashesPayload goldenBuffer.bytes (imageViewAt goldenBuffer.start goldenImage)
        (Vector.replicate 32 1) message answer written st after) ∧
    ∃ message key signature answer st ctx',
      call (verifySignature obligingProvider (imageViewAt goldenBuffer.start goldenImage)) () =
        .ok (st, ctx') ∧
      call (verifySignature obligingProvider.logged (imageViewAt goldenBuffer.start goldenImage))
        ((), []) = .ok (st, ctx', [.verifyEcdsaP256Sha256 message
          (imageViewAt goldenBuffer.start goldenImage).signedRegionSize key signature answer]) ∧
      VerifiesSignedRegion goldenBuffer.bytes (imageViewAt goldenBuffer.start goldenImage) message
        key signature answer st :=
  rampartImageParse_handOff goldenBuffer .zero _ (parseImage_golden .zero) obligingProvider _ rfl
    _ rfl () (Vector.replicate 32 1)

end RampartBoot.Core

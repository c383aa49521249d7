import RampartBoot.Core.HandOff
import RampartBoot.Platform.OpensslVerify
import RampartBoot.Platform.ReferenceLibrary

/-! # The OpenSSL adapter behind the wrappers of the core

With `rampart_host_openssl_provider` as the provider, the two wrappers compute SHA-256 and decide
ECDSA signatures, and requests of any number and order leave the library as they found it.
-/

namespace RampartBoot.Platform
open Foundation Format RampartBoot.Core

variable {κ : Type} {lib : Libcrypto κ} {E : Ecdsa} {view : κ → LibraryView E.Point} {cap : ℕ}

def Hashed (E : Ecdsa) (m : List UInt8) (reliable : Prop) (st : Status)
    (after : Vector UInt8 32) : Prop :=
  st = .ok ∧ after = E.sha256 m ∨ st = .cryptoProvider ∧ ¬ reliable

section Callbacks
variable (hl : lib.Lawful E view cap) (context : Option HostOpensslContext)
include hl

theorem call_opensslSha256 {message : Option (Ptr UInt8)} {len : ℕ} {m : List UInt8}
    (hm : messageBytes message len = some m) (digest : Vector UInt8 32) (s : κ) :
    ∃ st t after, call (opensslSha256 lib context message len) (s, some digest) =
        .ok (st, t, some after) ∧
      Hashed E m (lib.Reliable E view (context.bind HostOpensslContext.libraryContext)) st after ∧
      Restored cap (view s) (view t) := by
  have hnull := not_null_of_messageBytes hm
  have hspec : wps (opensslSha256 lib context message len)
      (fun _ t => ∃ after, t.2 = some after ∧ Hashed E m
        (lib.Reliable E view (context.bind HostOpensslContext.libraryContext)) .ok after ∧
        Restored cap (view s) (view t.1))
      (fun st t => ∃ after, t.2 = some after ∧ Hashed E m
        (lib.Reliable E view (context.bind HostOpensslContext.libraryContext)) st after ∧
        Restored cap (view s) (view t.1)) (s, some digest) := by
    unfold opensslSha256
    simp only [wps_bind, wps_get, wps_lift, wp_rejectIf, hnull, false_imp_iff, not_false_eq_true,
      true_imp_iff, true_and, wps_onFst, wps_callback, wps_assign]
    have hmark := effect_errSetMark hl s
    have hzero := (hl.errSetMark s).2
    generalize lib.errSetMark s = marked at *
    obtain ⟨errorMarkSet, s₁⟩ := marked
    dsimp only at hmark hzero ⊢
    have hinput := messageBytes_getD hm
    obtain ⟨heffect, hanswer⟩ := hl.evpQDigest (context.bind HostOpensslContext.libraryContext) _
      len m digest s₁ hinput
    have hrel := fun hr : lib.Reliable E view (context.bind HostOpensslContext.libraryContext) =>
      hr.evpQDigest _ len m digest s₁ hinput
    generalize lib.evpQDigest (context.bind HostOpensslContext.libraryContext) "SHA256"
      (some (message.getD emptyMessage)) len digest s₁ = answer at *
    obtain ⟨⟨result, written, digestLen⟩, s₂⟩ := answer
    dsimp only at heffect hanswer hrel ⊢
    rw [hmark.heap_eq] at heffect
    refine wps_mono (wps_discardProviderErrors hl hzero (hmark.trans heffect)) ?_
      (fun _ _ hf => hf.elim)
    intro _ t hrestored
    refine ⟨fun hfailed => ⟨_, rfl, .inr ⟨rfl, fun hr => ?_⟩, hrestored⟩,
      fun hok => ⟨_, rfl, .inl ⟨rfl, ?_⟩, hrestored⟩⟩
    · obtain ⟨-, rfl⟩ := Prod.mk.inj (hanswer (hrel hr))
      exact hfailed.elim (fun hne => hne (hrel hr)) (fun hne => hne rfl)
    · exact (Prod.mk.inj (hanswer (not_not.mp (not_or.mp hok).1))).1
  obtain ⟨st, ⟨t, _⟩, hcall, after, rfl, hhashed, hrestored⟩ := exists_call hspec fun _ h => h
  exact ⟨st, t, after, hcall, hhashed, hrestored⟩

theorem exists_sha256 : ∃ sha256, (rampartHostOpensslProvider lib context).sha256 = some sha256 ∧
    ∀ message len m s, messageBytes message len = some m →
      Hashed E m (lib.Reliable E view (context.bind HostOpensslContext.libraryContext))
        (sha256 message len s).1.1 (sha256 message len s).1.2 ∧
      Restored cap (view s) (view (sha256 message len s).2) := by
  refine ⟨_, rfl, fun message len m s hm => ?_⟩
  obtain ⟨st, t, after, hcall, hspec⟩ :=
    call_opensslSha256 hl context hm (Vector.replicate 32 0) s
  rw [hcall]
  exact hspec

theorem exists_verify :
    ∃ verify, (rampartHostOpensslProvider lib context).verifyEcdsaP256Sha256 = some verify ∧
    ∀ message len m p q key signature s, messageBytes message len = some m →
      p.Points (Vector.toList key) → q.Points (Vector.toList signature) →
      Verdict (E.Accepts (Vector.toList (n := 65) key) m (Vector.toList (n := 64) signature))
        (lib.ReportsEncoding E view)
        (lib.Reliable E view (context.bind HostOpensslContext.libraryContext))
        (verify message len (some p) (some q) s).1 ∧
      Restored cap (view s) (view (verify message len (some p) (some q) s).2) := by
  refine ⟨_, rfl, fun message len m p q key signature s hm hp hq => ?_⟩
  obtain ⟨st, t, hcall, hspec⟩ := call_opensslVerify hl context hm hp hq s
  rw [hcall]
  exact hspec

/-- Over a library without failures the hash callback computes SHA-256. -/
theorem computes_openssl
    (hr : lib.Reliable E view (context.bind HostOpensslContext.libraryContext)) :
    (rampartHostOpensslProvider lib context).Computes fun m => some (E.sha256 m) := by
  obtain ⟨sha256, hsha, hspec⟩ := exists_sha256 hl context
  unfold CryptoProvider.Computes
  rw [hsha]
  intro message len m s hm
  rcases (hspec message len m s hm).1 with ⟨hok, hdigest⟩ | ⟨-, hunreliable⟩
  · exact Prod.ext hok hdigest
  · exact absurd hr hunreliable

end Callbacks

/-- P-256 and SHA-256 as far as the golden image is concerned: its key is the only one that
decodes, and its signed region the only message with a signature. -/
def goldenEcdsa : Ecdsa where
  Point := Unit
  decode key := if key = goldenImage.publicKey.toList then some () else none
  order := 0xffffffff00000000ffffffffffffffffbce6faada7179e84f3b9cac2fc632551
  order_lt := by decide
  sha256 m := (goldenHash m).getD (Vector.replicate 32 0)
  Verifies _ m r s := m = goldenImage.signedRegion ∧
    r = beValue (goldenImage.signature.toList.take 32) ∧
    s = beValue (goldenImage.signature.toList.drop 32)

instance (point : goldenEcdsa.Point) (m : List UInt8) (r s : ℕ) :
    Decidable (goldenEcdsa.Verifies point m r s) :=
  inferInstanceAs (Decidable (_ ∧ _ ∧ _))

instance : Nonempty goldenEcdsa.Point := ⟨()⟩

def goldenLibrary : ReferenceState goldenEcdsa.Point := ⟨[], [⟨1, 0⟩], 1, by decide⟩

theorem goldenEcdsa_accepts : goldenEcdsa.Accepts goldenImage.publicKey.toList
    goldenImage.signedRegion goldenImage.signature.toList := by
  refine ⟨rfl, ⟨by decide, by decide, by decide, by decide⟩, (), ?_, rfl, rfl, rfl⟩
  change (if goldenImage.publicKey.toList = goldenImage.publicKey.toList then some () else none) = _
  rw [if_pos rfl]
  rfl

def Ecdsa.Signs (E : Ecdsa) (key message signature : List UInt8) : Prop :=
  key.length = 65 ∧ signature.length = 64 ∧ E.Accepts key message signature

structure HashReply (E : Ecdsa) (m : List UInt8) (algorithm : UInt16) (digestLen : ℕ)
    (before after : Option (Vector UInt8 32)) (reliable : Prop) (st : Status) : Prop where
  ok : st = .ok → algorithm = 1 ∧ digestLen = 32 ∧ before.isSome ∧ after = some (E.sha256 m)
  failed : st ≠ .ok → after = before
  provider : st = .cryptoProvider → ¬ reliable
  complete : reliable → before.isSome → algorithm = 1 → digestLen = 32 → st = .ok

structure VerifyReply (signs reports reliable : Prop) (algorithm : UInt16) (st : Status) :
    Prop where
  ok : st = .ok → algorithm = 1 ∧ signs
  signature : st = .signature → reports → ¬ signs
  provider : st = .cryptoProvider → ¬ reliable
  complete : reliable → (st = .ok ↔ algorithm = 1 ∧ signs)

/-- A request that is turned down before the callback changes nothing. -/
theorem HashReply.refused {m : List UInt8} {algorithm : UInt16} {digestLen : ℕ}
    {before : Option (Vector UInt8 32)} {reliable : Prop} {st : Status} (hst : st ≠ .ok)
    (hprov : st ≠ .cryptoProvider) (h : ¬ (before.isSome ∧ algorithm = 1 ∧ digestLen = 32)) :
    HashReply E m algorithm digestLen before before reliable st where
  ok hok := absurd hok hst
  failed _ := rfl
  provider hp := absurd hp hprov
  complete _ hbefore halgorithm hlen := absurd ⟨hbefore, halgorithm, hlen⟩ h

namespace VerifyReply

variable {signs accepted reports reliable : Prop} {algorithm : UInt16} {st : Status}

theorem refused (hst : st ≠ .ok) (hprov : st ≠ .cryptoProvider)
    (hsig : st = .signature → ¬ signs) (h : ¬ (algorithm = 1 ∧ signs)) :
    VerifyReply signs reports reliable algorithm st where
  ok hok := absurd hok hst
  signature hs _ := hsig hs
  provider hp := absurd hp hprov
  complete _ := ⟨fun hok => absurd hok hst, fun hs => absurd hs h⟩

theorem of_verdict (h : Verdict accepted reports reliable st) (hreports : reliable → reports)
    (hsigns : signs ↔ accepted) : VerifyReply signs reports reliable 1 st where
  ok hok := ⟨rfl, hsigns.mpr (h.ok hok)⟩
  signature hs hr hsig := h.signature hs hr (hsigns.mp hsig)
  provider := h.provider
  complete hr := (h.ok_iff (hreports hr) hr).trans
    ⟨fun ha => ⟨rfl, hsigns.mpr ha⟩, fun ha => hsigns.mp ha.2⟩

end VerifyReply

section Wrappers
variable (hl : lib.Lawful E view cap) (context : Option HostOpensslContext)
include hl

/-- A hash request leaves SHA-256 of its message or the digest buffer as it was. -/
theorem hash_reply (algorithm : UInt16) {message : Option (Ptr UInt8)} {len : ℕ}
    {m : List UInt8} (hm : messageBytes message len = some m) (digestLen : ℕ)
    (digest : Option (Vector UInt8 32)) (s : κ) :
    ∃ st t after, call (rampartCryptoHash (some (rampartHostOpensslProvider lib context)) algorithm
        message len digestLen) (s, digest) = .ok (st, t, after) ∧
      HashReply E m algorithm digestLen digest after
        (lib.Reliable E view (context.bind HostOpensslContext.libraryContext)) st ∧
      Restored cap (view s) (view t) := by
  have hsame : Restored cap (view s) (view s) := .of_eq (hl.bounded s) rfl
  have hnull := not_null_of_messageBytes hm
  obtain ⟨sha256, hsha, hspec⟩ := exists_sha256 hl context
  suffices h : wps (rampartCryptoHash (some (rampartHostOpensslProvider lib context)) algorithm
      message len digestLen)
      (fun _ t => HashReply E m algorithm digestLen digest t.2
        (lib.Reliable E view (context.bind HostOpensslContext.libraryContext)) .ok ∧
        Restored cap (view s) (view t.1))
      (fun st t => HashReply E m algorithm digestLen digest t.2
        (lib.Reliable E view (context.bind HostOpensslContext.libraryContext)) st ∧
        Restored cap (view s) (view t.1)) (s, digest) by
    obtain ⟨st, ⟨t, after⟩, hcall, hreply⟩ := exists_call h fun _ h => h
    exact ⟨st, t, after, hcall, hreply⟩
  unfold rampartCryptoHash
  rw [wps_bind, wps_get]
  rcases digest with - | before
  · exact ⟨.refused (by decide) (by decide) (fun h => absurd h.1 (by decide)), hsame⟩
  simp only [wps_bind, wps_lift, wp_rejectIf, hsha, hnull, false_imp_iff, true_and,
    not_false_eq_true, true_imp_iff, wps_onFst, wps_callback, copySha256Digest_eq, wp_ok, wps_get,
    wps_set]
  refine ⟨fun halgorithm => ⟨.refused (by decide) (by decide) (fun h => halgorithm h.2.1), hsame⟩,
    fun halgorithm => ⟨fun hlen => ⟨.refused (by decide) (by decide) (fun h => hlen h.2.2), hsame⟩,
      fun hlen => ?_⟩⟩
  obtain rfl := not_not.mp halgorithm
  obtain rfl := not_not.mp hlen
  obtain ⟨hhashed, hrestored⟩ := hspec message len m s hm
  constructor
  · intro hfailed
    rcases hhashed with ⟨hok, -⟩ | ⟨-, hunreliable⟩
    · exact absurd hok hfailed
    · exact ⟨⟨fun h => (by cases h), fun _ => rfl, fun _ => hunreliable,
        fun hr => absurd hr hunreliable⟩, hrestored⟩
  · intro hok
    rcases hhashed with ⟨-, hdigest⟩ | ⟨hprov, -⟩
    · exact ⟨⟨fun _ => ⟨rfl, rfl, rfl, congrArg some hdigest⟩, fun h => absurd rfl h,
        fun h => (by cases h), fun _ _ _ _ => rfl⟩, hrestored⟩
    · exact absurd hprov (by rw [not_not.mp hok]; decide)

/-- A signature request is answered by the signature equation, whatever its lengths are. -/
theorem verify_reply (algorithm : UInt16) {message : Option (Ptr UInt8)}
    {len : ℕ} {m : List UInt8} (hm : messageBytes message len = some m) {p q : Ptr UInt8}
    {key signature : List UInt8} (hp : p.Points key) (hq : q.Points signature) (s : κ) :
    ∃ st t, call (rampartCryptoVerifySignature (some (rampartHostOpensslProvider lib context))
        algorithm message len (some p) key.length (some q) signature.length) s = .ok (st, t) ∧
      VerifyReply (E.Signs key m signature) (lib.ReportsEncoding E view)
        (lib.Reliable E view (context.bind HostOpensslContext.libraryContext)) algorithm st ∧
      Restored cap (view s) (view t) := by
  have hsame : Restored cap (view s) (view s) := .of_eq (hl.bounded s) rfl
  have hnull := not_null_of_messageBytes hm
  obtain ⟨verify, hverify, hspec⟩ := exists_verify hl context
  refine exists_call (Q := fun _ t => VerifyReply (E.Signs key m signature)
      (lib.ReportsEncoding E view)
      (lib.Reliable E view (context.bind HostOpensslContext.libraryContext)) algorithm .ok ∧
      Restored cap (view s) (view t)) ?_ (fun _ h => h)
  unfold rampartCryptoVerifySignature
  simp only [wps_bind, wps_lift, wp_rejectIf, hverify, Option.isNone_some, Bool.false_eq_true,
    false_or, hnull, false_imp_iff, true_and, not_false_eq_true, true_imp_iff, wps_callback]
  refine ⟨fun halgorithm => ⟨.refused (by decide) (by decide) (fun h => (by cases h))
    (fun h => halgorithm h.1), hsame⟩, fun halgorithm => ⟨fun hlen => ?_, fun hlen => ?_⟩⟩
  · have hsigns : ¬ E.Signs key m signature := fun h => hlen.elim (· h.1) (· h.2.1)
    exact ⟨.refused (by decide) (by decide) (fun _ => hsigns) (fun h => hsigns h.2), hsame⟩
  · obtain rfl := not_not.mp halgorithm
    obtain ⟨hkey, hsig⟩ := not_or.mp hlen
    have hkey := not_not.mp hkey
    have hsig := not_not.mp hsig
    obtain ⟨hverdict, hrestored⟩ := hspec message len m p q ⟨key.toArray, hkey⟩
      ⟨signature.toArray, hsig⟩ s hm hp hq
    have hreply : VerifyReply (E.Signs key m signature) _ _ 1 _ :=
      .of_verdict hverdict Libcrypto.Reliable.reportsEncoding
        ⟨fun h => h.2.2, fun h => ⟨hkey, hsig, h⟩⟩
    refine ⟨fun hst => ⟨hreply, hrestored⟩, fun hst => ⟨fun hne => ?_, fun hok => ?_⟩⟩
    · rcases hverdict.status with h | h | h
      · exact absurd h hne
      · exact absurd (.inl h) hst
      · exact absurd (.inr h) hst
    · exact ⟨not_not.mp hok ▸ hreply, hrestored⟩

end Wrappers

inductive Request where
  | hash (algorithm : UInt16) (message : Option (Ptr UInt8)) (messageLen : ℕ)
      (digest : Option (Vector UInt8 32)) (digestLen : ℕ)
  | verify (algorithm : UInt16) (message : Option (Ptr UInt8)) (messageLen : ℕ)
      (publicKey : Ptr UInt8) (publicKeyLen : ℕ) (signature : Ptr UInt8) (signatureLen : ℕ)

/-- Every buffer of the request can be read over the length that comes with it. -/
def Request.WellFormed : Request → Prop
  | hash _ message messageLen _ _ => (messageBytes message messageLen).isSome
  | verify _ message messageLen publicKey publicKeyLen signature signatureLen =>
    (messageBytes message messageLen).isSome ∧
      (∃ key, publicKey.Points key ∧ key.length = publicKeyLen) ∧
      ∃ sig, signature.Points sig ∧ sig.length = signatureLen

structure Reply where
  status : Status
  digest : Option (Vector UInt8 32)
  deriving DecidableEq, Repr

def serve (lib : Libcrypto κ) (context : Option HostOpensslContext) :
    Request → κ → Except Fault (Reply × κ)
  | .hash algorithm message messageLen digest digestLen, s => do
    let answer ← call (rampartCryptoHash (some (rampartHostOpensslProvider lib context)) algorithm
      message messageLen digestLen) (s, digest)
    pure (⟨answer.1, answer.2.2⟩, answer.2.1)
  | .verify algorithm message messageLen publicKey publicKeyLen signature signatureLen, s => do
    let answer ← call (rampartCryptoVerifySignature (some (rampartHostOpensslProvider lib context))
      algorithm message messageLen (some publicKey) publicKeyLen (some signature) signatureLen) s
    pure (⟨answer.1, none⟩, answer.2)

def serveAll (lib : Libcrypto κ) (context : Option HostOpensslContext) :
    List Request → κ → Except Fault (List Reply × κ)
  | [], s => .ok ([], s)
  | r :: requests, s => do
    let first ← serve lib context r s
    let rest ← serveAll lib context requests first.2
    pure (first.1 :: rest.1, rest.2)

def Request.Answered (E : Ecdsa) (reports reliable : Prop) (reply : Reply) : Request → Prop
  | hash algorithm message messageLen digest digestLen =>
    ∃ m, messageBytes message messageLen = some m ∧
      HashReply E m algorithm digestLen digest reply.digest reliable reply.status
  | verify algorithm message messageLen publicKey publicKeyLen signature signatureLen =>
    ∃ m key sig, messageBytes message messageLen = some m ∧
      (publicKey.Points key ∧ key.length = publicKeyLen) ∧
      (signature.Points sig ∧ sig.length = signatureLen) ∧
      VerifyReply (E.Signs key m sig) reports reliable algorithm reply.status

/-- How many errors each of the requests raises, in a run from `s`. -/
def errorsRaised (lib : Libcrypto κ) (context : Option HostOpensslContext)
    (view : κ → LibraryView E.Point) : List Request → κ → List ℕ
  | [], _ => []
  | r :: requests, s =>
    match serve lib context r s with
    | .ok (_, t) =>
      ((view t).raised - (view s).raised) :: errorsRaised lib context view requests t
    | .error _ => []

/-- Since the view `u`, requests that raised `counts` errors, one number for each, have left the
objects as they were. Of the errors no more is lost than had to make room for those of a single
request. -/
structure LeftAsFound (cap : ℕ) (counts : List ℕ) {P : Type} (u w : LibraryView P) : Prop where
  heap : w.heap = u.heap
  raised : w.raised = u.raised + counts.sum
  errors : w.errors = u.errors.take (cap - counts.foldr max 0)

namespace LeftAsFound

variable {P : Type} {u w x : LibraryView P} {counts : List ℕ}

theorem refl (hu : u.errors.length ≤ cap) : LeftAsFound cap [] u u :=
  ⟨rfl, rfl, (List.take_of_length_le hu).symm⟩

/-- What a request has left in the queue, the later ones find there. -/
theorem cons (h : Restored cap u w) (h' : LeftAsFound cap counts w x) :
    LeftAsFound cap ((w.raised - u.raised) :: counts) u x where
  heap := h'.heap.trans h.heap
  raised := by
    have hraised := h.raised
    rw [h'.raised, List.sum_cons]
    omega
  errors := by
    rw [h'.errors, h.errors, List.take_take, List.foldr_cons, Nat.sub_min_sub_left, max_comm]

end LeftAsFound

section Runs
variable (hl : lib.Lawful E view cap) (context : Option HostOpensslContext)
include hl

theorem exists_serve {r : Request} (hr : r.WellFormed) (s : κ) :
    ∃ reply t, serve lib context r s = .ok (reply, t) ∧
      r.Answered E (lib.ReportsEncoding E view)
        (lib.Reliable E view (context.bind HostOpensslContext.libraryContext)) reply ∧
      Restored cap (view s) (view t) := by
  cases r with
  | hash algorithm message messageLen digest digestLen =>
    obtain ⟨m, hm⟩ := Option.isSome_iff_exists.mp hr
    obtain ⟨st, t, after, hcall, hreply, hrestored⟩ :=
      hash_reply hl context algorithm hm digestLen digest s
    exact ⟨⟨st, after⟩, t, by rw [serve, hcall]; rfl, ⟨m, hm, hreply⟩, hrestored⟩
  | verify algorithm message messageLen publicKey publicKeyLen signature signatureLen =>
    obtain ⟨hmessage, ⟨key, hp, rfl⟩, sig, hq, rfl⟩ := hr
    obtain ⟨m, hm⟩ := Option.isSome_iff_exists.mp hmessage
    obtain ⟨st, t, hcall, hreply, hrestored⟩ := verify_reply hl context algorithm hm hp hq s
    exact ⟨⟨st, none⟩, t, by rw [serve, hcall]; rfl,
      ⟨m, key, sig, hm, ⟨hp, rfl⟩, ⟨hq, rfl⟩, hreply⟩, hrestored⟩

end Runs

theorem golden_message : messageBytes (some ⟨goldenImage.signedRegion, 0⟩)
    goldenImage.signedRegion.length = some goldenImage.signedRegion :=
  messageBytes_of_points (Ptr.points_whole _) rfl

def goldenRequests : List Request :=
  [.hash 1 (some ⟨goldenImage.payload, 0⟩) goldenImage.payload.length (some (Vector.replicate 32 1))
    32,
   .verify 1 (some ⟨goldenImage.signedRegion, 0⟩) goldenImage.signedRegion.length
    ⟨goldenImage.publicKey.toList, 0⟩ 65 ⟨goldenImage.signature.toList, 0⟩ 64]

theorem goldenEcdsa_signs : goldenEcdsa.Signs goldenImage.publicKey.toList
    goldenImage.signedRegion goldenImage.signature.toList := ⟨rfl, rfl, goldenEcdsa_accepts⟩

section Images
variable {p : Ptr UInt8} {g : Image}

theorem slice_publicKey (hp : p.Points g.bytes) :
    slice g.bytes (g.signatureOffset + 112) 65 = g.publicKey.toList :=
  Option.some.inj ((entries_record hp (i := 112) (n := 65) (by decide)).symm.trans
    (imageViewAt_shows hp).publicKey)

theorem slice_signature (hp : p.Points g.bytes) :
    slice g.bytes (g.signatureOffset + 48) 64 = g.signature.toList :=
  Option.some.inj ((entries_record hp (i := 48) (n := 64) (by decide)).symm.trans
    (imageViewAt_shows hp).signature)

theorem hashPayload_openssl (hl : lib.Lawful E view cap) (context : Option HostOpensslContext)
    (hp : p.Points g.bytes) (before : Vector UInt8 32) (s : κ) :
    ∃ st t after, call (hashPayload (rampartHostOpensslProvider lib context) (imageViewAt p g))
        (s, some before) = .ok (st, t, after) ∧
      HashReply E g.payload 1 32 (some before) after
        (lib.Reliable E view (context.bind HostOpensslContext.libraryContext)) st ∧
      Restored cap (view s) (view t) := by
  have hlen := g.bytes_length
  have hoffset : g.signatureOffset = 64 + g.manifest.size + g.payload.length := rfl
  have hslice : slice g.bytes (64 + g.manifest.size) g.payload.length = g.payload :=
    (imageViewAt_shows hp).payload
  have hpayload := hp.sub (i := 64 + g.manifest.size) (n := g.payload.length) (by omega)
  rw [hslice] at hpayload
  rw [hashPayload_imageViewAt hp]
  exact hash_reply hl context 1 (messageBytes_of_points hpayload rfl) 32 (some before) s

theorem verifySignature_openssl (hl : lib.Lawful E view cap)
    (context : Option HostOpensslContext) (hp : p.Points g.bytes) (s : κ) :
    ∃ st t, call (verifySignature (rampartHostOpensslProvider lib context) (imageViewAt p g)) s =
        .ok (st, t) ∧
      VerifyReply (E.Signs g.publicKey.toList g.signedRegion g.signature.toList)
        (lib.ReportsEncoding E view)
        (lib.Reliable E view (context.bind HostOpensslContext.libraryContext)) 1 st ∧
      Restored cap (view s) (view t) := by
  have hlen := g.bytes_length
  have hoffset : g.signatureOffset = 64 + g.manifest.size + g.payload.length := rfl
  have hslice : slice g.bytes 64 (g.manifest.size + g.payload.length) = g.signedRegion :=
    (imageViewAt_shows hp).signedRegion
  have hregion : g.signedRegion.length = g.manifest.size + g.payload.length := by
    rw [← hslice, slice_length_of_le (by omega)]
  have hmessage := hp.sub (i := 64) (n := g.manifest.size + g.payload.length) (by omega)
  have hkey := hp.sub (i := g.signatureOffset + 112) (n := 65) (by omega)
  have hsig := hp.sub (i := g.signatureOffset + 48) (n := 64) (by omega)
  rw [hslice] at hmessage
  rw [slice_publicKey hp, ← Nat.add_assoc] at hkey
  rw [slice_signature hp, ← Nat.add_assoc] at hsig
  have hreply := verify_reply hl context 1 (messageBytes_of_points hmessage hregion) hkey hsig s
  rw [Vector.length_toList, Vector.length_toList] at hreply
  rw [verifySignature_imageViewAt hp]
  exact hreply

end Images

end RampartBoot.Platform

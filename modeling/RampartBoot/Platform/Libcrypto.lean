import RampartBoot.Core.Crypto
import RampartBoot.Foundation.Der
import RampartBoot.Foundation.ErrorMarks
import RampartBoot.Foundation.Footprint

/-! # The interface of libcrypto

The host adapter calls OpenSSL, which is not part of the repository. Its functions are parameters
around a state of the library, and what its documentation says about them is stated over a view
of that state: the live objects and the error queue of the thread.
-/

namespace RampartBoot.Platform
open Foundation RampartBoot.Core

abbrev Handle := ℕ

structure KeyParameters where
  groupName : String
  pubKey : List UInt8
  deriving DecidableEq, Repr

/-- The functions and constants of OpenSSL that the adapter uses. A library context is an address
as well, and `none` is the default one. -/
structure Libcrypto (κ : Type) where
  errLibEc : ℤ
  ecRPointIsNotOnCurve : ℤ
  ecRInvalidEncoding : ℤ
  ecRCoordinatesOutOfRange : ℤ
  errGetLib : UInt64 → ℤ
  errGetReason : UInt64 → ℤ
  errSetMark : κ → ℤ × κ
  errPopToMark : κ → ℤ × κ
  errClearError : κ → Unit × κ
  errPeekLastError : κ → UInt64 × κ
  /-- `EVP_Q_digest`: the result, the digest buffer and the length written. -/
  evpQDigest : Option Handle → String → Option (Ptr UInt8) → ℕ → Vector UInt8 32 → κ →
    (ℤ × Vector UInt8 32 × ℕ) × κ
  evpPkeyCtxNewFromName : Option Handle → String → κ → Option Handle × κ
  evpPkeyFromdataInit : Option Handle → κ → ℤ × κ
  /-- `EVP_PKEY_fromdata` with `EVP_PKEY_PUBLIC_KEY`: the result and the key left behind. -/
  evpPkeyFromdata : Option Handle → KeyParameters → κ → (ℤ × Option Handle) × κ
  /-- `EVP_PKEY_get_bn_param`: the result and the number left behind. -/
  evpPkeyGetBnParam : Option Handle → String → κ → (ℤ × Option Handle) × κ
  bnBin2bn : Option (Ptr UInt8) → ℕ → κ → Option Handle × κ
  bnIsZero : Option Handle → κ → Bool
  bnCmp : Option Handle → Option Handle → κ → ℤ
  ecdsaSigNew : κ → Option Handle × κ
  ecdsaSigSet0 : Option Handle → Option Handle → Option Handle → κ → ℤ × κ
  /-- `i2d_ECDSA_SIG`, with or without a cursor: the result and the bytes written there. -/
  i2dEcdsaSig : Option Handle → Bool → κ → (ℤ × List UInt8) × κ
  evpMdCtxNew : κ → Option Handle × κ
  evpDigestVerifyInitEx : Option Handle → String → Option Handle → Option Handle → κ → ℤ × κ
  evpDigestVerify : Option Handle → List UInt8 → Option (Ptr UInt8) → ℕ → κ → ℤ × κ
  evpMdCtxFree : Option Handle → κ → Unit × κ
  ecdsaSigFree : Option Handle → κ → Unit × κ
  bnFree : Option Handle → κ → Unit × κ
  evpPkeyFree : Option Handle → κ → Unit × κ
  evpPkeyCtxFree : Option Handle → κ → Unit × κ

/-- SHA-256 and ECDSA over P-256, as a verifier sees them. -/
structure Ecdsa where
  Point : Type
  /-- the point of an encoded public key -/
  decode : List UInt8 → Option Point
  order : ℕ
  order_lt : order < 2 ^ 256
  sha256 : List UInt8 → Vector UInt8 32
  /-- the signature equation for a key, a message and two scalars -/
  Verifies : Point → List UInt8 → ℕ → ℕ → Prop

inductive Kind where
  | keyContext
  | key
  | bignum
  | signature
  | digestContext
  deriving DecidableEq, Repr

inductive Object (P : Type) where
  | keyContext
  | key (point : P)
  | bignum (n : ℕ)
  | signature (scalars : Option (ℕ × ℕ))
  | digestContext (key : Option P)

def Object.kind {P : Type} : Object P → Kind
  | keyContext => .keyContext
  | key _ => .key
  | bignum _ => .bignum
  | signature _ => .signature
  | digestContext _ => .digestContext

/-- The live objects, the error queue with its newest entry first, and the number of errors that
have ever been raised. -/
structure LibraryView (P : Type) where
  heap : Heap (Object P)
  errors : List (Marked UInt64)
  raised : ℕ

section View
variable {P : Type} {v w x : LibraryView P} {heap heap' : Heap (Object P)} {cap : ℕ}

/-- A call that leaves the objects `heap` and may raise errors on a queue of `cap` entries. -/
def Effect (cap : ℕ) (v w : LibraryView P) (heap : Heap (Object P)) : Prop :=
  ∃ new, w = ⟨heap, raise cap new v.errors, v.raised + new.length⟩

theorem Effect.heap_eq (h : Effect cap v w heap) : w.heap = heap := by
  obtain ⟨_, rfl⟩ := h
  rfl

theorem Effect.trans (h : Effect cap v w heap) (h' : Effect cap w x heap') :
    Effect cap v x heap' := by
  obtain ⟨older, rfl⟩ := h
  obtain ⟨new, rfl⟩ := h'
  refine ⟨new ++ older, ?_⟩
  rw [raise_raise, List.length_append, Nat.add_assoc, Nat.add_comm older.length]

end View

variable {κ : Type}

def Libcrypto.IsEncodingError (lib : Libcrypto κ) (error : UInt64) : Prop :=
  lib.errGetLib error = lib.errLibEc ∧
    (lib.errGetReason error = lib.ecRPointIsNotOnCurve ∨
      lib.errGetReason error = lib.ecRInvalidEncoding ∨
      lib.errGetReason error = lib.ecRCoordinatesOutOfRange)

def Libcrypto.free (lib : Libcrypto κ) : Kind → Option Handle → κ → Unit × κ
  | .keyContext => lib.evpPkeyCtxFree
  | .key => lib.evpPkeyFree
  | .bignum => lib.bnFree
  | .signature => lib.ecdsaSigFree
  | .digestContext => lib.evpMdCtxFree

/-- The documented behaviour. Every call may fail; what a failed call leaves behind is an effect
as well. Calls on objects of another kind, and on objects that are not live, promise nothing. -/
structure Libcrypto.Lawful (lib : Libcrypto κ) (E : Ecdsa) (view : κ → LibraryView E.Point)
    (cap : ℕ) : Prop where
  bounded : ∀ s, (view s).errors.length ≤ cap
  errSetMark : ∀ s, view (lib.errSetMark s).2 =
      { view s with errors := setMark (view s).errors } ∧
    ((lib.errSetMark s).1 = 0 ↔ (view s).errors = [])
  errPopToMark : ∀ s, view (lib.errPopToMark s).2 =
      { view s with errors := popToMark (view s).errors } ∧
    ((lib.errPopToMark s).1 = 1 ↔ popToMark (view s).errors ≠ [])
  errClearError : ∀ s, view (lib.errClearError s).2 = { view s with errors := [] }
  errPeekLastError : ∀ s, view (lib.errPeekLastError s).2 = view s
  evpQDigest : ∀ context message len m digest s, messageBytes message len = some m →
    let answer := lib.evpQDigest context "SHA256" message len digest s
    Effect cap (view s) (view answer.2) (view s).heap ∧
      (answer.1.1 = 1 → answer.1.2 = (E.sha256 m, 32))
  evpPkeyCtxNewFromName : ∀ context s, let answer := lib.evpPkeyCtxNewFromName context "EC" s
    ∃ heap, Effect cap (view s) (view answer.2) heap ∧
      Allocates (view s).heap heap answer.1 .keyContext
  evpPkeyFromdataInit : ∀ a s, (view s).heap a = some .keyContext →
    Effect cap (view s) (view (lib.evpPkeyFromdataInit (some a) s).2) (view s).heap
  evpPkeyFromdata : ∀ a key s, (view s).heap a = some .keyContext →
    let answer := lib.evpPkeyFromdata (some a) ⟨"P-256", key⟩ s
    ∃ heap point, Effect cap (view s) (view answer.2) heap ∧
      Allocates (view s).heap heap answer.1.2 (.key point) ∧
      (answer.1.1 = 1 → answer.1.2 ≠ none ∧ E.decode key = some point)
  evpPkeyGetBnParam : ∀ a point s, (view s).heap a = some (.key point) →
    let answer := lib.evpPkeyGetBnParam (some a) "order" s
    ∃ heap n, Effect cap (view s) (view answer.2) heap ∧
      Allocates (view s).heap heap answer.1.2 (.bignum n) ∧
      (answer.1.1 = 1 → answer.1.2 ≠ none ∧ n = E.order)
  bnBin2bn : ∀ p len bytes s, entries p len = some bytes →
    let answer := lib.bnBin2bn p len s
    ∃ heap, Effect cap (view s) (view answer.2) heap ∧
      Allocates (view s).heap heap answer.1 (.bignum (beValue bytes))
  bnIsZero : ∀ a n s, (view s).heap a = some (.bignum n) →
    (lib.bnIsZero (some a) s = true ↔ n = 0)
  bnCmp : ∀ a b m n s, (view s).heap a = some (.bignum m) → (view s).heap b = some (.bignum n) →
    (0 ≤ lib.bnCmp (some a) (some b) s ↔ n ≤ m)
  ecdsaSigNew : ∀ s, let answer := lib.ecdsaSigNew s
    ∃ heap, Effect cap (view s) (view answer.2) heap ∧
      Allocates (view s).heap heap answer.1 (.signature none)
  ecdsaSigSet0 : ∀ a b d m n s, (view s).heap a = some (.signature none) →
    (view s).heap b = some (.bignum m) → (view s).heap d = some (.bignum n) →
    let answer := lib.ecdsaSigSet0 (some a) (some b) (some d) s
    (answer.1 = 1 → Effect cap (view s) (view answer.2) (Function.update (Function.update
      (Function.update (view s).heap a (some (.signature (some (m, n))))) b none) d none)) ∧
    (answer.1 ≠ 1 → Effect cap (view s) (view answer.2) (view s).heap)
  i2dEcdsaSig : ∀ a m n cursor s, (view s).heap a = some (.signature (some (m, n))) →
    m < 2 ^ 256 → n < 2 ^ 256 →
    let answer := lib.i2dEcdsaSig (some a) cursor s
    Effect cap (view s) (view answer.2) (view s).heap ∧
      (0 < answer.1.1 → answer.1.1 = (derSignature m n).length) ∧
      answer.1.2.length ≤ (derSignature m n).length ∧
      (0 < answer.1.1 → cursor = true → answer.1.2 = derSignature m n)
  evpMdCtxNew : ∀ s, let answer := lib.evpMdCtxNew s
    ∃ heap, Effect cap (view s) (view answer.2) heap ∧
      Allocates (view s).heap heap answer.1 (.digestContext none)
  evpDigestVerifyInitEx : ∀ a context b point s, (view s).heap a = some (.digestContext none) →
    (view s).heap b = some (.key point) →
    let answer := lib.evpDigestVerifyInitEx (some a) "SHA256" context (some b) s
    ∃ bound, Effect cap (view s) (view answer.2)
        (Function.update (view s).heap a (some (.digestContext bound))) ∧
      (answer.1 = 1 → bound = some point)
  evpDigestVerify : ∀ a point signature message len m s,
    (view s).heap a = some (.digestContext (some point)) → messageBytes message len = some m →
    let answer := lib.evpDigestVerify (some a) signature message len s
    ∃ bound, Effect cap (view s) (view answer.2)
        (Function.update (view s).heap a (some (.digestContext bound))) ∧
      ∀ r r', r < 2 ^ 256 → r' < 2 ^ 256 → signature = derSignature r r' →
        (answer.1 = 1 → E.Verifies point m r r') ∧ (answer.1 = 0 → ¬ E.Verifies point m r r')
  free_null : ∀ kind s, view (lib.free kind none s).2 = view s
  free : ∀ a o s, (view s).heap a = some o →
    Effect cap (view s) (view (lib.free o.kind (some a) s).2)
      (Function.update (view s).heap a none)

/-- An encoding error in front of the queue after a failed import is about the imported key. No
documentation says so: where memory runs out, an older error may still be in front. -/
def Libcrypto.ReportsEncoding (lib : Libcrypto κ) (E : Ecdsa)
    (view : κ → LibraryView E.Point) : Prop :=
  ∀ a key s, (view s).heap a = some .keyContext → key.head? = some 0x04 →
    let answer := lib.evpPkeyFromdata (some a) ⟨"P-256", key⟩ s
    answer.1.1 ≠ 1 → lib.IsEncodingError (lib.errPeekLastError answer.2).1 → E.decode key = none

/-- A library that never fails for a reason of its own, used under a given library context. -/
structure Libcrypto.Reliable (lib : Libcrypto κ) (E : Ecdsa) (view : κ → LibraryView E.Point)
    (context : Option Handle) : Prop where
  evpQDigest : ∀ message len m digest s, messageBytes message len = some m →
    (lib.evpQDigest context "SHA256" message len digest s).1.1 = 1
  evpPkeyCtxNewFromName : ∀ s, (lib.evpPkeyCtxNewFromName context "EC" s).1 ≠ none
  evpPkeyFromdataInit : ∀ a s, (view s).heap a = some .keyContext →
    (lib.evpPkeyFromdataInit (some a) s).1 = 1
  /-- An uncompressed key that is not imported is badly encoded, and is reported so. -/
  evpPkeyFromdata : ∀ a key s, (view s).heap a = some .keyContext → key.head? = some 0x04 →
    let answer := lib.evpPkeyFromdata (some a) ⟨"P-256", key⟩ s
    answer.1.1 = 1 ∨
      E.decode key = none ∧ lib.IsEncodingError (lib.errPeekLastError answer.2).1
  evpPkeyGetBnParam : ∀ a point s, (view s).heap a = some (.key point) →
    (lib.evpPkeyGetBnParam (some a) "order" s).1.1 = 1
  bnBin2bn : ∀ p len bytes s, entries p len = some bytes → (lib.bnBin2bn p len s).1 ≠ none
  ecdsaSigNew : ∀ s, (lib.ecdsaSigNew s).1 ≠ none
  ecdsaSigSet0 : ∀ a b d m n s, (view s).heap a = some (.signature none) →
    (view s).heap b = some (.bignum m) → (view s).heap d = some (.bignum n) →
    (lib.ecdsaSigSet0 (some a) (some b) (some d) s).1 = 1
  i2dEcdsaSig : ∀ a scalars cursor s, (view s).heap a = some (.signature (some scalars)) →
    0 < (lib.i2dEcdsaSig (some a) cursor s).1.1
  evpMdCtxNew : ∀ s, (lib.evpMdCtxNew s).1 ≠ none
  evpDigestVerifyInitEx : ∀ a b point s, (view s).heap a = some (.digestContext none) →
    (view s).heap b = some (.key point) →
    (lib.evpDigestVerifyInitEx (some a) "SHA256" context (some b) s).1 = 1
  evpDigestVerify : ∀ a point r r' message len m s,
    (view s).heap a = some (.digestContext (some point)) → messageBytes message len = some m →
    0 < r → r < E.order → 0 < r' → r' < E.order →
    let answer := lib.evpDigestVerify (some a) (derSignature r r') message len s
    answer.1 = 1 ∨ answer.1 = 0

theorem Libcrypto.Reliable.reportsEncoding {lib : Libcrypto κ} {E : Ecdsa}
    {view : κ → LibraryView E.Point} {context : Option Handle}
    (h : lib.Reliable E view context) : lib.ReportsEncoding E view := by
  intro a key s ha htag answer hfailed _
  rcases h.evpPkeyFromdata a key s ha htag with hone | ⟨hdecode, -⟩
  · exact absurd hone hfailed
  · exact hdecode

end RampartBoot.Platform

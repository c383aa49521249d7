import RampartBoot.Platform.Libcrypto

/-! # The OpenSSL adapter of the host

`rampart_host_openssl_provider` fills the provider of the portable core with two callbacks. The
verification decodes the raw key and signature into objects of the library, which it releases on
one common exit, and keeps its own errors out of the queue of the calling thread.
-/

namespace RampartBoot.Platform
open Foundation RampartBoot.Core

variable {κ : Type}

structure HostOpensslContext where
  libraryContext : Option Handle
  deriving DecidableEq, Repr

def discardProviderErrors (lib : Libcrypto κ) (errorMarkSet : ℤ) : Prog κ Status Unit :=
  if errorMarkSet = 0 then callback lib.errClearError
  else do
    let popped ← callback lib.errPopToMark
    if popped ≠ 1 then callback lib.errClearError else pure ()

/-- The byte that stands for a `NULL` message. -/
def emptyMessage : Ptr UInt8 := ⟨[0], 0⟩

/-- `openssl_sha256`; the state holds the library and what `digest` points to. -/
def opensslSha256 (lib : Libcrypto κ) (context : Option HostOpensslContext)
    (message : Option (Ptr UInt8)) (messageLen : ℕ) :
    Prog (κ × Option (Vector UInt8 32)) Status Unit := do
  let s ← get
  match s.2 with
  | none => exit Status.cryptoProvider
  | some digest =>
    rejectIf (message.isNone ∧ messageLen ≠ 0) Status.cryptoProvider
    let libraryContext := context.bind HostOpensslContext.libraryContext
    let input := some (message.getD emptyMessage)
    let errorMarkSet ← onFst (callback lib.errSetMark)
    let answer ← onFst (callback (lib.evpQDigest libraryContext "SHA256" input messageLen digest))
    assign fun _ => some answer.2.1
    onFst (discardProviderErrors lib errorMarkSet)
    rejectIf (answer.1 ≠ 1 ∨ answer.2.2 ≠ 32) Status.cryptoProvider

def keyImportFailure (lib : Libcrypto κ) : Prog κ Unit Status := do
  let error ← callback lib.errPeekLastError
  let reason := lib.errGetReason error
  if lib.errGetLib error = lib.errLibEc ∧ (reason = lib.ecRPointIsNotOnCurve ∨
      reason = lib.ecRInvalidEncoding ∨ reason = lib.ecRCoordinatesOutOfRange) then
    pure .signature
  else pure .cryptoProvider

/-- The local variables of `openssl_verify` that its common exit looks at. -/
structure VerifyLocals where
  keyContext : Option Handle
  key : Option Handle
  digestContext : Option Handle
  ecdsaSignature : Option Handle
  scalarR : Option Handle
  scalarS : Option Handle
  order : Option Handle
  status : Status
  deriving DecidableEq, Repr

def VerifyLocals.init : VerifyLocals :=
  ⟨none, none, none, none, none, none, none, .cryptoProvider⟩

/-- `openssl_verify`, from the key context to the imported key. -/
def importKey (lib : Libcrypto κ) (libraryContext : Option Handle) (encodedKey : Vector UInt8 65) :
    Prog (κ × VerifyLocals) Unit Unit := do
  let keyContext ← onFst (callback (lib.evpPkeyCtxNewFromName libraryContext "EC"))
  assign fun l => { l with keyContext := keyContext }
  leaveIf (keyContext = none)
  let initialised ← onFst (callback (lib.evpPkeyFromdataInit keyContext))
  leaveIf (initialised ≠ 1)
  let imported ← onFst
    (callback (lib.evpPkeyFromdata keyContext ⟨"P-256", encodedKey.toList⟩))
  assign fun l => { l with key := imported.2 }
  if imported.1 ≠ 1 then do
    let status ← onFst (keyImportFailure lib)
    assign fun l => { l with status := status }
    exit ()
  else pure ()

/-- `openssl_verify`, the two scalars of the signature and their range. -/
def readScalars (lib : Libcrypto κ) (signature : Option (Ptr UInt8)) :
    Prog (κ × VerifyLocals) Unit Unit := do
  let s ← get
  let order ← onFst (callback (lib.evpPkeyGetBnParam s.2.key "order"))
  assign fun l => { l with order := order.2 }
  leaveIf (order.1 ≠ 1)
  let scalarR ← onFst (callback (lib.bnBin2bn signature 32))
  assign fun l => { l with scalarR := scalarR }
  let second ← address (ε := Unit) signature 32
  let scalarS ← onFst (callback (lib.bnBin2bn second 32))
  assign fun l => { l with scalarS := scalarS }
  leaveIf (scalarR = none ∨ scalarS = none)
  let t ← get
  if lib.bnIsZero scalarR t.1 ∨ lib.bnIsZero scalarS t.1 ∨ 0 ≤ lib.bnCmp scalarR order.2 t.1 ∨
      0 ≤ lib.bnCmp scalarS order.2 t.1 then do
    assign fun l => { l with status := .signature }
    exit ()
  else pure ()

/-- `openssl_verify`, the DER form of the signature: the first `der_len` bytes of `der`. -/
def encodeSignature (lib : Libcrypto κ) : Prog (κ × VerifyLocals) Unit (List UInt8) := do
  let s ← get
  let ecdsaSignature ← onFst (callback lib.ecdsaSigNew)
  assign fun l => { l with ecdsaSignature := ecdsaSignature }
  leaveIf (ecdsaSignature = none)
  let owned ← onFst (callback (lib.ecdsaSigSet0 ecdsaSignature s.2.scalarR s.2.scalarS))
  leaveIf (owned ≠ 1)
  -- only from here on the signature releases the scalars
  assign fun l => { l with scalarR := none, scalarS := none }
  let announced ← onFst (callback (lib.i2dEcdsaSig ecdsaSignature false))
  let derLen := announced.1
  leaveIf (derLen ≤ 0 ∨ 72 < derLen)
  let written ← onFst (callback (lib.i2dEcdsaSig ecdsaSignature true))
  let der ← (if written.2.length ≤ 72 then pure written.2 else fault .store :
    Checked Unit (List UInt8))
  leaveIf (written.1 ≠ derLen)
  if derLen.toNat ≤ der.length then pure (der.take derLen.toNat) else fault (ε := Unit) .load

/-- `openssl_verify`, the verification of the message. -/
def verifyMessage (lib : Libcrypto κ) (libraryContext : Option Handle) (der : List UInt8)
    (message : Option (Ptr UInt8)) (messageLen : ℕ) : Prog (κ × VerifyLocals) Unit Unit := do
  let digestContext ← onFst (callback lib.evpMdCtxNew)
  assign fun l => { l with digestContext := digestContext }
  leaveIf (digestContext = none)
  let s ← get
  let initialised ← onFst
    (callback (lib.evpDigestVerifyInitEx digestContext "SHA256" libraryContext s.2.key))
  leaveIf (initialised ≠ 1)
  let result ← onFst (callback (lib.evpDigestVerify digestContext der message messageLen))
  if result = 1 then assign fun l => { l with status := .ok }
  else if result = 0 then assign fun l => { l with status := .signature }
  else pure ()

/-- `openssl_verify` between the error mark and `cleanup`. -/
def verifyBody (lib : Libcrypto κ) (libraryContext : Option Handle) (message : Option (Ptr UInt8))
    (messageLen : ℕ) (encodedKey : Vector UInt8 65) (signature : Option (Ptr UInt8)) :
    Prog (κ × VerifyLocals) Unit Unit := do
  importKey lib libraryContext encodedKey
  readScalars lib signature
  let der ← encodeSignature lib
  verifyMessage lib libraryContext der message messageLen

/-- `openssl_verify` from `cleanup` on. -/
def verifyCleanup (lib : Libcrypto κ) (errorMarkSet : ℤ) (l : VerifyLocals) :
    Prog κ Status Unit := do
  callback (lib.evpMdCtxFree l.digestContext)
  callback (lib.ecdsaSigFree l.ecdsaSignature)
  callback (lib.bnFree l.scalarR)
  callback (lib.bnFree l.scalarS)
  callback (lib.bnFree l.order)
  callback (lib.evpPkeyFree l.key)
  callback (lib.evpPkeyCtxFree l.keyContext)
  discardProviderErrors lib errorMarkSet
  rejectIf (l.status ≠ .ok) l.status

/-- The loop of `openssl_verify` that copies the key into `encoded_key`. -/
def copyKey (publicKey : Option (Ptr UInt8)) : Checked Status (Vector UInt8 65) :=
  forFrom (fun index (encodedKey : Vector UInt8 65) => do
    let byte ← load publicKey index
    if h : index < 65 then pure (encodedKey.set index byte) else fault .store)
    0 65 (Vector.replicate 65 0)

def opensslVerify (lib : Libcrypto κ) (context : Option HostOpensslContext)
    (message : Option (Ptr UInt8)) (messageLen : ℕ) (publicKey signature : Option (Ptr UInt8)) :
    Prog κ Status Unit := do
  rejectIf (publicKey.isNone ∨ signature.isNone ∨ message.isNone ∧ messageLen ≠ 0)
    Status.cryptoProvider
  let tag ← load (ε := Status) publicKey 0
  rejectIf (tag ≠ 0x04) Status.signature
  let libraryContext := context.bind HostOpensslContext.libraryContext
  let input := some (message.getD emptyMessage)
  let encodedKey ← copyKey publicKey
  let errorMarkSet ← callback lib.errSetMark
  withCleanup (verifyBody lib libraryContext input messageLen encodedKey signature)
    VerifyLocals.init (verifyCleanup lib errorMarkSet)

/-- `rampart_host_openssl_provider`. A call with a fault has no answer; the wrappers of the core
never make one. -/
def rampartHostOpensslProvider (lib : Libcrypto κ) (context : Option HostOpensslContext) :
    CryptoProvider κ where
  sha256 := some fun message messageLen s =>
    match call (opensslSha256 lib context message messageLen) (s, some (Vector.replicate 32 0)) with
    | .ok (st, t, some digest) => ((st, digest), t)
    | _ => ((.cryptoProvider, Vector.replicate 32 0), s)
  verifyEcdsaP256Sha256 := some fun message messageLen publicKey signature s =>
    match call (opensslVerify lib context message messageLen publicKey signature) s with
    | .ok answer => answer
    | .error _ => (.cryptoProvider, s)

end RampartBoot.Platform

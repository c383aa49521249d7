import RampartBoot.Core.Crypto
import RampartBoot.Core.Manifest

/-! # The trust store

`rampart_trust_store_validate` checks every record of a caller's store, and
`rampart_trust_authorize` decides one request against a store that has just been validated.
-/

namespace RampartBoot.Core
open Foundation

variable {κ : Type}

structure TrustRecord where
  roles : UInt32
  keyEpoch : UInt32
  algorithm : UInt16
  status : UInt16
  keyId : Vector UInt8 8
  publicKey : Vector UInt8 65
  deriving DecidableEq, Repr

/-- `struct rampart_trust_store`. The caller owns the complete array, as far as a count in
range says; a count out of range promises nothing. -/
structure TrustStore where
  records : Option (Ptr TrustRecord)
  count : ℕ
  complete : ∀ p, records = some p → count ≤ 16 → p.off + count ≤ p.obj.length

/-- `struct rampart_trust_request`. A key ID of the right length can be read. -/
structure TrustRequest where
  keyId : Option (Ptr UInt8)
  keyIdLen : ℕ
  requiredRole : UInt16
  manifestRole : UInt16
  lifecycle : UInt16
  readable : ∀ p, keyId = some p → keyIdLen = 8 → p.off + 8 ≤ p.obj.length

structure TrustResult where
  record : Option (Ptr TrustRecord)
  deriving DecidableEq, Repr

def trustRole (role : UInt16) : UInt32 := 1 <<< role.toUInt32

def trustRolesAll : UInt32 :=
  trustRole 1 ||| trustRole 2 ||| trustRole 3 ||| trustRole 4 ||| trustRole 5 ||| trustRole 6

def arrayStart {n : ℕ} (v : Vector UInt8 n) : Option (Ptr UInt8) := some ⟨v.toList, 0⟩

def keyIdsEqual {ε : Type} (left right : Option (Ptr UInt8)) : Checked ε Bool :=
  compareLoop left right 8

def validRecordShape (record : TrustRecord) : Bool :=
  record.algorithm == 1 && record.publicKey[0] == 0x04 && record.roles != 0 &&
    record.roles &&& ~~~trustRolesAll == 0 &&
    (record.status == 1 || record.status == 2 || record.status == 3 || record.status == 4)

/-- The inner loop of `rampart_trust_store_validate` over the records before `index`. -/
def rejectRepeated (store : TrustStore) (record : TrustRecord) (index : ℕ) :
    Checked Status Unit :=
  forFrom (fun previous (_ : Unit) => do
    let other ← load store.records previous
    let repeated ← keyIdsEqual (arrayStart record.keyId) (arrayStart other.keyId)
    rejectIf repeated .trustStore) 0 index ()

/-- One round of the loop in `rampart_trust_store_validate`, for the record at `index`. -/
def validateRecord (store : TrustStore) (provider : CryptoProvider κ) (index : ℕ)
    (digest : Vector UInt8 32) : Prog κ Status (Vector UInt8 32) := do
  let record ← load (ε := Status) store.records index
  rejectIf (!validRecordShape record) Status.trustStore
  let digest ← withOut
    (rampartCryptoHash (some provider) 1 (arrayStart record.publicKey) 65 32) digest
  let derived ← keyIdsEqual (ε := Status) (arrayStart record.keyId) (arrayStart digest)
  rejectIf (!derived) Status.trustStore
  rejectRepeated store record index
  pure digest

/-- `rampart_trust_store_validate`. The local digest buffer starts without a defined content;
it is only read after a successful hash has filled it. -/
def rampartTrustStoreValidate (store : Option TrustStore) (provider : Option (CryptoProvider κ)) :
    Prog κ Status Unit := do
  match store, provider with
  | some store, some provider =>
    rejectIf (store.records.isNone || store.count == 0 || decide (store.count > 16))
      Status.trustStore
    let _ ← forFrom (validateRecord store provider) 0 store.count (Vector.replicate 32 0)
    pure ()
  | _, _ => exit Status.invalidArgument

/-- `valid_role`, which repeats `valid_key_role` of `manifest.c`. -/
def validRole (role : UInt16) : Bool := validKeyRole role

/-- The lookup loop of `rampart_trust_authorize`, which ends at the first match. -/
def findRecord (store : TrustStore) (request : TrustRequest) : Checked Status (Option ℕ) :=
  findFrom (fun index => do
    let record ← load store.records index
    keyIdsEqual (arrayStart record.keyId) request.keyId) 0 store.count

/-- The second half of `rampart_trust_authorize`: the decision about the matched record. -/
def authorizeRecord (request : TrustRequest) (record : TrustRecord) : Checked Status Unit := do
  rejectIf (record.status = 2) .keyRevoked
  rejectIf (record.status = 3) .keyExpired
  rejectIf (request.lifecycle = 2 ∧ (record.status = 4 ∨ request.requiredRole = 6)) .keyLifecycle
  rejectIf (request.manifestRole ≠ request.requiredRole ∨
    record.roles &&& trustRole request.requiredRole = 0) .keyRole

/-- What `rampart_trust_authorize` does once the store has been validated. -/
def authorizeValidated (store : TrustStore) (request : TrustRequest) :
    Prog (κ × Option TrustResult) Status Unit := do
  let found ← findRecord store request
  match found with
  | none => exit Status.keyUnknown
  | some index =>
    let matched ← address (ε := Status) store.records index
    let record ← load (ε := Status) matched 0
    authorizeRecord request record
    let s ← get
    set (s.1, some (TrustResult.mk matched))

/-- `rampart_trust_authorize`; the state holds the provider's context and what `result`
points to. -/
def rampartTrustAuthorize (store : Option TrustStore) (provider : Option (CryptoProvider κ))
    (request : Option TrustRequest) : Prog (κ × Option TrustResult) Status Unit := do
  let s ← get
  match store, provider, request, s.2 with
  | some store, some provider, some request, some _ =>
    rejectIf (request.keyId.isNone || request.keyIdLen != 8 || !validRole request.requiredRole ||
      !validRole request.manifestRole || (request.lifecycle != 1 && request.lifecycle != 2))
      Status.invalidArgument
    onFst (rampartTrustStoreValidate (some store) (some provider))
    authorizeValidated store request
  | _, _, _, _ => exit Status.invalidArgument

end RampartBoot.Core

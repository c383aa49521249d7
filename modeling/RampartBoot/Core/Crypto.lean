import RampartBoot.Core.Binary
import RampartBoot.Foundation.Simulation
import Mathlib.Data.Option.Defs

/-! # The crypto wrappers

A provider is a record of callbacks around a context of its own. The wrappers check their
arguments, call the provider and narrow what it answers. Nothing is assumed of a provider:
each callback may change the context, fill the digest buffer and return any status.
-/

namespace RampartBoot.Core
open Foundation

variable {κ : Type}

/-- `rampart_crypto_sha256_fn`: the status returned and the digest buffer left behind. -/
abbrev Sha256Fn (κ : Type) := Option (Ptr UInt8) → ℕ → κ → (Status × Vector UInt8 32) × κ

abbrev EcdsaP256Sha256VerifyFn (κ : Type) :=
  Option (Ptr UInt8) → ℕ → Option (Ptr UInt8) → Option (Ptr UInt8) → κ → Status × κ

/-- `struct rampart_crypto_provider`; the context `κ` is part of the state of a call. -/
structure CryptoProvider (κ : Type) where
  sha256 : Option (Sha256Fn κ)
  verifyEcdsaP256Sha256 : Option (EcdsaP256Sha256VerifyFn κ)

def copySha256Digest (destination source : Vector UInt8 32) :
    Checked Status (Vector UInt8 32) :=
  forFrom (fun index d =>
    if h : index < 32 then pure (d.set index source[index]) else fault .store) 0 32 destination

/-- `rampart_crypto_hash`; the state holds the context and what `digest` points to. -/
def rampartCryptoHash (provider : Option (CryptoProvider κ)) (algorithm : UInt16)
    (message : Option (Ptr UInt8)) (messageLen digestLen : ℕ) :
    Prog (κ × Option (Vector UInt8 32)) Status Unit := do
  let s ← get
  match provider, s.2 with
  | some provider, some digest =>
    rejectIf (message.isNone ∧ messageLen ≠ 0) Status.invalidArgument
    rejectIf (algorithm ≠ 1) Status.unsupportedAlgorithm
    rejectIf (digestLen ≠ 32) Status.invalidArgument
    match provider.sha256 with
    | none => exit Status.cryptoProvider
    | some sha256 =>
      let answer ← onFst (callback (sha256 message messageLen))
      rejectIf (answer.1 ≠ .ok) Status.cryptoProvider
      let copied ← copySha256Digest digest answer.2
      let t ← get
      set (t.1, some copied)
  | _, _ => exit Status.invalidArgument

def rampartCryptoVerifySignature (provider : Option (CryptoProvider κ)) (algorithm : UInt16)
    (message : Option (Ptr UInt8)) (messageLen : ℕ) (publicKey : Option (Ptr UInt8))
    (publicKeyLen : ℕ) (signature : Option (Ptr UInt8)) (signatureLen : ℕ) :
    Prog κ Status Unit := do
  match provider with
  | none => exit Status.invalidArgument
  | some provider =>
    rejectIf (publicKey.isNone ∨ signature.isNone ∨ message.isNone ∧ messageLen ≠ 0)
      Status.invalidArgument
    rejectIf (algorithm ≠ 1) Status.unsupportedAlgorithm
    rejectIf (publicKeyLen ≠ 65 ∨ signatureLen ≠ 64) Status.signature
    match provider.verifyEcdsaP256Sha256 with
    | none => exit Status.cryptoProvider
    | some verify =>
      let status ← callback (verify message messageLen publicKey signature)
      rejectIf (status = .signature ∨ status = .cryptoProvider) status
      rejectIf (status ≠ .ok) Status.cryptoProvider

theorem copySha256Digest_eq (destination source : Vector UInt8 32) :
    copySha256Digest destination source = .ok source := by
  -- the entries below the index have been copied
  let copied (i : ℕ) (d : Vector UInt8 32) : Prop := ∀ k (hk : k < 32), k < i → d[k] = source[k]
  have hstep : ∀ i d, 0 ≤ i → i < 0 + 32 → copied i d →
      wp (if h : i < 32 then pure (d.set i source[i]) else fault .store : Checked Status _)
        (copied (i + 1)) (fun _ => False) := by
    intro i d _ hi hd
    have h32 : i < 32 := by omega
    rw [dif_pos h32, wp_pure]
    intro k hk hki
    by_cases hik : k = i
    · subst hik
      simp
    · rw [Vector.getElem_set_ne _ _ (Ne.symm hik)]
      exact hd k hk (by omega)
  rw [eq_ok_iff_wp]
  refine wp_mono (wp_forFrom copied 0 32 destination (fun k _ hk => absurd hk (by omega)) hstep)
    (fun d hd => ?_) (fun _ => id)
  ext k hk
  rw [hd k hk (by omega)]

/-- With its arguments in order, the wrapper passes on what the callback answers. -/
theorem wps_rampartCryptoHash {provider : CryptoProvider κ} {message : Ptr UInt8} {len : ℕ}
    {digest : Vector UInt8 32} {ctx : κ} {Q : Unit → κ × Option (Vector UInt8 32) → Prop}
    {E : Status → κ × Option (Vector UInt8 32) → Prop} :
    wps (rampartCryptoHash (some provider) 1 (some message) len 32) Q E (ctx, some digest) ↔
      match provider.sha256 with
      | none => E .cryptoProvider (ctx, some digest)
      | some sha256 =>
        let answer := sha256 (some message) len ctx
        if answer.1.1 = .ok then Q () (answer.2, some answer.1.2)
        else E .cryptoProvider (answer.2, some digest) := by
  unfold rampartCryptoHash
  rcases hsha : provider.sha256 with - | sha256
  · simp [hsha]
  · by_cases hok : (sha256 (some message) len ctx).1.1 = .ok
    · simp [hsha, hok, copySha256Digest_eq]
    · simp [hsha, hok]

/-- The bytes that a message argument denotes. The empty message may be `NULL`. -/
def messageBytes (message : Option (Ptr UInt8)) (len : ℕ) : Option (List UInt8) :=
  if len = 0 then some [] else entries message len

/-- The `sha256` callback is the partial function `hash` of the message, whatever its context
is: where `hash` is defined it returns OK with that digest, elsewhere it returns an error. A
provider without the callback computes the function that is nowhere defined. -/
def CryptoProvider.Computes (provider : CryptoProvider κ)
    (hash : List UInt8 → Option (Vector UInt8 32)) : Prop :=
  match provider.sha256 with
  | none => ∀ m, hash m = none
  | some sha256 => ∀ message len m ctx, messageBytes message len = some m →
    match hash m with
    | some d => (sha256 message len ctx).1 = (.ok, d)
    | none => (sha256 message len ctx).1.1 ≠ .ok

theorem wps_hash_of_computes {provider : CryptoProvider κ}
    {hash : List UInt8 → Option (Vector UInt8 32)} (hc : provider.Computes hash)
    {message : Ptr UInt8} {len : ℕ} {m : List UInt8} (hm : messageBytes (some message) len = some m)
    {digest : Vector UInt8 32} {ctx : κ} {Q : Vector UInt8 32 → κ → Prop} {E : Status → κ → Prop}
    (hQ : ∀ d, hash m = some d → ∀ t, Q d t) (hE : hash m = none → ∀ t, E .cryptoProvider t) :
    wps (withOut (rampartCryptoHash (some provider) 1 (some message) len 32) digest) Q E ctx := by
  rw [wps_withOut, wps_rampartCryptoHash]
  unfold CryptoProvider.Computes at hc
  rcases hsha : provider.sha256 with - | sha256 <;> rw [hsha] at hc
  · exact hE (hc m) ctx
  · have hanswer := hc _ _ _ ctx hm
    rcases hd : hash m with - | d <;> rw [hd] at hanswer
    · simp only [if_neg hanswer]
      exact hE hd _
    · simp only [hanswer, if_true]
      exact ⟨d, rfl, hQ d hd _⟩

def hashProvider (hash : List UInt8 → Option (Vector UInt8 32)) : CryptoProvider Unit where
  sha256 := some fun message len ctx =>
    match (messageBytes message len).bind hash with
    | some d => ((.ok, d), ctx)
    | none => ((.cryptoProvider, Vector.replicate 32 0), ctx)
  verifyEcdsaP256Sha256 := none

theorem hashProvider_computes (hash : List UInt8 → Option (Vector UInt8 32)) :
    (hashProvider hash).Computes hash := by
  intro message len m ctx hm
  simp only [hm, Option.bind_some]
  rcases hash m with - | d
  · exact (by decide : Status.cryptoProvider ≠ .ok)
  · rfl

/-- One call of a callback, with its arguments and its answer. -/
inductive Invocation where
  | sha256 (message : Option (Ptr UInt8)) (messageLen : ℕ) (status : Status)
      (digest : Vector UInt8 32)
  | verifyEcdsaP256Sha256 (message : Option (Ptr UInt8)) (messageLen : ℕ)
      (publicKey signature : Option (Ptr UInt8)) (status : Status)
  deriving DecidableEq, Repr

def Invocation.status : Invocation → Status
  | .sha256 _ _ status _ => status
  | .verifyEcdsaP256Sha256 _ _ _ _ status => status

/-- The same provider, with a record of its invocations next to its context. -/
def CryptoProvider.logged (provider : CryptoProvider κ) :
    CryptoProvider (κ × List Invocation) where
  sha256 := provider.sha256.map fun sha256 message len s =>
    let answer := sha256 message len s.1
    (answer.1, answer.2, s.2 ++ [.sha256 message len answer.1.1 answer.1.2])
  verifyEcdsaP256Sha256 := provider.verifyEcdsaP256Sha256.map fun verify message len key sig s =>
    let answer := verify message len key sig s.1
    (answer.1, answer.2, s.2 ++ [.verifyEcdsaP256Sha256 message len key sig answer.1])

theorem CryptoProvider.logged_sha256 {provider : CryptoProvider κ} {sha256 : Sha256Fn κ}
    (h : provider.sha256 = some sha256) :
    provider.logged.sha256 = some fun message len s =>
      let answer := sha256 message len s.1
      (answer.1, answer.2, s.2 ++ [.sha256 message len answer.1.1 answer.1.2]) := by
  rw [logged, h]; rfl

theorem CryptoProvider.logged_verify {provider : CryptoProvider κ}
    {verify : EcdsaP256Sha256VerifyFn κ} (h : provider.verifyEcdsaP256Sha256 = some verify) :
    provider.logged.verifyEcdsaP256Sha256 = some fun message len key sig s =>
      let answer := verify message len key sig s.1
      (answer.1, answer.2, s.2 ++ [.verifyEcdsaP256Sha256 message len key sig answer.1]) := by
  rw [logged, h]; rfl

def SameAnswer (a b : Status × Vector UInt8 32) : Prop := a.1 = b.1 ∧ (a.1 = .ok → a.2 = b.2)

/-- In related contexts the callbacks of the two providers give the same answer and leave
related contexts. -/
structure CryptoProvider.Alike {μ : Type} (R : κ → μ → Prop) (provider : CryptoProvider κ)
    (other : CryptoProvider μ) : Prop where
  sha256 : Option.Rel (fun f g => ∀ message len s t, R s t →
      SameAnswer (f message len s).1 (g message len t).1 ∧
      R (f message len s).2 (g message len t).2) provider.sha256 other.sha256
  verifyEcdsaP256Sha256 : Option.Rel (fun f g => ∀ message len key sig s t, R s t →
      (f message len key sig s).1 = (g message len key sig t).1 ∧
      R (f message len key sig s).2 (g message len key sig t).2)
    provider.verifyEcdsaP256Sha256 other.verifyEcdsaP256Sha256

/-- A log does not change what a provider does. -/
theorem CryptoProvider.logged_alike (provider : CryptoProvider κ) :
    provider.logged.Alike (fun s t => s.1 = t) provider where
  sha256 := by
    rw [logged]
    cases provider.sha256 with
    | none => exact .none
    | some f =>
      refine .some ?_
      rintro message len s _ rfl
      exact ⟨⟨rfl, fun _ => rfl⟩, rfl⟩
  verifyEcdsaP256Sha256 := by
    rw [logged]
    cases provider.verifyEcdsaP256Sha256 with
    | none => exact .none
    | some f =>
      refine .some ?_
      rintro message len key sig s _ rfl
      exact ⟨rfl, rfl⟩

section Alike
variable {μ : Type} {R : κ → μ → Prop} {provider : CryptoProvider κ} {other : CryptoProvider μ}
  (h : provider.Alike R other)
include h

/-- The wrapper shows nothing of a digest that came with an error. -/
theorem rampartCryptoHash_simulates (algorithm : UInt16) (message : Option (Ptr UInt8))
    (messageLen digestLen : ℕ) : Simulates (OnFst R) (· = ·)
      (rampartCryptoHash (some provider) algorithm message messageLen digestLen)
      (rampartCryptoHash (some other) algorithm message messageLen digestLen) := by
  unfold rampartCryptoHash
  refine .get_bind ?_
  rintro ⟨s, o⟩ ⟨t, _⟩ ⟨-, rfl⟩
  cases o with
  | none => exact .lift _
  | some digest =>
    refine .lift_bind _ fun _ _ => .lift_bind _ fun _ _ => .lift_bind _ fun _ _ => ?_
    have hsha := h.sha256
    revert hsha
    generalize provider.sha256 = f
    generalize other.sha256 = g
    rintro (⟨hfg⟩ | -)
    · refine .bind (.onFst (.callback fun s t hst => hfg message messageLen s t hst)) ?_
      rintro ⟨st, d⟩ ⟨_, d'⟩ ⟨rfl, hd⟩
      refine .lift_bind _ fun _ hok => ?_
      obtain rfl := hd (not_not.mp (rejectIf_eq_ok_iff.mp hok))
      exact .lift_bind _ fun copied _ => .get_bind fun s t hst => .set ⟨hst.1, rfl⟩
    · exact .lift _

end Alike

end RampartBoot.Core

import RampartBoot.Foundation.Pointer
import RampartBoot.Foundation.LittleEndian
import RampartBoot.Foundation.Overlay

/-! # The ground of the host tool

The host tool runs with a `usize` of 64 bits. A `Result` with a text as its error is a checked
computation whose early result is that text, and a panic is a fault. SHA-256, SEC1 and ECDSA are
left to the `sha2` and `p256` crates.
-/

namespace RampartBoot.Host
open Foundation

abbrev Res (α : Type) := Checked String α

variable {α ε : Type}

/-- `ok_or_else`, and `map_err` where the error of the conversion is dropped. -/
def okOr (x : Option α) (error : String) : Res α :=
  match x with
  | some a => pure a
  | none => exit error

def expect (x : Option α) : Checked ε α :=
  match x with
  | some a => pure a
  | none => fault .expect

def u16TryFrom (n : ℕ) : Option UInt16 := if n < 2 ^ 16 then some (UInt16.ofNat n) else none

def u32TryFrom (n : ℕ) : Option UInt32 := if n < 2 ^ 32 then some (UInt32.ofNat n) else none

structure Range where
  start : ℕ
  stop : ℕ
  deriving DecidableEq, Repr

/-- `&bytes[range]` -/
def sliceRange (bytes : List α) (range : Range) : Checked ε (List α) :=
  if range.start ≤ range.stop ∧ range.stop ≤ bytes.length then
    pure (slice bytes range.start (range.stop - range.start))
  else fault .slice

/-- `bytes[i]` -/
def index (bytes : List α) (i : ℕ) : Checked ε α :=
  match bytes[i]? with
  | some a => pure a
  | none => fault .load

/-- `copy_from_slice` into a fresh array of `n` entries. -/
def copyFromSlice (n : ℕ) (src : List α) : Checked ε (Vector α n) :=
  if h : src.length = n then pure ⟨src.toArray, h⟩ else fault .copy

/-- `out[start..stop].copy_from_slice(src)` -/
def copyInto (out : List α) (start stop : ℕ) (src : List α) : Checked ε (List α) :=
  if start ≤ stop ∧ stop ≤ out.length then
    if src.length = stop - start then pure (patch out start src) else fault .copy
  else fault .slice

def checkedAdd (left right : ℕ) : Res ℕ :=
  okOr (if left + right ≤ SizeT.host.max then some (left + right) else none)
    "section offset overflow"

def checkedRange (offset len totalLen : ℕ) : Res Range := do
  let stop ← checkedAdd offset len
  rejectIf (stop > totalLen) "section range extends beyond image bounds"
  pure ⟨offset, stop⟩

def checkedU32 (value : ℕ) (field : String) : Res UInt32 :=
  okOr (u32TryFrom value) (field ++ " exceeds u32")

def requireMagic (actual expected : List UInt8) (label : String) : Res Unit :=
  rejectIf (actual ≠ expected) (label ++ " magic is invalid")

def requireZeroes (bytes : List UInt8) (label : String) : Res Unit :=
  rejectIf (bytes.any fun byte => byte != 0) (label ++ " must be zero")

def readU16 (bytes : List UInt8) (offset : ℕ) : Res UInt16 := do
  let stop ← checkedAdd offset 2
  rejectIf (stop > bytes.length) "u16 read exceeds bounds"
  let b₀ ← index bytes offset
  let b₁ ← index bytes (← SizeT.host.add offset 1)
  pure (UInt16.ofNat (leValue [b₀, b₁]))

def readU32 (bytes : List UInt8) (offset : ℕ) : Res UInt32 := do
  let stop ← checkedAdd offset 4
  rejectIf (stop > bytes.length) "u32 read exceeds bounds"
  let b₀ ← index bytes offset
  let b₁ ← index bytes (← SizeT.host.add offset 1)
  let b₂ ← index bytes (← SizeT.host.add offset 2)
  let b₃ ← index bytes (← SizeT.host.add offset 3)
  pure (UInt32.ofNat (leValue [b₀, b₁, b₂, b₃]))

def requireU16 (bytes : List UInt8) (offset : ℕ) (expected : UInt16) (label : String) :
    Res Unit := do
  let actual ← readU16 bytes offset
  rejectIf (actual ≠ expected) (label ++ " is unsupported")

def requireU32 (bytes : List UInt8) (offset : ℕ) (expected : UInt32) (label : String) :
    Res Unit := do
  let actual ← readU32 bytes offset
  rejectIf (actual ≠ expected) (label ++ " is unsupported")

def writeU16 (out : List UInt8) (offset : ℕ) (value : UInt16) : Checked ε (List UInt8) := do
  copyInto out offset (← SizeT.host.add offset 2) (u16Bytes value)

def writeU32 (out : List UInt8) (offset : ℕ) (value : UInt32) : Checked ε (List UInt8) := do
  copyInto out offset (← SizeT.host.add offset 4) (u32Bytes value)

variable {s : List UInt8} {i n : ℕ}

theorem hostMax_eq : SizeT.host.max = 2 ^ 64 - 1 := rfl

theorem okOr_some (a : α) (e : String) : okOr (some a) e = .ok a := rfl

theorem expect_u16TryFrom (h : n < 2 ^ 16) :
    (expect (u16TryFrom n) : Checked ε UInt16) = .ok (UInt16.ofNat n) := by
  rw [u16TryFrom, if_pos h]
  rfl

theorem expect_u32TryFrom (h : n < 2 ^ 32) :
    (expect (u32TryFrom n) : Checked ε UInt32) = .ok (UInt32.ofNat n) := by
  rw [u32TryFrom, if_pos h]
  rfl

theorem okOr_u32TryFrom (h : n < 2 ^ 32) (e : String) :
    okOr (u32TryFrom n) e = .ok (UInt32.ofNat n) := by
  rw [u32TryFrom, if_pos h, okOr_some]

theorem okOr_u32TryFrom_large (h : ¬ n < 2 ^ 32) (e : String) :
    okOr (u32TryFrom n) e = exit e := by
  rw [u32TryFrom, if_neg h, okOr]

theorem hostAdd_eq {a b : ℕ} (h : a + b < 2 ^ 64) :
    (SizeT.host.add a b : Checked ε ℕ) = .ok (a + b) :=
  SizeT.add_eq (by rw [hostMax_eq]; omega)

theorem checkedAdd_eq {a b : ℕ} (h : a + b < 2 ^ 64) : checkedAdd a b = .ok (a + b) := by
  rw [checkedAdd, if_pos (by rw [hostMax_eq]; omega), okOr_some]

theorem checkedRange_bind_eq_ok {β : Type} {f : Range → Res β} {a len total : ℕ} {r : β}
    (h : a + len < 2 ^ 64) : (checkedRange a len total >>= f) = .ok r ↔
      a + len ≤ total ∧ f ⟨a, a + len⟩ = .ok r := by
  rw [checkedRange, bind_assoc, bind_of_eq_ok (checkedAdd_eq h), bind_assoc, rejectIf_bind_eq_ok,
    not_lt, pure_bind]

theorem sliceRange_eq {a b : ℕ} (hab : a ≤ b) (hb : b ≤ s.length) :
    (sliceRange s ⟨a, b⟩ : Checked ε (List UInt8)) = .ok (slice s a (b - a)) := by
  simp [sliceRange, hab, hb, pure, Except.pure]

theorem copyFromSlice_eq (h : i + n ≤ s.length) :
    (copyFromSlice n (slice s i n) : Checked ε (Vector UInt8 n)) = .ok (vectorAt s i n) := by
  have hl := slice_length_of_le h
  rw [copyFromSlice, dif_pos hl]
  have hv : (⟨(slice s i n).toArray, hl⟩ : Vector UInt8 n) = vectorAt s i n :=
    Vector.toList_inj.mp (vectorAt_toList h).symm
  rw [hv]
  rfl

theorem copyFromSlice_toList {v : Vector UInt8 n} :
    (copyFromSlice n v.toList : Checked ε (Vector UInt8 n)) = .ok v := by
  rw [copyFromSlice, dif_pos v.length_toList]
  rfl

theorem copyInto_eq {out src : List UInt8} {a b : ℕ} (h : a + src.length = b)
    (hb : b ≤ out.length) :
    (copyInto out a b src : Checked ε (List UInt8)) = .ok (patch out a src) := by
  have hab : a ≤ b := by omega
  have hlen : src.length = b - a := by omega
  simp only [copyInto, hab, hb, hlen, and_self, if_true]
  rfl

theorem index_bind {f : UInt8 → Checked ε α} (h : i < s.length) :
    (index s i >>= f) = f s[i] := by
  simp [index, h, pure, Except.pure, bind, Except.bind]

private theorem slice_succ (h : i < s.length) : slice s i (n + 1) = s[i] :: slice s (i + 1) n := by
  simp only [slice, List.drop_eq_getElem_cons h, List.take_succ_cons]

theorem readU16_eq (h : i + 2 ≤ s.length) (hi : i + 2 < 2 ^ 64) :
    readU16 s i = .ok (u16At s i) := by
  have hs : slice s i 2 = [s[i], s[i + 1]] := by
    rw [slice_succ (by omega), slice_succ (by omega)]
    rfl
  unfold readU16
  simp (disch := omega) only [checkedAdd_eq, ok_bind, hostAdd_eq, index_bind,
    rejectIf_bind_eq_ok, not_lt, h, true_and, u16At, hs]
  rfl

theorem readU32_eq (h : i + 4 ≤ s.length) (hi : i + 4 < 2 ^ 64) :
    readU32 s i = .ok (u32At s i) := by
  have hs : slice s i 4 = [s[i], s[i + 1], s[i + 2], s[i + 3]] := by
    rw [slice_succ (by omega), slice_succ (by omega), slice_succ (by omega),
      slice_succ (by omega)]
    rfl
  unfold readU32
  simp (disch := omega) only [checkedAdd_eq, ok_bind, hostAdd_eq, index_bind,
    rejectIf_bind_eq_ok, not_lt, h, true_and, u32At, hs]
  rfl

theorem requireU16_eq (h : i + 2 ≤ s.length) (hi : i + 2 < 2 ^ 64) (expected : UInt16)
    (label : String) : requireU16 s i expected label =
      rejectIf (u16At s i ≠ expected) (label ++ " is unsupported") := by
  rw [requireU16, bind_of_eq_ok (readU16_eq h hi)]

theorem requireU32_eq (h : i + 4 ≤ s.length) (hi : i + 4 < 2 ^ 64) (expected : UInt32)
    (label : String) : requireU32 s i expected label =
      rejectIf (u32At s i ≠ expected) (label ++ " is unsupported") := by
  rw [requireU32, bind_of_eq_ok (readU32_eq h hi)]

theorem any_nonzero_iff : (s.any fun byte => byte != 0) = true ↔ s ≠ zeros s.length := by
  rw [zeros, ne_eq, List.eq_replicate_iff]
  simp

section Writes
variable {out src : List UInt8} {o : ℕ}

theorem expect_u16TryFrom_bind {f : UInt16 → Checked ε α} (h : n < 2 ^ 16) :
    (expect (u16TryFrom n) >>= f) = f (UInt16.ofNat n) :=
  bind_of_eq_ok (expect_u16TryFrom h)

theorem copyInto_bind {f : List UInt8 → Checked ε α} {stop : ℕ} (h : o + src.length = stop)
    (ho : stop ≤ out.length) : (copyInto out o stop src >>= f) = f (patch out o src) :=
  bind_of_eq_ok (copyInto_eq h ho)

theorem writeU16_eq (h : o + 2 ≤ out.length) (ho : o + 2 < 2 ^ 64) (v : UInt16) :
    (writeU16 out o v : Checked ε (List UInt8)) = .ok (patch out o (u16Bytes v)) := by
  rw [writeU16, bind_of_eq_ok (hostAdd_eq ho), copyInto_eq (by simp) h]

theorem writeU16_bind {f : List UInt8 → Checked ε α} (h : o + 2 ≤ out.length)
    (ho : o + 2 < 2 ^ 64) (v : UInt16) :
    (writeU16 out o v >>= f) = f (patch out o (u16Bytes v)) :=
  bind_of_eq_ok (writeU16_eq h ho v)

theorem writeU32_eq (h : o + 4 ≤ out.length) (ho : o + 4 < 2 ^ 64) (v : UInt32) :
    (writeU32 out o v : Checked ε (List UInt8)) = .ok (patch out o (u32Bytes v)) := by
  rw [writeU32, bind_of_eq_ok (hostAdd_eq ho), copyInto_eq (by simp) h]

theorem writeU32_bind {f : List UInt8 → Checked ε α} (h : o + 4 ≤ out.length)
    (ho : o + 4 < 2 ^ 64) (v : UInt32) :
    (writeU32 out o v >>= f) = f (patch out o (u32Bytes v)) :=
  bind_of_eq_ok (writeU32_eq h ho v)

end Writes

/-- The functions of the two crates that the tool calls; an error that the tool drops is
`none`. -/
structure Crates where
  SigningKey : Type
  VerifyingKey : Type
  Signature : Type
  /-- `Sha256::digest` -/
  sha256 : List UInt8 → Vector UInt8 32
  /-- `SigningKey::from_pkcs8_pem` -/
  fromPkcs8Pem : String → Except String SigningKey
  /-- `SigningKey::verifying_key` -/
  verifyingKey : SigningKey → VerifyingKey
  /-- `SigningKey::sign` -/
  sign : SigningKey → List UInt8 → Signature
  /-- `Signature::to_bytes` -/
  signatureToBytes : Signature → Vector UInt8 64
  /-- `Signature::from_slice` -/
  signatureFromSlice : List UInt8 → Option Signature
  /-- `VerifyingKey::from_sec1_bytes` -/
  fromSec1Bytes : List UInt8 → Option VerifyingKey
  /-- `VerifyingKey::to_encoded_point(false)` -/
  toEncodedPoint : VerifyingKey → List UInt8
  /-- `VerifyingKey::verify(..).is_ok()` -/
  verify : VerifyingKey → List UInt8 → Signature → Bool

namespace Crates

variable (c : Crates)

/-- An encoded point of 65 bytes is uncompressed, and decoding it loses nothing. -/
structure Sec1Lawful : Prop where
  tag : ∀ (k : Vector UInt8 65) (v : c.VerifyingKey), c.fromSec1Bytes k.toList = some v →
    k[0]? = some 0x04
  encode_decode : ∀ (k : Vector UInt8 65) (v : c.VerifyingKey),
    c.fromSec1Bytes k.toList = some v → c.toEncodedPoint v = k.toList

def keyIdOf (bytes : List UInt8) : Vector UInt8 8 := vectorAt (c.sha256 bytes).toList 0 8

end Crates

variable {c : Crates}

def deriveKeyId (c : Crates) (publicKey : c.VerifyingKey) : Checked ε (Vector UInt8 8) := do
  let digest := c.sha256 (c.toEncodedPoint publicKey)
  copyFromSlice 8 (← sliceRange digest.toList ⟨0, 8⟩)

theorem deriveKeyId_eq (v : c.VerifyingKey) :
    (deriveKeyId c v : Checked ε (Vector UInt8 8)) = .ok (c.keyIdOf (c.toEncodedPoint v)) := by
  have hlen : (c.sha256 (c.toEncodedPoint v)).toList.length = 32 := Vector.length_toList
  rw [deriveKeyId, bind_of_eq_ok (sliceRange_eq (by omega) (by omega)), Nat.sub_zero,
    copyFromSlice_eq (by omega)]
  rfl

def Crates.KeyIdMatches (c : Crates) (publicKey : Vector UInt8 65) (keyId : Vector UInt8 8) :
    Prop :=
  ∃ v, c.fromSec1Bytes publicKey.toList = some v ∧ c.keyIdOf (c.toEncodedPoint v) = keyId

end RampartBoot.Host

import Mathlib.Data.List.Basic
import Mathlib.Algebra.GroupWithZero.Nat
import Mathlib.Data.UInt
import Mathlib.Tactic.Ring
import Mathlib.Tactic.NormNum

/-! # Byte strings

`slice s i n` is the run of `n` entries of `s` from index `i`, shorter where `s` ends first. In a
byte string such a run is a little-endian numeral.
-/

namespace RampartBoot.Foundation

section Slice
variable {α : Type*}

def slice (s : List α) (i n : ℕ) : List α := (s.drop i).take n

theorem slice_length (s : List α) (i n : ℕ) : (slice s i n).length = min n (s.length - i) := by
  simp [slice]

theorem slice_length_of_le {s : List α} {i n : ℕ} (h : i + n ≤ s.length) :
    (slice s i n).length = n := by
  rw [slice_length]; omega

@[simp] theorem slice_self (s : List α) : slice s 0 s.length = s := by simp [slice]

theorem slice_zero (s : List α) (n : ℕ) : slice s 0 n = s.take n := rfl

theorem getElem?_slice {s : List α} {i n k : ℕ} (h : k < n) : (slice s i n)[k]? = s[i + k]? := by
  simp [slice, h]

/-- A slice taken inside a slice is a slice of the whole. -/
theorem slice_slice {s : List α} {i n j k : ℕ} (h : j + k ≤ n) :
    slice (slice s i n) j k = slice s (i + j) k := by
  simp only [slice, List.drop_take, List.take_take, List.drop_drop]
  congr 1; omega

theorem slice_append_left {s t : List α} {i n : ℕ} (h : i + n ≤ s.length) :
    slice (s ++ t) i n = slice s i n := by
  rw [slice, List.drop_append_of_le_length (by omega), List.take_append_of_le_length]
  · rfl
  · rw [List.length_drop]; omega

theorem slice_append_right (s t : List α) (i n : ℕ) :
    slice (s ++ t) (s.length + i) n = slice t i n := by
  simp [slice, List.drop_append, List.drop_of_length_le]

theorem slice_append_slice (s : List α) (i n k : ℕ) :
    slice s i n ++ slice s (i + n) k = slice s i (n + k) := by
  simp only [slice, List.take_add, List.drop_drop]

theorem slice_eq_slice_iff {s t : List α} {i j n : ℕ} (hs : i + n ≤ s.length)
    (ht : j + n ≤ t.length) : slice s i n = slice t j n ↔ ∀ k < n, s[i + k]? = t[j + k]? := by
  constructor
  · intro h k hk
    rw [← getElem?_slice hk, ← getElem?_slice hk, h]
  · intro h
    apply List.ext_getElem?
    intro k
    by_cases hk : k < n
    · rw [getElem?_slice hk, getElem?_slice hk, h k hk]
    · rw [List.getElem?_eq_none, List.getElem?_eq_none] <;>
        rw [slice_length_of_le (by assumption)] <;> omega

end Slice

def ascii (s : List Char) : List UInt8 := s.map fun c => UInt8.ofNat c.toNat

def zeros (n : ℕ) : List UInt8 := List.replicate n 0

@[simp] theorem zeros_length (n : ℕ) : (zeros n).length = n := List.length_replicate

def leBytes : ℕ → ℕ → List UInt8
  | 0, _ => []
  | w + 1, n => UInt8.ofNat n :: leBytes w (n / 256)

def leValue : List UInt8 → ℕ
  | [] => 0
  | b :: s => b.toNat + 256 * leValue s

@[simp] theorem leBytes_length (w n : ℕ) : (leBytes w n).length = w := by
  induction w generalizing n with
  | zero => rfl
  | succ w ih => simp [leBytes, ih]

theorem leValue_leBytes (w n : ℕ) : leValue (leBytes w n) = n % 256 ^ w := by
  induction w generalizing n with
  | zero => simp [leBytes, leValue, Nat.mod_one]
  | succ w ih =>
    rw [leBytes, leValue, ih, UInt8.toNat_ofNat', pow_succ' 256 w, Nat.mod_mul]

theorem leBytes_leValue (s : List UInt8) : leBytes s.length (leValue s) = s := by
  induction s with
  | nil => rfl
  | cons b s ih =>
    have hb : b.toNat < 256 := b.toNat_lt
    have hdiv : (b.toNat + 256 * leValue s) / 256 = leValue s := by omega
    rw [List.length_cons, leBytes, leValue, hdiv, ih]
    congr 1
    apply UInt8.toNat_inj.mp
    rw [UInt8.toNat_ofNat']
    omega

theorem leValue_lt (s : List UInt8) : leValue s < 256 ^ s.length := by
  induction s with
  | nil => simp [leValue]
  | cons b s ih =>
    have hb : b.toNat < 256 := b.toNat_lt
    rw [leValue, List.length_cons, pow_succ]
    omega

/-- Byte strings of one length are equal exactly when they denote the same number. -/
theorem eq_leBytes_iff {s : List UInt8} {w n : ℕ} (hs : s.length = w) (hn : n < 256 ^ w) :
    s = leBytes w n ↔ leValue s = n := by
  constructor
  · rintro rfl
    rw [leValue_leBytes, Nat.mod_eq_of_lt hn]
  · rintro rfl
    rw [← hs, leBytes_leValue]

def u16At (s : List UInt8) (i : ℕ) : UInt16 := UInt16.ofNat (leValue (slice s i 2))

def u32At (s : List UInt8) (i : ℕ) : UInt32 := UInt32.ofNat (leValue (slice s i 4))

theorem toNat_u16At {s : List UInt8} {i : ℕ} : (u16At s i).toNat = leValue (slice s i 2) := by
  have h := leValue_lt (slice s i 2)
  have hl : 256 ^ (slice s i 2).length ≤ 256 ^ 2 :=
    Nat.pow_le_pow_right (by norm_num) (by rw [slice_length]; omega)
  rw [u16At, UInt16.toNat_ofNat', Nat.mod_eq_of_lt (by omega)]

theorem toNat_u32At {s : List UInt8} {i : ℕ} : (u32At s i).toNat = leValue (slice s i 4) := by
  have h := leValue_lt (slice s i 4)
  have hl : 256 ^ (slice s i 4).length ≤ 256 ^ 4 :=
    Nat.pow_le_pow_right (by norm_num) (by rw [slice_length]; omega)
  rw [u32At, UInt32.toNat_ofNat', Nat.mod_eq_of_lt (by omega)]

theorem u32_eq_ofNat_iff {v : UInt32} {n : ℕ} (h : n < 2 ^ 32) :
    v = UInt32.ofNat n ↔ v.toNat = n := by
  rw [← UInt32.toNat_inj, UInt32.toNat_ofNat', Nat.mod_eq_of_lt h]

def u16Bytes (v : UInt16) : List UInt8 := leBytes 2 v.toNat

def u32Bytes (v : UInt32) : List UInt8 := leBytes 4 v.toNat

@[simp] theorem u16Bytes_length (v : UInt16) : (u16Bytes v).length = 2 := leBytes_length 2 _

@[simp] theorem u32Bytes_length (v : UInt32) : (u32Bytes v).length = 4 := leBytes_length 4 _

theorem slice_eq_u16Bytes {s : List UInt8} {i : ℕ} (h : i + 2 ≤ s.length) (v : UInt16) :
    slice s i 2 = u16Bytes v ↔ u16At s i = v := by
  rw [u16Bytes, eq_leBytes_iff (slice_length_of_le h) v.toNat_lt, ← toNat_u16At, UInt16.toNat_inj]

theorem slice_eq_u32Bytes {s : List UInt8} {i : ℕ} (h : i + 4 ≤ s.length) (v : UInt32) :
    slice s i 4 = u32Bytes v ↔ u32At s i = v := by
  rw [u32Bytes, eq_leBytes_iff (slice_length_of_le h) v.toNat_lt, ← toNat_u32At, UInt32.toNat_inj]

/-- The `n` entries of `s` from index `i` as a vector, zero where `s` has ended. -/
def vectorAt (s : List UInt8) (i n : ℕ) : Vector UInt8 n := Vector.ofFn fun k => s.getD (i + k) 0

theorem vectorAt_toList {s : List UInt8} {i n : ℕ} (h : i + n ≤ s.length) :
    (vectorAt s i n).toList = slice s i n := by
  apply List.ext_getElem
  · rw [Vector.length_toList, slice_length_of_le h]
  · intro k hk _
    rw [Vector.length_toList] at hk
    simp [vectorAt, slice, List.getElem?_eq_getElem (show i + k < s.length by omega)]

theorem slice_eq_toList {s : List UInt8} {i n : ℕ} (h : i + n ≤ s.length) (v : Vector UInt8 n) :
    slice s i n = v.toList ↔ vectorAt s i n = v := by
  rw [← vectorAt_toList h, Vector.toList_inj]

theorem vectorAt_toList_self {n : ℕ} (v : Vector UInt8 n) : vectorAt v.toList 0 n = v := by
  have hv : v.toList.length = n := v.length_toList
  rw [← slice_eq_toList (by omega)]
  exact List.take_of_length_le hv.le

theorem vectorAt_slice {s : List UInt8} {i n j k : ℕ} (h : j + k ≤ n) :
    vectorAt (slice s i n) j k = vectorAt s (i + j) k := by
  ext l hl
  simp only [vectorAt, Vector.getElem_ofFn, List.getD_eq_getElem?_getD]
  rw [getElem?_slice (by omega), Nat.add_assoc]

theorem u32At_slice {s : List UInt8} {i n j : ℕ} (h : j + 4 ≤ n) :
    u32At (slice s i n) j = u32At s (i + j) := by
  rw [u32At, slice_slice h]; rfl

private theorem or_shiftLeft_eq {a b k : ℕ} (h : a < 2 ^ k) : a ||| b <<< k = a + b * 2 ^ k := by
  rw [Nat.or_comm, ← Nat.shiftLeft_add_eq_or_of_lt h, Nat.shiftLeft_eq, Nat.add_comm]

private theorem slice_two {s : List UInt8} {i : ℕ} {b₀ b₁ : UInt8} (h₀ : s[i]? = some b₀)
    (h₁ : s[i + 1]? = some b₁) : slice s i 2 = [b₀, b₁] := by
  apply List.ext_getElem?
  intro k
  rcases k with - | - | k
  · simpa [getElem?_slice] using h₀
  · simpa [getElem?_slice] using h₁
  · rw [List.getElem?_eq_none (by rw [slice_length]; omega)]; rfl

theorem u16At_eq_or {s : List UInt8} {i : ℕ} {b₀ b₁ : UInt8} (h₀ : s[i]? = some b₀)
    (h₁ : s[i + 1]? = some b₁) : b₀.toUInt16 ||| (b₁.toUInt16 <<< 8) = u16At s i := by
  apply UInt16.toNat_inj.mp
  have l₀ := b₀.toNat_lt
  have l₁ := b₁.toNat_lt
  have hshift : b₁.toNat <<< 8 < 2 ^ 16 := by rw [Nat.shiftLeft_eq]; omega
  have hor : b₀.toNat ||| b₁.toNat <<< 8 = b₀.toNat + b₁.toNat * 2 ^ 8 := or_shiftLeft_eq l₀
  rw [toNat_u16At, slice_two h₀ h₁]
  simp only [UInt16.toNat_or, UInt16.toNat_shiftLeft, UInt8.toNat_toUInt16, UInt16.reduceToNat,
    Nat.reduceMod, Nat.mod_eq_of_lt hshift, hor, leValue]
  ring

theorem u32At_eq_or {s : List UInt8} {i : ℕ} {b₀ b₁ b₂ b₃ : UInt8} (h₀ : s[i]? = some b₀)
    (h₁ : s[i + 1]? = some b₁) (h₂ : s[i + 2]? = some b₂) (h₃ : s[i + 3]? = some b₃) :
    b₀.toUInt32 ||| (b₁.toUInt32 <<< 8) ||| (b₂.toUInt32 <<< 16) ||| (b₃.toUInt32 <<< 24) =
      u32At s i := by
  have hcut : slice s i 4 = slice s i 2 ++ slice s (i + 2) 2 := (slice_append_slice s i 2 2).symm
  apply UInt32.toNat_inj.mp
  have l₀ := b₀.toNat_lt
  have l₁ := b₁.toNat_lt
  have l₂ := b₂.toNat_lt
  have l₃ := b₃.toNat_lt
  have s₁ : b₁.toNat <<< 8 < 2 ^ 32 := by rw [Nat.shiftLeft_eq]; omega
  have s₂ : b₂.toNat <<< 16 < 2 ^ 32 := by rw [Nat.shiftLeft_eq]; omega
  have s₃ : b₃.toNat <<< 24 < 2 ^ 32 := by rw [Nat.shiftLeft_eq]; omega
  rw [toNat_u32At, hcut, slice_two h₀ h₁, slice_two h₂ h₃]
  simp only [UInt32.toNat_or, UInt32.toNat_shiftLeft, UInt8.toNat_toUInt32, UInt32.reduceToNat,
    Nat.reduceMod, Nat.mod_eq_of_lt s₁, Nat.mod_eq_of_lt s₂, Nat.mod_eq_of_lt s₃]
  rw [or_shiftLeft_eq (k := 8) (by omega), or_shiftLeft_eq (k := 16) (by omega),
    or_shiftLeft_eq (k := 24) (by omega)]
  simp only [leValue, List.cons_append, List.nil_append]
  ring

end RampartBoot.Foundation

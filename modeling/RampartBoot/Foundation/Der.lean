import RampartBoot.Foundation.LittleEndian
import Mathlib.Data.Nat.Size

/-! # Big-endian numerals and the DER form of a pair of integers

DER writes a nonnegative integer with as few content bytes as keep the first bit clear. A tag and
a length stand in front, one byte each as long as the content is shorter than 128 bytes.
-/

namespace RampartBoot.Foundation

variable {n r s : ℕ}

def beValue (s : List UInt8) : ℕ := leValue s.reverse

theorem beValue_inj {s t : List UInt8} (hlen : s.length = t.length)
    (h : beValue s = beValue t) : s = t := by
  have hs := leBytes_leValue s.reverse
  have ht := leBytes_leValue t.reverse
  rw [List.length_reverse] at hs ht
  rw [← hlen, ← beValue, ← h, beValue, hs] at ht
  exact List.reverse_injective ht

def derContent (n : ℕ) : List UInt8 := (leBytes (n.size / 8 + 1) n).reverse

/-- The INTEGER `n`, in the short form of the length. -/
def derInteger (n : ℕ) : List UInt8 :=
  0x02 :: UInt8.ofNat (derContent n).length :: derContent n

def derSignature (r s : ℕ) : List UInt8 :=
  0x30 :: UInt8.ofNat (derInteger r ++ derInteger s).length :: (derInteger r ++ derInteger s)

theorem derContent_length (n : ℕ) : (derContent n).length = n.size / 8 + 1 := by
  rw [derContent, List.length_reverse, leBytes_length]

theorem beValue_derContent (n : ℕ) : beValue (derContent n) = n := by
  have hlt : n < 256 ^ (n.size / 8 + 1) := by
    calc n < 2 ^ n.size := Nat.lt_size_self n
      _ ≤ 2 ^ (8 * (n.size / 8 + 1)) := Nat.pow_le_pow_right (by decide) (by omega)
      _ = 256 ^ (n.size / 8 + 1) := Nat.pow_mul 2 8 _
  rw [beValue, derContent, List.reverse_reverse, leValue_leBytes, Nat.mod_eq_of_lt hlt]

theorem derInteger_length (n : ℕ) : (derInteger n).length = n.size / 8 + 3 := by
  rw [derInteger, List.length_cons, List.length_cons, derContent_length]

theorem derSignature_length (r s : ℕ) :
    (derSignature r s).length = r.size / 8 + s.size / 8 + 8 := by
  rw [derSignature, List.length_cons, List.length_cons, List.length_append, derInteger_length,
    derInteger_length]
  omega

theorem size_div_eight_le (hn : n < 2 ^ 256) : n.size / 8 ≤ 32 := by
  have hsize : n.size ≤ 256 := Nat.size_le.mpr hn
  omega

theorem derSignature_length_le (hr : r < 2 ^ 256) (hs : s < 2 ^ 256) :
    (derSignature r s).length ≤ 72 := by
  have hr' := size_div_eight_le hr
  have hs' := size_div_eight_le hs
  rw [derSignature_length]
  omega

def readDerInteger : List UInt8 → Option (ℕ × List UInt8)
  | 0x02 :: len :: rest => some (beValue (rest.take len.toNat), rest.drop len.toNat)
  | _ => none

def readDerSignature : List UInt8 → Option (ℕ × ℕ)
  | 0x30 :: _ :: rest => do
    let (r, rest) ← readDerInteger rest
    let (s, _) ← readDerInteger rest
    return (r, s)
  | _ => none

theorem readDerInteger_append (hr : r < 2 ^ 256) (t : List UInt8) :
    readDerInteger (derInteger r ++ t) = some (r, t) := by
  have hle := size_div_eight_le hr
  have hlen : (UInt8.ofNat (derContent r).length).toNat = (derContent r).length := by
    rw [UInt8.toNat_ofNat', derContent_length]
    omega
  rw [derInteger, List.cons_append, List.cons_append, readDerInteger, hlen, List.take_left,
    List.drop_left, beValue_derContent]

theorem readDerSignature_derSignature (hr : r < 2 ^ 256) (hs : s < 2 ^ 256) :
    readDerSignature (derSignature r s) = some (r, s) := by
  have hsecond := readDerInteger_append hs []
  rw [List.append_nil] at hsecond
  rw [derSignature, readDerSignature, readDerInteger_append hr]
  simp only [Option.bind_eq_bind, Option.bind_some, hsecond]
  rfl

example : derSignature 0x80 1 = [0x30, 7, 0x02, 2, 0, 0x80, 0x02, 1, 1] := by decide

end RampartBoot.Foundation

import Mathlib.Data.Nat.Basic
import Mathlib.Data.List.Induction

/-! # Printed numerals

The decimal numerals that are printed are the strings of digits without a superfluous zero in
front, each of its own value. A byte is printed as two hexadecimal digits, which can be read in
either case.
-/

namespace RampartBoot.Foundation

/-- What holds of the 128 ASCII characters holds of every character below 128. -/
theorem forall_ascii {P : Char → Prop} (h : ∀ n < 128, P (Char.ofNat n)) (c : Char)
    (hc : c.toNat < 128) : P c := by
  rw [← Char.ofNat_toNat c]
  exact h c.toNat hc

def digitsValue (radix : ℕ) (value : Char → ℕ) (acc : ℕ) (s : List Char) : ℕ :=
  s.foldl (fun n c => n * radix + value c) acc

theorem le_digitsValue {radix : ℕ} {value : Char → ℕ} (hradix : 0 < radix) (acc : ℕ)
    (s : List Char) : acc ≤ digitsValue radix value acc s := by
  induction s generalizing acc with
  | nil => exact Nat.le_refl _
  | cons c s ih =>
    calc acc ≤ acc * radix := Nat.le_mul_of_pos_right _ hradix
      _ ≤ acc * radix + value c := Nat.le_add_right _ _
      _ ≤ _ := ih _

theorem digitsValue_ten (acc : ℕ) (s : List Char) :
    digitsValue 10 (fun c => c.toNat - '0'.toNat) acc s = Nat.ofDigitChars 10 s acc := by
  simp only [digitsValue, Nat.ofDigitChars, Nat.mul_comm]

/-- Digits without a superfluous zero in front. -/
structure Canonical (s : List Char) : Prop where
  ne_nil : s ≠ []
  isDigit : ∀ c ∈ s, c.isDigit = true
  zero : s.head? = some '0' → s = ['0']

theorem digitChar_sub_zero {c : Char} (hc : c.isDigit = true) :
    c.toNat - '0'.toNat < 10 ∧ Nat.digitChar (c.toNat - '0'.toNat) = c := by
  simp only [Char.isDigit, Bool.and_eq_true, decide_eq_true_eq, UInt32.le_iff_toNat_le] at hc
  obtain ⟨hlo, hhi⟩ : 48 ≤ c.toNat ∧ c.toNat ≤ 57 := hc
  have hlt : c.toNat - '0'.toNat < 10 := by
    change c.toNat - 48 < 10
    omega
  refine ⟨hlt, Char.toNat_inj.mp ?_⟩
  rw [Nat.toNat_digitChar_of_lt_ten hlt]
  change 48 + (c.toNat - 48) = c.toNat
  omega

theorem canonical_toDigits (n : ℕ) : Canonical (Nat.toDigits 10 n) where
  ne_nil := Nat.toDigits_ne_nil
  isDigit c hc := Nat.isDigit_of_mem_toDigits (by decide) (by decide) hc
  zero := by
    have hpos : ∀ n, n ≠ 0 → (Nat.toDigits 10 n).head? ≠ some '0' := by
      intro n
      induction n using Nat.base_induction 10 (by decide) with
      | single m hm =>
        intro hne hhead
        rw [Nat.toDigits_of_lt_base hm] at hhead
        exact hne (Nat.digitChar_eq_zero.mp (Option.some.inj hhead))
      | digit m k hk hm ih =>
        intro _
        rw [← Nat.toDigits_append_toDigits (by decide) hm hk, List.head?_append]
        have hsome : (Nat.toDigits 10 m).head?.isSome := by
          simp
        rw [Option.or_of_isSome hsome]
        exact ih (by omega)
    intro hhead
    by_cases hn : n = 0
    · rw [hn, Nat.toDigits_zero]
    · exact absurd hhead (hpos n hn)

/-- A canonical numeral is what its value is printed as. -/
theorem Canonical.toDigits_eq {s : List Char} (h : Canonical s) :
    Nat.toDigits 10 (Nat.ofDigitChars 10 s 0) = s := by
  induction s using List.reverseRecOn with
  | nil => exact absurd rfl h.ne_nil
  | append_singleton s c ih =>
    obtain ⟨hlt, hc⟩ := digitChar_sub_zero (h.isDigit c (by simp))
    rw [Nat.ofDigitChars_append, Nat.ofDigitChars_cons, Nat.ofDigitChars_nil]
    by_cases hs : s = []
    · subst hs
      rw [Nat.ofDigitChars_nil, Nat.mul_zero, Nat.zero_add,
        Nat.toDigits_of_lt_base hlt, hc]
      rfl
    · -- the digits in front of the last one start with no zero at all
      have hhead : s.head? ≠ some '0' := by
        intro hzero
        have hall := h.zero (by rw [List.head?_append, hzero, Option.some_or])
        have hlen := congrArg List.length hall
        simp only [List.length_append, List.length_singleton, Nat.add_eq_right] at hlen
        exact hs (List.length_eq_zero_iff.mp hlen)
      have hfront := ih ⟨hs, fun d hd => h.isDigit d (List.mem_append_left _ hd),
        fun hzero => absurd hzero hhead⟩
      have hpos : 0 < Nat.ofDigitChars 10 s 0 := by
        by_contra hzero
        rw [Nat.eq_zero_of_not_pos hzero, Nat.toDigits_zero] at hfront
        rw [← hfront] at hhead
        exact hhead rfl
      rw [← Nat.toDigits_append_toDigits (by decide) hpos hlt, hfront,
        Nat.toDigits_of_lt_base hlt, hc]

def IsHexDigit (c : Char) : Prop :=
  '0' ≤ c ∧ c ≤ '9' ∨ 'a' ≤ c ∧ c ≤ 'f' ∨ 'A' ≤ c ∧ c ≤ 'F'

instance : DecidablePred IsHexDigit := fun _ => inferInstanceAs (Decidable (_ ∨ _))

def hexValue (c : Char) : ℕ := "0123456789abcdef".toList.idxOf c.toLower

theorem IsHexDigit.ascii {c : Char} (h : IsHexDigit c) : c.toNat < 128 := by
  rcases h with ⟨-, h⟩ | ⟨-, h⟩ | ⟨-, h⟩
  · exact Nat.lt_of_le_of_lt h (by decide)
  · exact Nat.lt_of_le_of_lt h (by decide)
  · exact Nat.lt_of_le_of_lt h (by decide)

theorem IsHexDigit.hexValue_lt {c : Char} (h : IsHexDigit c) : hexValue c < 16 := by
  have hlt := h.ascii
  revert h
  exact forall_ascii (P := fun c => IsHexDigit c → hexValue c < 16) (by decide) c hlt

theorem hexDigit_digitChar : ∀ n < 16, ∀ c, (c = Nat.digitChar n ∨ c = (Nat.digitChar n).toUpper) →
    IsHexDigit c ∧ hexValue c = n := by
  have h : ∀ n < 16, (IsHexDigit (Nat.digitChar n) ∧ hexValue (Nat.digitChar n) = n) ∧
      IsHexDigit (Nat.digitChar n).toUpper ∧ hexValue (Nat.digitChar n).toUpper = n := by
    decide
  rintro n hn c (rfl | rfl)
  · exact (h n hn).1
  · exact (h n hn).2

theorem leftpad_toDigits_sixteen {n : ℕ} (h : n < 256) :
    (Nat.toDigits 16 n).leftpad 2 '0' = [Nat.digitChar (n / 16), Nat.digitChar (n % 16)] := by
  by_cases hn : n < 16
  · rw [Nat.toDigits_of_lt_base hn, Nat.div_eq_of_lt hn, Nat.mod_eq_of_lt hn]
    rfl
  · rw [Nat.toDigits_of_base_le (by decide) (Nat.le_of_not_lt hn),
      Nat.toDigits_of_lt_base (by omega)]
    rfl

end RampartBoot.Foundation

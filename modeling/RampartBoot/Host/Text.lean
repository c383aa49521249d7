import RampartBoot.Foundation.Numeral
import RampartBoot.Host.Basic

/-! # Text functions of the Rust library

A `&str` is the list of its characters. Lengths and slice bounds count UTF-8 bytes, and a slice
whose bound falls inside a character is a panic.
-/

namespace RampartBoot.Host
open Foundation

variable {ε : Type}

/-- `str::len` -/
def byteLen (s : List Char) : ℕ := (s.map Char.utf8Size).sum

/-- The characters before and behind the byte offset `n`, if it is a boundary of `s`. -/
def splitAtByte : ℕ → List Char → Option (List Char × List Char)
  | 0, s => some ([], s)
  | _ + 1, [] => none
  | n + 1, c :: s =>
    if c.utf8Size ≤ n + 1 then
      (splitAtByte (n + 1 - c.utf8Size) s).map fun (front, rest) => (c :: front, rest)
    else none

/-- `&s[start..stop]` -/
def strSlice (s : List Char) (start stop : ℕ) : Checked ε (List Char) :=
  if start ≤ stop then
    match splitAtByte start s with
    | none => fault .slice
    | some (_, rest) => match splitAtByte (stop - start) rest with
      | none => fault .slice
      | some (front, _) => pure front
  else fault .slice

/-- `str::strip_prefix` -/
def stripLeading (start s : List Char) : Option (List Char) :=
  if start.isPrefixOf s then some (s.drop start.length) else none

def toDigit (radix : ℕ) (c : Char) : Option ℕ :=
  let value :=
    if '0' ≤ c ∧ c ≤ '9' then some (c.toNat - '0'.toNat)
    else if 'a' ≤ c ∧ c ≤ 'z' then some (c.toNat - 'a'.toNat + 10)
    else if 'A' ≤ c ∧ c ≤ 'Z' then some (c.toNat - 'A'.toNat + 10)
    else none
  value.filter fun d => d < radix

/-- Read digits from the front into `acc`; a value that reaches `bound` overflows. -/
def readDigits (radix bound : ℕ) : ℕ → List Char → Option ℕ
  | acc, [] => some acc
  | acc, c :: s => do
    let d ← toDigit radix c
    let acc := acc * radix + d
    if acc < bound then readDigits radix bound acc s else none

/-- `from_str_radix` of an unsigned type with values below `bound`: an optional plus sign and at
least one digit. -/
def fromStrRadix (radix bound : ℕ) (s : List Char) : Option ℕ :=
  let digits := match s with
    | '+' :: rest => rest
    | s => s
  if digits.isEmpty then none else readDigits radix bound 0 digits

def parseU16 (s : List Char) : Option UInt16 := (fromStrRadix 10 (2 ^ 16) s).map UInt16.ofNat

def u8FromStrRadix (s : List Char) (radix : ℕ) : Option UInt8 :=
  (fromStrRadix radix (2 ^ 8) s).map UInt8.ofNat

theorem toDigit_of_not_ascii {radix : ℕ} {c : Char} (h : ¬ c.toNat < 128) :
    toDigit radix c = none := by
  have hle : ∀ d : Char, d.toNat < 128 → ¬ c ≤ d := fun d hd hcd =>
    h (Nat.lt_of_le_of_lt hcd hd)
  simp [toDigit, hle '9' (by decide), hle 'z' (by decide), hle 'Z' (by decide)]

theorem toDigit_ten (c : Char) :
    toDigit 10 c = if c.isDigit then some (c.toNat - '0'.toNat) else none := by
  by_cases hc : c.toNat < 128
  · exact forall_ascii
      (P := fun c => toDigit 10 c = if c.isDigit then some (c.toNat - '0'.toNat) else none)
      (by decide) c hc
  · have hdigit : ¬ c.isDigit = true := by
      simp only [Char.isDigit, Bool.and_eq_true, decide_eq_true_eq]
      exact fun h => hc (Nat.lt_of_le_of_lt h.2 (by decide))
    rw [toDigit_of_not_ascii hc, if_neg hdigit]

theorem toDigit_sixteen (c : Char) :
    toDigit 16 c = if IsHexDigit c then some (hexValue c) else none := by
  by_cases hc : c.toNat < 128
  · exact forall_ascii
      (P := fun c => toDigit 16 c = if IsHexDigit c then some (hexValue c) else none)
      (by decide) c hc
  · rw [toDigit_of_not_ascii hc, if_neg fun h => hc h.ascii]

section Digits
variable {radix bound acc n : ℕ} {s : List Char}

/-- Reading stops at the first value that is too large, and none behind it is smaller. -/
theorem readDigits_eq_some_iff {IsDigit : Char → Prop} [DecidablePred IsDigit] {value : Char → ℕ}
    (hdigit : ∀ c, toDigit radix c = if IsDigit c then some (value c) else none)
    (hradix : 0 < radix) (hacc : acc < bound) : readDigits radix bound acc s = some n ↔
      (∀ c ∈ s, IsDigit c) ∧ digitsValue radix value acc s = n ∧ n < bound := by
  induction s generalizing acc with
  | nil =>
    simp only [readDigits, Option.some.injEq, List.not_mem_nil, false_implies, implies_true,
      digitsValue, List.foldl_nil, true_and]
    exact ⟨fun h => ⟨h, h ▸ hacc⟩, And.left⟩
  | cons c s ih =>
    rw [readDigits, hdigit]
    change _ ↔ _ ∧ digitsValue radix value (acc * radix + value c) s = n ∧ _
    by_cases hc : IsDigit c
    · by_cases hlt : acc * radix + value c < bound
      · simp only [hc, if_true, Option.bind_eq_bind, Option.bind_some, if_pos hlt, ih hlt,
          List.forall_mem_cons, true_and]
      · have hge : acc * radix + value c ≤ digitsValue radix value (acc * radix + value c) s :=
          le_digitsValue hradix _ _
        simp only [hc, if_true, Option.bind_eq_bind, Option.bind_some, if_neg hlt]
        refine iff_of_false (by simp) ?_
        rintro ⟨-, rfl, hn⟩
        omega
    · simp [hc]

theorem readDigits_ten (hacc : acc < bound) : readDigits 10 bound acc s = some n ↔
    (∀ c ∈ s, c.isDigit = true) ∧ Nat.ofDigitChars 10 s acc = n ∧ n < bound := by
  rw [readDigits_eq_some_iff toDigit_ten (by decide) hacc, digitsValue_ten]

/-- `from_str_radix` reads digits, of which there is at least one, behind at most one plus sign. -/
theorem fromStrRadix_eq_some_iff : fromStrRadix radix bound s = some n ↔
    ∃ digits, (s = digits ∨ s = '+' :: digits) ∧ digits ≠ [] ∧
      readDigits radix bound 0 digits = some n := by
  have hplus : ∀ rest, readDigits radix bound 0 ('+' :: rest) = none := fun _ => rfl
  unfold fromStrRadix
  dsimp only
  split
  · next rest =>
    constructor
    · intro h
      split_ifs at h with hempty
      exact ⟨rest, .inr rfl, by simpa using hempty, h⟩
    · rintro ⟨digits, rfl | h, hne, hread⟩
      · rw [hplus] at hread
        cases hread
      · obtain rfl := (List.cons.inj h).2
        rw [if_neg (by simpa using hne), hread]
  · next hs =>
    constructor
    · intro h
      split_ifs at h with hempty
      exact ⟨s, .inl rfl, by simpa using hempty, h⟩
    · rintro ⟨digits, rfl | h, hne, hread⟩
      · rw [if_neg (by simpa using hne), hread]
      · exact absurd h (hs digits)

end Digits

end RampartBoot.Host
